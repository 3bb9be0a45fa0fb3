import DynamicDns.Address.Parser
import DynamicDns.Log
import DynamicDns.Text.Blank
import DynamicDns.Text.Numeral

/-! # The environment of the command

The command is controlled by four variables. They are judged before anything else happens, in two
rounds: first the time limit must be a number and the address must be there, then all four values
must be good. The first rule that is broken decides what the command says.
-/

namespace DynamicDns.Command

open Text

/-- Why a text is no number of sixty-four bits. -/
inductive NumberFault where
  | empty
  | invalidDigit
  | tooLarge
  deriving DecidableEq, Repr

def NumberFault.message : NumberFault → String
  | .empty => "cannot parse integer from empty string"
  | .invalidDigit => "invalid digit found in string"
  | .tooLarge => "number too large to fit in target type"

/-- Reads on, after digits with the given value. The first fault from the left counts. -/
def readDigits (n : Nat) : List Char → Except NumberFault Nat
  | [] => .ok n
  | c :: rest =>
    match Numeral.digitValue? 10 c with
    | none => .error .invalidDigit
    | some d =>
      if n * 10 + d < 0x10000000000000000 then readDigits (n * 10 + d) rest
      else .error .tooLarge

/-- Reads decimal digits, which may follow a plus sign. -/
def readNumber : List Char → Except NumberFault Nat
  | [] => .error .empty
  | ['+'] => .error .invalidDigit
  | '+' :: digits => readDigits 0 digits
  | digits => readDigits 0 digits

/-- Why the command does not start. -/
inductive Refusal where
  | unreadableTimeLimit (raw : String) (fault : NumberFault)
  | missingAddress
  | blankPath
  | invalidAddress (raw : String)
  | timeLimitOutOfRange (seconds : Nat)
  | unknownLevel (raw : String)
  deriving DecidableEq, Repr

def Refusal.message : Refusal → String
  | .unreadableTimeLimit raw fault =>
    "Configuration error: DDNS_HTTP_TIMEOUT_SECS must be a whole number of seconds. Got: " ++ raw
      ++ ": " ++ fault.message
  | .missingAddress =>
    "Configuration error: DDNS_IP is required. Set it via: export DDNS_IP=203.0.113.5"
  | .blankPath => "Configuration validation error: DDNS_CONFIG cannot be empty"
  | .invalidAddress raw =>
    "Configuration validation error: DDNS_IP is not a valid IP address. Got: " ++ raw
      ++ ": invalid IP address syntax"
  | .timeLimitOutOfRange seconds =>
    "Configuration validation error: DDNS_HTTP_TIMEOUT_SECS must be between 1 and 300 seconds. "
      ++ "Got: " ++ Numeral.decimal seconds
  | .unknownLevel raw =>
    "Configuration validation error: DDNS_LOG_LEVEL '" ++ raw
      ++ "' is not valid. Valid levels: trace, debug, info, warn, error"

/-- What the variables say. -/
structure Options where
  /-- Where the settings are. -/
  path : String
  /-- The address that the records shall hold. -/
  address : Address
  /-- How many seconds a request may take. -/
  timeLimit : Nat
  /-- The least level that the log shows. -/
  level : Log.Level
  deriving DecidableEq, Repr

namespace Options

def defaultPath : String := "config.json"

def defaultTimeLimit : Nat := 30

/-- The level of a name, in lower or upper case. No other character than a letter of ASCII folds
to a letter of one of the names. -/
def level? (name : String) : Option Log.Level :=
  [Log.Level.trace, .debug, .info, .warn, .error].find? fun level =>
    level.text.toList == name.toList.map Char.toUpper

def readTimeLimit : Option String → Except Refusal Nat
  | none => .ok defaultTimeLimit
  | some raw => (readNumber (Blank.trimChars raw.toList)).mapError (Refusal.unreadableTimeLimit raw)

def checkPath (path : String) : Except Refusal Unit :=
  if Blank.isBlankText path then .error .blankPath else .ok ()

def readAddress (raw : String) : Except Refusal Address :=
  match Address.parse? (Blank.trim raw) with
  | some address => .ok address
  | none => .error (.invalidAddress raw)

def checkTimeLimit (seconds : Nat) : Except Refusal Unit :=
  if 1 ≤ seconds ∧ seconds ≤ 300 then .ok () else .error (.timeLimitOutOfRange seconds)

def readLevel : Option String → Except Refusal Log.Level
  | none => .ok .info
  | some raw =>
    match level? raw with
    | some level => .ok level
    | none => .error (.unknownLevel raw)

/-- Reads the variables of an environment, given as the value of each name. -/
def ofEnvironment (env : String → Option String) : Except Refusal Options := do
  let timeLimit ← readTimeLimit (env "DDNS_HTTP_TIMEOUT_SECS")
  let path := (env "DDNS_CONFIG").getD defaultPath
  match env "DDNS_IP" with
  | none => .error .missingAddress
  | some raw =>
    checkPath path
    let address ← readAddress raw
    checkTimeLimit timeLimit
    let level ← readLevel (env "DDNS_LOG_LEVEL")
    .ok ⟨path, address, timeLimit, level⟩

end Options

end DynamicDns.Command
