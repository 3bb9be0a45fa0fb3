import DynamicDns.Command.Directory
import DynamicDns.Command.Environment
import DynamicDns.Command.Rule
import DynamicDns.Settings

/-! # Running the command

The command reads the settings, makes the updaters of all records, and then makes every record of
the right family hold the address. Nothing is sent before all updaters are made. The updates run
at the same time; a schedule tells which of them goes on at each moment.
-/

namespace DynamicDns.Command

open Text

inductive Exit where
  | success
  /-- The environment or the settings are not good. -/
  | refused
  /-- At least one record was not updated. -/
  | failed
  deriving DecidableEq, Repr

def Exit.code : Exit → Nat
  | .success => 0
  | .refused => 1
  | .failed => 2

def event (level : Log.Level) (message : String) : Log.Event := ⟨level, .command, message⟩

/-! ## Loading -/

/-- The log of loading, and the updaters if all of them could be made. -/
structure Loading where
  events : List Log.Event
  updaters : Option (List Updater)

def starting : Log.Event := event .info "Starting ddnsctl"

/-- The providers that come with the command. -/
def builtin : Registry := Registry.ofList Provider.all

def registered : List Log.Event :=
  Provider.all.map Registry.registering ++
    [event .info ("Registered providers: "
      ++ ", ".intercalate (builtin.toList.map Provider.name))]

def configurationError (reason : String) : Log.Event :=
  event .error ("Configuration error: " ++ reason)

def loaded (count : Nat) : Log.Event :=
  event .info ("Configuration loaded: " ++ Numeral.decimal count ++ " record(s)")

/-- Loads the settings from a file, of which the content or the fault is given. -/
def load (path : String) (file : Except FileFault String) : Loading :=
  match Settings.ofFile path (file.mapError FileFault.message) with
  | .error e => ⟨[starting, configurationError ("loading " ++ path ++ ": " ++ e.message)], none⟩
  | .ok settings =>
    match settings.build builtin with
    | .error e => ⟨starting :: registered ++ [configurationError e.message], none⟩
    | .ok updaters => ⟨starting :: registered ++ [loaded updaters.length], some updaters⟩

/-! ## Updating -/

def isFor (ip : Address) (u : Updater) : Bool := u.target.version == ip.version

def skipping (ip : Address) (u : Updater) : Log.Event :=
  event .info ("Skipping " ++ u.describe ++ ": " ++ ip.text ++ " is not an "
    ++ u.target.version.name ++ " address")

/-- Updates a record and tells how it went; whether it went well. -/
def attempt (ip : Address) (u : Updater) : Conversation Bool := do
  match ← (u.update ip).run with
  | .ok confirmed =>
    .note (event .info (u.describe ++ " updated to " ++ confirmed.text)) (.done true)
  | .error e => .note (event .error (u.describe ++ " failed: " ++ e.message)) (.done false)

/-- How many attempts failed. -/
def failures (results : List Bool) : Nat := results.countP (!·)

def failuresEvent (count : Nat) : List Log.Event :=
  if count = 0 then []
  else [event .error (Numeral.decimal count ++ " record(s) failed to update")]

/-- What can be seen of a run. -/
structure Outcome where
  exit : Exit
  /-- What stands on the error output. -/
  complaint : Option String
  events : List Log.Event
  /-- The requests that reached the far end. -/
  requests : List Http.Request

variable {σ : Type}

/-- Updates the records of the family of the address. -/
def updateAll (remote : Remote σ) (s : σ) (schedule : List Nat) (ip : Address)
    (updaters : List Updater) : Outcome :=
  let held := Conversation.interleave remote schedule
    ((updaters.filter (isFor ip)).map (attempt ip)) s false
  let count := failures held.result
  { exit := if count = 0 then .success else .failed
    complaint := none
    events := (updaters.filter (!isFor ip ·)).map (skipping ip) ++ held.events
      ++ failuresEvent count
    requests := held.requests }

/-! ## Running -/

/-- The run with options that are good, all events included. -/
def runAll (remote : Remote σ) (s : σ) (schedule : List Nat) (options : Options)
    (file : Except FileFault String) : Outcome :=
  let loading := load options.path file
  match loading.updaters with
  | none => ⟨.refused, none, loading.events, []⟩
  | some updaters =>
    let outcome := updateAll remote s schedule options.address updaters
    { outcome with events := loading.events ++ outcome.events }

/-- The run with options that are good, as far as the log shows it. -/
def runWith (remote : Remote σ) (s : σ) (schedule : List Nat) (options : Options)
    (file : Except FileFault String) : Outcome :=
  let outcome := runAll remote s schedule options file
  { outcome with events := outcome.events.filter (·.isShown options.level) }

/-- The run when the environment is not good. -/
def refuse (refusal : Refusal) : Outcome := ⟨.refused, some refusal.message, [], []⟩

/-- The run in an environment and a directory. -/
def run (remote : Remote σ) (s : σ) (schedule : List Nat) (env : String → Option String)
    (directory : Directory) : Outcome :=
  match Options.ofEnvironment env with
  | .error refusal => refuse refusal
  | .ok options => runWith remote s schedule options (directory.read options.path)

end DynamicDns.Command
