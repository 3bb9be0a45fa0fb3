import DynamicDns.Address.Printer
import DynamicDns.Text.Quoted

/-! # Errors

Everything that can go wrong, by cause. An error may be wrapped in the stages in which it arose; its
kind is then that of the innermost error. The kinds that tell of a wrong configuration arise before
anything is sent.
-/

namespace DynamicDns

open Text

/-- How the client fails, apart from what the far end says. -/
inductive TransportFailure where
  /-- No answer came. -/
  | sending
  /-- The body broke off. -/
  | receiving
  /-- The request is none that the client sends. -/
  | building
  deriving DecidableEq, Repr

def TransportFailure.message : TransportFailure → String
  | .sending => "error sending request"
  | .receiving => "error decoding response body"
  | .building => "builder error"

inductive Error where
  | unsupportedIpVersion (provider : String) (version : IpVersion)
  | malformedConfig (reason : String)
  | emptyToken
  | emptyPassword
  | malformedPassword
  | unknownProvider (name : String)
  | settings (reason : String)
  | requestBuild (reason : String)
  | transport (failure : TransportFailure)
  | cancelled
  /-- The provider answers with a status that tells no success. -/
  | badStatus (status : Nat) (body : String)
  /-- The body of an answer does not have the expected shape. -/
  | unreadableAnswer (reason : String)
  /-- The provider refuses in the body of a successful answer. -/
  | refused (reason : String)
  | recordNotFound
  | recordIdNotFound
  | ambiguousRecord (count : Nat)
  | requestEncode (reason : String)
  /-- The provider reports something that is no address. -/
  | malformedAddress (text : String)
  | addressMismatch (sent received : Address)
  | inStage (stage : String) (source : Error)
  deriving DecidableEq, Repr

/-- What an error is about, without its details. -/
inductive ErrorKind where
  | unsupportedIpVersion
  | malformedConfig
  | emptyToken
  | emptyPassword
  | malformedPassword
  | unknownProvider
  | settings
  | requestBuild
  | transport
  | cancelled
  | badStatus
  | unreadableAnswer
  | refused
  | recordNotFound
  | recordIdNotFound
  | ambiguousRecord
  | requestEncode
  | malformedAddress
  | addressMismatch
  deriving DecidableEq, Repr

/-- Whether the configuration has to be changed, so that trying again is of no use. -/
def ErrorKind.isConfiguration : ErrorKind → Bool
  | unsupportedIpVersion | malformedConfig | emptyToken | emptyPassword | malformedPassword
  | unknownProvider | settings => true
  | _ => false

namespace Error

/-- The kind of the innermost error. -/
def kind : Error → ErrorKind
  | unsupportedIpVersion _ _ => .unsupportedIpVersion
  | malformedConfig _ => .malformedConfig
  | emptyToken => .emptyToken
  | emptyPassword => .emptyPassword
  | malformedPassword => .malformedPassword
  | unknownProvider _ => .unknownProvider
  | settings _ => .settings
  | requestBuild _ => .requestBuild
  | transport _ => .transport
  | cancelled => .cancelled
  | badStatus _ _ => .badStatus
  | unreadableAnswer _ => .unreadableAnswer
  | refused _ => .refused
  | recordNotFound => .recordNotFound
  | recordIdNotFound => .recordIdNotFound
  | ambiguousRecord _ => .ambiguousRecord
  | requestEncode _ => .requestEncode
  | malformedAddress _ => .malformedAddress
  | addressMismatch _ _ => .addressMismatch
  | inStage _ source => source.kind

def message : Error → String
  | unsupportedIpVersion provider version => version.name ++ " is not supported by " ++ provider
  | malformedConfig reason => "malformed configuration: " ++ reason
  | emptyToken => "token is empty"
  | emptyPassword => "password is empty"
  | malformedPassword => "password is malformed"
  | unknownProvider name => "unknown provider: " ++ name
  | settings reason => "invalid settings: " ++ reason
  | requestBuild reason => "cannot build request: " ++ reason
  | transport failure => failure.message
  | cancelled => "update cancelled"
  | badStatus status body => "bad HTTP status: " ++ Numeral.decimal status ++ ": " ++ body
  | unreadableAnswer reason => "failed unmarshaling response: " ++ reason
  | refused reason => "unsuccessful response: " ++ reason
  | recordNotFound => "record not found"
  | recordIdNotFound => "record id not found"
  | ambiguousRecord count => Numeral.decimal count ++ " records match, expected exactly one"
  | requestEncode reason => "cannot encode request body: " ++ reason
  | malformedAddress text => "IP address received is malformed: " ++ Quoted.encode text
  | addressMismatch sent received =>
    "IP address received " ++ received.text ++ " does not match IP address sent " ++ sent.text
  | inStage stage source => stage ++ ": " ++ source.message

/-- The messages of the errors inside, the outermost first. A failure of the client stands for an error of
the client, and has inside what that error has; the client alone knows the messages of these causes. -/
def sources (causes : TransportFailure → List String) : Error → List String
  | inStage _ source => source.message :: source.sources causes
  | transport failure => causes failure
  | _ => []

end Error

end DynamicDns
