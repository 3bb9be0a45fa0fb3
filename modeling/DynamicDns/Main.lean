import DynamicDns.Command.Run

/-! # The command

Reads the environment and the settings file, runs, and shows what there is to see. The command has
no network of its own: no far end can be reached, so every update fails when its request is sent.
-/

namespace DynamicDns.Command

/-- The fault that a failed reading tells of. -/
def fileFault : IO.Error → FileFault
  | .noFileOrDirectory _ _ _ => .notFound
  | .inappropriateType _ _ _ => .isDirectory
  | e => .other (toString e)

/-- Reads a file, which must be text. -/
def readFile (path : String) : IO (Except FileFault String) := do
  try
    let bytes ← IO.FS.readBinFile path
    match String.fromUTF8? bytes with
    | some text => return .ok text
    | none => return .error .notText
  catch e => return .error (fileFault e)

/-- Shows an outcome; the exit code. -/
def report (outcome : Outcome) : IO UInt32 := do
  if let some complaint := outcome.complaint then IO.eprintln complaint
  for event in outcome.events do
    IO.println event.line
  return outcome.exit.code.toUInt32

/-- The variables that the command looks at. -/
def variableNames : List String :=
  ["DDNS_HTTP_TIMEOUT_SECS", "DDNS_CONFIG", "DDNS_IP", "DDNS_LOG_LEVEL"]

end DynamicDns.Command

open DynamicDns

def main : IO UInt32 := do
  let values ← Command.variableNames.filterMapM fun name =>
    return (← IO.getEnv name).map fun value => (name, value)
  match Command.Options.ofEnvironment (values.lookup ·) with
  | .error refusal => Command.report (Command.refuse refusal)
  | .ok options =>
    let file ← Command.readFile options.path
    Command.report (Command.runWith (Remote.unreachable Unit) () [] options file)
