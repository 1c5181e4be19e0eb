import CrossFlags.CommandLine.Survey

/-!
# The program

Reads variables and files, runs, and prints what the run leaves behind. Nothing is decided here.
-/

set_option autoImplicit false

open CrossFlags

/-- The variables that a run may ask for, as far as they are set. -/
def readVariables : IO Variables := do
  let mut found := []
  for name in CommandLine.variableNames do
    if let some value ← IO.getEnv name then
      found := found ++ [(Utf8.encode name, Utf8.encode value)]
  return found

/-- What stands where reading fails. -/
def nodeOfError : IO.Error → Node
  | .inappropriateType .. => .directory
  | .permissionDenied .. => .closed .accessDenied [] true
  | error => .closed (.other error.toString) [] true

/-- What stands at a path that leads somewhere. -/
def readAt (name : String) : IO Node := do
  try return .file (← IO.FS.readBinFile name).toList true
  catch error => return nodeOfError error

/-- What stands at a path. -/
def lookAt (path : Octets) : IO (Except Refusal Node) := do
  let name := Utf8.decodeLossy path
  try
    let _ ← IO.FS.realPath name
    return .ok (← readAt name)
  catch _ => return .error .notFound

/-- The host, as far as a run will ask. -/
def survey (environment : Variables) (args : List String) : IO Host := do
  let mut facts : Facts := []
  for _ in [0, 1] do
    for path in CommandLine.lookups (.ofFacts environment facts) args do
      unless facts.any fun fact => fact.1 == path do
        facts := (path, ← lookAt path) :: facts
  return .ofFacts environment facts

/-- Runs the program on its arguments. -/
def main (args : List String) : IO UInt32 := do
  let environment ← readVariables
  let host ← survey environment args
  let outcome := CommandLine.run host args
  IO.print outcome.stdout
  for line in outcome.log do
    IO.eprintln line
  return outcome.status
