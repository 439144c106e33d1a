import SqlIdentifier.Program

namespace SqlIdentifier

/-- What the system says when it cannot open or read a file. -/
def readError : IO.Error → ReadError
  | .otherError code message | .resourceBusy code message | .hardwareFault code message
  | .timeExpired code message | .unsupportedOperation code message
  | .invalidArgument _ code message | .permissionDenied _ code message
  | .resourceExhausted _ code message | .inappropriateType _ code message =>
    .system code.toNat message
  | error => .system 5 error.toString

/-- Reads what stands at a path of the file system. Only what is not there counts as missing. -/
def findFile (path : String) : IO Found := do
  let .ok _ ← (IO.FS.realPath path).toBaseIO | return .missing
  match ← (IO.FS.readBinFile path).toBaseIO with
  | .ok bytes =>
    match String.fromUTF8? bytes with
    | none => return .unreadable .notText
    | some content => return .file content
  | .error error =>
    let error := readError error
    return if error = .isDirectory then .directory else .unreadable error

end SqlIdentifier

open SqlIdentifier

def main (arguments : List String) : IO UInt32 := do
  let names := ["SQLIDT_VERBOSE", "SQLIDT_NO_COLOR", "SQLIDT_CONFIG", "HOME", "XDG_CONFIG_HOME"]
  let values ← names.mapM fun name => do return (name, ← IO.getEnv name)
  let environment (name : String) := (values.lookup name).join
  let invocation := CommandLine.read arguments environment
  let places := match invocation with
    | .run (some path) _ => [ConfigPlace.given path]
    | .run none _ => ConfigPlace.search
    | _ => []
  let paths := places.filterMap (ConfigPlace.path? (.ofEnvironment environment))
  let found ← paths.mapM fun path => do return (path, ← findFile path)
  let findAt (path : String) := (found.lookup path).getD .missing
  let exit := Exit.ofInvocation (ConfigPlace.find (.ofEnvironment environment) findAt) invocation
  IO.print exit.stdout
  if let some line := exit.errorLine then
    IO.eprintln line
  return exit.status.toUInt32
