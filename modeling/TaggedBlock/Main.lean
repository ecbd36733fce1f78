import TaggedBlock.CommandLine.Commands

set_option autoImplicit false

namespace TaggedBlock.CommandLine

def fileError (error : IO.Error) : FileError :=
  match error with
  | .noFileOrDirectory _ _ _ => .notFound
  | .inappropriateType _ 21 _ => .isDirectory
  | .inappropriateType _ 20 _ => .notDirectory
  | .permissionDenied _ number _ => .system number.toNat "PermissionDenied" "Permission denied"
  | error => .system 5 "Uncategorized" (toString error)

def readFile (path : String) : IO (Except FileError Bytes) := do
  try
    let content ← IO.FS.readBinFile path
    return .ok content.data.toList
  catch error => return .error (fileError error)

def replaceFile (path : String) (content : Bytes) : IO (Except FileError Unit) := do
  try
    IO.FS.writeBinFile path ⟨content.toArray⟩
    return .ok ()
  catch error => return .error (fileError error)

def Action.runSystem (level : Log.Level) : Action → IO UInt32
  | .finish => return 0
  | .fail failure => do
    IO.eprintln ("Error: " ++ failure.diagnostic)
    return 1
  | .log record next => do
    if record.reaches level then IO.eprintln record.line
    next.runSystem level
  | .print line next => do
    IO.println line
    next.runSystem level
  | .read path next => do
    let content ← readFile path
    (next content).runSystem level
  | .write path content next => do
    let result ← replaceFile path content
    (next result).runSystem level

def usage : String :=
  "Wrap and unwrap self-describing compressed blocks\n\n" ++
  "Usage:\n" ++
  "  wrap <INPUT> -o <OUTPUT> [-a <ALGORITHM>]\n" ++
  "  unwrap <INPUT> -o <OUTPUT>\n" ++
  "  inspect <INPUT> [--json]\n" ++
  "  algorithms\n\n" ++
  "Every command takes -c <CONFIG> and -v."

def runArguments (arguments : List String) : IO UInt32 := do
  match parse arguments with
  | .error .help => do
    IO.println usage
    return 0
  | .error .misuse => do
    IO.eprintln usage
    return 2
  | .ok request => request.action.runSystem request.level

end TaggedBlock.CommandLine

def main (arguments : List String) : IO UInt32 := TaggedBlock.CommandLine.runArguments arguments
