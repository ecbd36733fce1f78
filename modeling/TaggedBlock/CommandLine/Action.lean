import TaggedBlock.Files.Folder
import TaggedBlock.Log

set_option autoImplicit false

namespace TaggedBlock.CommandLine

inductive Failure where
  | library (error : Error)
  | file (error : FileError)
deriving DecidableEq

def Failure.diagnostic : Failure → String
  | .library error => error.diagnostic
  | .file error => error.diagnostic

inductive Action where
  | finish
  | fail (failure : Failure)
  | log (record : Log.Record) (next : Action)
  | print (line : String) (next : Action)
  | read (path : String) (next : Except FileError Bytes → Action)
  | write (path : String) (content : Bytes) (next : Except FileError Unit → Action)

namespace Action

def logAll (records : List Log.Record) (next : Action) : Action := records.foldr .log next

def printAll (lines : List String) (next : Action) : Action := lines.foldr .print next

structure Outcome where
  folder : Folder
  failure : Option Failure
  records : List Log.Record
  lines : List String

def run (action : Action) (folder : Folder) : Outcome :=
  match action with
  | .finish => ⟨folder, none, [], []⟩
  | .fail failure => ⟨folder, some failure, [], []⟩
  | .log record next =>
    let outcome := next.run folder
    { outcome with records := record :: outcome.records }
  | .print line next =>
    let outcome := next.run folder
    { outcome with lines := line :: outcome.lines }
  | .read path next => (next (folder.read path)).run folder
  | .write path content next =>
    match folder.write path content with
    | .error error => (next (.error error)).run folder
    | .ok folder => (next (.ok ())).run folder

end Action

end TaggedBlock.CommandLine
