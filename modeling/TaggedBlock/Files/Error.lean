import TaggedBlock.Text.Quoted

set_option autoImplicit false

namespace TaggedBlock

inductive FileError where
  | system (number : Nat) (kind : String) (text : String)
  | notText
deriving DecidableEq, Repr

namespace FileError

def notFound : FileError := .system 2 "NotFound" "No such file or directory"
def notDirectory : FileError := .system 20 "NotADirectory" "Not a directory"
def isDirectory : FileError := .system 21 "IsADirectory" "Is a directory"
def nameTooLong : FileError := .system 36 "InvalidFilename" "File name too long"

def notTextMessage : String := "stream did not contain valid UTF-8"

def message : FileError → String
  | .system number _ text => text ++ " (os error " ++ toString number ++ ")"
  | .notText => notTextMessage

def diagnostic : FileError → String
  | .system number kind text =>
    "Os \x7b code: " ++ toString number ++ ", kind: " ++ kind ++ ", message: " ++
      Text.quoted text ++ " \x7d"
  | .notText =>
    "Error \x7b kind: InvalidData, message: " ++ Text.quoted notTextMessage ++ " \x7d"

end FileError

end TaggedBlock
