import TaggedBlock.Json.Text

set_option autoImplicit false

namespace TaggedBlock.Json

inductive Scalar where
  | null
  | boolean (value : Bool)
  | integer (value : Int)
  | string (value : String)
deriving DecidableEq, Repr

def Scalar.write : Scalar → List Char
  | .null => ['n', 'u', 'l', 'l']
  | .boolean true => ['t', 'r', 'u', 'e']
  | .boolean false => ['f', 'a', 'l', 's', 'e']
  | .integer value => (toString value).toList
  | .string value => writeString value

def writeMember (member : String × Scalar) : List Char :=
  [' ', ' '] ++ writeString member.1 ++ [':', ' '] ++ member.2.write

def writeObject (members : List (String × Scalar)) : List Char :=
  ['\x7b', '\n'] ++ [',', '\n'].intercalate (members.map writeMember) ++ ['\n', '\x7d']

end TaggedBlock.Json
