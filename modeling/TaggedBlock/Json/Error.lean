import TaggedBlock.Text.Quoted

set_option autoImplicit false

namespace TaggedBlock.Json

inductive Found where
  | null
  | boolean (value : Bool)
  | integer (value : Int)
  | decimal (text : String)
  | string (text : String)
  | list
  | object
deriving DecidableEq, Repr

def Found.describe : Found → String
  | .null => "null"
  | .boolean value => "boolean `" ++ (if value then "true" else "false") ++ "`"
  | .integer value => "integer `" ++ toString value ++ "`"
  | .decimal text => "floating point `" ++ text ++ "`"
  | .string text => "string " ++ Text.quoted text
  | .list => "sequence"
  | .object => "map"

inductive Fault where
  | endInList
  | endInObject
  | endInString
  | endInValue
  | expectedColon
  | expectedCommaOrListEnd
  | expectedCommaOrObjectEnd
  | expectedIdent
  | expectedValue
  | invalidEscape
  | invalidNumber
  | numberOutOfRange
  | controlCharacter
  | keyMustBeString
  | loneSurrogate
  | surrogateAlone
  | trailingComma
  | trailingCharacters
  | wrongType (found : Found) (wanted : String)
  | wrongValue (value : Int) (wanted : String)
  | unknownField (name : String) (known : List String)
  | duplicateField (name : String)
deriving DecidableEq, Repr

def Fault.message : Fault → String
  | .endInList => "EOF while parsing a list"
  | .endInObject => "EOF while parsing an object"
  | .endInString => "EOF while parsing a string"
  | .endInValue => "EOF while parsing a value"
  | .expectedColon => "expected `:`"
  | .expectedCommaOrListEnd => "expected `,` or `]`"
  | .expectedCommaOrObjectEnd => "expected `,` or `\x7d`"
  | .expectedIdent => "expected ident"
  | .expectedValue => "expected value"
  | .invalidEscape => "invalid escape"
  | .invalidNumber => "invalid number"
  | .numberOutOfRange => "number out of range"
  | .controlCharacter => "control character (\\u0000-\\u001F) found while parsing a string"
  | .keyMustBeString => "key must be a string"
  | .loneSurrogate => "lone leading surrogate in hex escape"
  | .surrogateAlone => "unexpected end of hex escape"
  | .trailingComma => "trailing comma"
  | .trailingCharacters => "trailing characters"
  | .wrongType found wanted => "invalid type: " ++ found.describe ++ ", expected " ++ wanted
  | .wrongValue value wanted =>
    "invalid value: integer `" ++ toString value ++ "`, expected " ++ wanted
  | .unknownField name known =>
    "unknown field `" ++ name ++ "`, expected one of " ++
      ", ".intercalate (known.map fun field => "`" ++ field ++ "`")
  | .duplicateField name => "duplicate field `" ++ name ++ "`"

structure Position where
  line : Nat
  column : Nat
deriving DecidableEq, Repr

def Position.start : Position := ⟨1, 0⟩

def Position.after (position : Position) : (bytes : Nat) → List Char → Position
  | 0, _ => position
  | _ + 1, [] => position
  | bytes + 1, c :: text =>
    if c = '\n' then Position.after ⟨position.line + 1, 0⟩ bytes text
    else
      let taken := min c.utf8Size (bytes + 1)
      have : bytes + 1 - taken < bytes + 1 := by
        have positive := c.utf8Size_pos
        omega
      Position.after ⟨position.line, position.column + taken⟩ (bytes + 1 - taken) text

structure Error where
  fault : Fault
  position : Position
deriving DecidableEq, Repr

def Error.message (error : Error) : String :=
  error.fault.message ++ " at line " ++ toString error.position.line ++ " column " ++
    toString error.position.column

def Error.diagnostic (error : Error) : String :=
  "Error(" ++ Text.quoted error.fault.message ++ ", line: " ++ toString error.position.line ++
    ", column: " ++ toString error.position.column ++ ")"

-- A fault met `beyond` bytes into `rest`, the part of the text not read by then.
structure Halt where
  fault : Fault
  rest : List Char
  beyond : Nat

def Halt.before (fault : Fault) (rest : List Char) : Halt := ⟨fault, rest, 0⟩

def Halt.on (fault : Fault) (rest : List Char) : Halt := ⟨fault, rest, 1⟩

def utf8Length (text : List Char) : Nat := text.foldl (fun sum c => sum + c.utf8Size) 0

def Halt.toError (halt : Halt) (text : List Char) : Error :=
  let rest := utf8Length halt.rest
  ⟨halt.fault, Position.start.after (utf8Length text - rest + min halt.beyond rest) text⟩

end TaggedBlock.Json
