import TaggedBlock.Json.Number

set_option autoImplicit false

namespace TaggedBlock.Json

def readWord (word text : List Char) : Except Halt (List Char) :=
  match word, text with
  | [], _ => .ok text
  | _ :: _, [] => .error (.before .endInValue [])
  | letter :: word, c :: rest =>
    if c = letter then readWord word rest else .error (.on .expectedIdent text)

def readFound (text : List Char) : Except Halt (Found × List Char) :=
  match text with
  | [] => .error (.before .endInValue [])
  | 'n' :: rest => (readWord ['u', 'l', 'l'] rest).map (.null, ·)
  | 't' :: rest => (readWord ['r', 'u', 'e'] rest).map (.boolean true, ·)
  | 'f' :: rest => (readWord ['a', 'l', 's', 'e'] rest).map (.boolean false, ·)
  | '"' :: rest => (readString rest).map fun (value, rest) => (.string value, rest)
  | '[' :: _ => .ok (.list, text)
  | '\x7b' :: _ => .ok (.object, text)
  | c :: _ =>
    if c = '-' ∨ c.isDigit then (Number.read text).map fun (number, rest) => (number.found, rest)
    else .error (.on .expectedValue text)

def refuse (wanted : String) (text : List Char) : Halt :=
  match readFound text with
  | .error halt => halt
  | .ok (found, rest) => .before (.wrongType found wanted) rest

def readStringValue (text : List Char) : Except Halt (String × List Char) :=
  match skipSpace text with
  | '"' :: rest => readString rest
  | text => .error (refuse "a string" text)

def readIntegerValue (wanted : String) (least greatest : Int) (text : List Char) :
    Except Halt (Int × List Char) :=
  let text := skipSpace text
  match text with
  | [] => .error (.before .endInValue [])
  | c :: _ =>
    if c = '-' ∨ c.isDigit then
      match Number.read text with
      | .error halt => .error halt
      | .ok (.integer value, rest) =>
        if least ≤ value ∧ value ≤ greatest then .ok (value, rest)
        else .error (.before (.wrongValue value wanted) rest)
      | .ok (number, rest) => .error (.before (.wrongType number.found wanted) rest)
    else .error (refuse wanted text)

end TaggedBlock.Json
