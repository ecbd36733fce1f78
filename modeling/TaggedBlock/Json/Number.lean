import TaggedBlock.Decimal.Shortest
import TaggedBlock.Json.Text

set_option autoImplicit false

namespace TaggedBlock.Json

inductive Number where
  | integer (value : Int)
  | float (value : Float)

def floatStyle : Decimal.Style := ⟨-5, 15⟩

def Number.found : Number → Found
  | .integer value => .integer value
  | .float value => .decimal (Decimal.ofFloat floatStyle value)

namespace Number

def greatest : Nat := 0xffffffffffffffff

def digitsOf (text : List Char) : List Char := text.takeWhile Char.isDigit

def afterDigits (text : List Char) : List Char := text.dropWhile Char.isDigit

def digitValue (c : Char) : Nat := c.toNat - '0'.toNat

def accumulate (limit value : Nat) : List Char → Nat × Nat
  | [] => (value, 0)
  | digit :: digits =>
    if value * 10 + digitValue digit ≤ limit then
      accumulate limit (value * 10 + digitValue digit) digits
    else (value, digits.length + 1)

def greatestPower : Nat := 308

def powerOfTen (exponent : Nat) : Float := Float.ofScientific 1 false exponent

def scale (value : Float) (exponent : Int) : Option Float :=
  if exponent.natAbs ≤ greatestPower then
    if 0 ≤ exponent then
      let scaled := value * powerOfTen exponent.natAbs
      if scaled.isInf then none else some scaled
    else some (value / powerOfTen exponent.natAbs)
  else if value == 0 then some value
  else if 0 ≤ exponent then none
  else scale (value / powerOfTen greatestPower) (exponent + greatestPower)
termination_by exponent.natAbs
decreasing_by
  simp only [greatestPower] at *
  omega

def finish (negative : Bool) (significand : Nat) (exponent : Int) (rest : List Char) :
    Except Halt (Number × List Char) :=
  match scale (UInt64.ofNat significand).toFloat exponent with
  | none => .error (.before .numberOutOfRange rest)
  | some value => .ok (.float (if negative then -value else value), rest)

def greatestExponent : Nat := 0x7fffffff

def readExponent (negative : Bool) (significand : Nat) (exponent : Int) (text : List Char) :
    Except Halt (Number × List Char) :=
  let (down, text) :=
    match text with
    | '+' :: rest => (false, rest)
    | '-' :: rest => (true, rest)
    | _ => (false, text)
  match text with
  | [] => .error (.before .endInValue [])
  | c :: _ =>
    if c.isDigit then
      let digits := digitsOf text
      let (power, unused) := accumulate greatestExponent 0 digits
      if unused = 0 then
        finish negative significand (if down then exponent - power else exponent + power)
          (afterDigits text)
      else if significand ≠ 0 ∧ ¬ down then
        .error (.before .numberOutOfRange (text.drop (digits.length - unused + 1)))
      else .ok (.float (if negative then -0.0 else 0.0), afterDigits text)
    else .error (.on .invalidNumber text)

def readPower (negative : Bool) (significand : Nat) (exponent : Int) (text : List Char) :
    Except Halt (Number × List Char) :=
  match text with
  | 'e' :: rest => readExponent negative significand exponent rest
  | 'E' :: rest => readExponent negative significand exponent rest
  | _ => finish negative significand exponent text

def readFraction (negative : Bool) (significand : Nat) (exponent : Int) (text : List Char) :
    Except Halt (Number × List Char) :=
  let digits := digitsOf text
  if digits.isEmpty then
    .error (if text.isEmpty then .before .endInValue [] else .on .invalidNumber text)
  else
    let (significand, unused) := accumulate greatest significand digits
    readPower negative significand (exponent - (digits.length - unused : Nat)) (afterDigits text)

-- The number that integer digits alone stand for. Zero below zero and what is below 64 bits are
-- no integers.
def ofDigits (negative : Bool) (value : Nat) : Number :=
  if negative then
    if value = 0 ∨ 0x8000000000000000 < value then .float (-(UInt64.ofNat value).toFloat)
    else .integer (-value)
  else .integer value

def readTail (negative : Bool) (significand exponent : Nat) (text : List Char) :
    Except Halt (Number × List Char) :=
  match text with
  | '.' :: rest => readFraction negative significand exponent rest
  | 'e' :: rest => readExponent negative significand exponent rest
  | 'E' :: rest => readExponent negative significand exponent rest
  | _ =>
    if exponent = 0 then .ok (ofDigits negative significand, text)
    else finish negative significand exponent text

def readDigits (negative : Bool) (text : List Char) : Except Halt (Number × List Char) :=
  match text with
  | [] => .error (.before .endInValue [])
  | c :: rest =>
    if c = '0' then
      match rest with
      | next :: _ =>
        if next.isDigit then .error (.on .invalidNumber rest) else readTail negative 0 0 rest
      | [] => readTail negative 0 0 []
    else if c.isDigit then
      let (significand, unused) := accumulate greatest 0 (digitsOf text)
      readTail negative significand unused (afterDigits text)
    else .error (.on .invalidNumber text)

def read (text : List Char) : Except Halt (Number × List Char) :=
  match text with
  | '-' :: rest => readDigits true rest
  | _ => readDigits false text

end Number

end TaggedBlock.Json
