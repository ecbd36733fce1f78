import TaggedBlock.Json.Error

set_option autoImplicit false

namespace TaggedBlock.Json

def isSpace (c : Char) : Bool := c == ' ' || c == '\n' || c == '\t' || c == '\r'

def skipSpace (text : List Char) : List Char := text.dropWhile isSpace

def hexDigit? (c : Char) : Option Nat :=
  if '0' ≤ c ∧ c ≤ '9' then some (c.toNat - '0'.toNat)
  else if 'a' ≤ c ∧ c ≤ 'f' then some (c.toNat - 'a'.toNat + 10)
  else if 'A' ≤ c ∧ c ≤ 'F' then some (c.toNat - 'A'.toNat + 10)
  else none

def unitBytes : Nat := 4

-- Reads the four digits of a `\u` escape. Its four bytes are taken before they are looked at.
def readUnit (text : List Char) : Except Halt (Nat × List Char) :=
  let fault : Halt :=
    if utf8Length text < unitBytes then .before .endInString []
    else ⟨.invalidEscape, text, unitBytes⟩
  match text with
  | a :: b :: c :: d :: rest =>
    match hexDigit? a, hexDigit? b, hexDigit? c, hexDigit? d with
    | some a, some b, some c, some d => .ok (((a * 16 + b) * 16 + c) * 16 + d, rest)
    | _, _, _, _ => .error fault
  | _ => .error fault

def isLeadingSurrogate (unit : Nat) : Bool := 0xd800 ≤ unit && unit ≤ 0xdbff

def isTrailingSurrogate (unit : Nat) : Bool := 0xdc00 ≤ unit && unit ≤ 0xdfff

def joinSurrogates (leading trailing : Nat) : Char :=
  Char.ofNat ((leading - 0xd800) * 0x400 + (trailing - 0xdc00) + 0x10000)

def readTrailing (leading : Nat) (text : List Char) : Except Halt (Char × List Char) :=
  match text with
  | [] => .error (.before .endInString [])
  | '\\' :: [] => .error (.before .endInString [])
  | '\\' :: 'u' :: rest =>
    match readUnit rest with
    | .error halt => .error halt
    | .ok (trailing, rest) =>
      if isTrailingSurrogate trailing then .ok (joinSurrogates leading trailing, rest)
      else .error (.before .loneSurrogate rest)
  | '\\' :: rest => .error (.on .surrogateAlone rest)
  | rest => .error (.on .surrogateAlone rest)

def readUnicode (text : List Char) : Except Halt (Char × List Char) :=
  match readUnit text with
  | .error halt => .error halt
  | .ok (unit, rest) =>
    if isTrailingSurrogate unit then .error (.before .loneSurrogate rest)
    else if isLeadingSurrogate unit then readTrailing unit rest
    else .ok (Char.ofNat unit, rest)

def readEscape (text : List Char) : Except Halt (Char × List Char) :=
  match text with
  | [] => .error (.before .endInString [])
  | '"' :: rest => .ok ('"', rest)
  | '\\' :: rest => .ok ('\\', rest)
  | '/' :: rest => .ok ('/', rest)
  | 'b' :: rest => .ok ('\x08', rest)
  | 'f' :: rest => .ok ('\x0c', rest)
  | 'n' :: rest => .ok ('\n', rest)
  | 'r' :: rest => .ok ('\r', rest)
  | 't' :: rest => .ok ('\t', rest)
  | 'u' :: rest => readUnicode rest
  | rest => .error (.on .invalidEscape rest)

theorem length_read_unit {text rest : List Char} {unit : Nat}
    (read : readUnit text = .ok (unit, rest)) : rest.length < text.length := by
  simp only [readUnit] at read
  split at read
  · split at read
    · cases read
      simp only [List.length_cons]
      omega
    · cases read
  · cases read

theorem length_read_trailing {leading : Nat} {text rest : List Char} {c : Char}
    (read : readTrailing leading text = .ok (c, rest)) : rest.length < text.length := by
  unfold readTrailing at read
  split at read
  · cases read
  · cases read
  · split at read
    · cases read
    · rename_i inner
      split at read
      · simp only [Except.ok.injEq, Prod.mk.injEq] at read
        have shorter := length_read_unit inner
        simp only [← read.2, List.length_cons]
        omega
      · cases read
  · cases read
  · cases read

theorem length_read_unicode {text rest : List Char} {c : Char}
    (read : readUnicode text = .ok (c, rest)) : rest.length < text.length := by
  unfold readUnicode at read
  split at read
  · cases read
  · rename_i inner
    split at read
    · cases read
    · split at read
      · exact Nat.lt_trans (length_read_trailing read) (length_read_unit inner)
      · simp only [Except.ok.injEq, Prod.mk.injEq] at read
        exact read.2 ▸ length_read_unit inner

theorem length_read_escape {text rest : List Char} {c : Char}
    (read : readEscape text = .ok (c, rest)) : rest.length < text.length := by
  unfold readEscape at read
  split at read <;> first
    | cases read; exact Nat.lt_succ_self _
    | exact Nat.lt_succ_of_lt (length_read_unicode read)
    | cases read

def readStringFrom (before : List Char) (text : List Char) : Except Halt (String × List Char) :=
  match text with
  | [] => .error (.before .endInString [])
  | '"' :: rest => .ok (String.ofList before.reverse, rest)
  | '\\' :: rest =>
    match _ : readEscape rest with
    | .error halt => .error halt
    | .ok (c, rest) => readStringFrom (c :: before) rest
  | c :: rest =>
    if c.toNat < 0x20 then .error (.before .controlCharacter rest)
    else readStringFrom (c :: before) rest
termination_by text.length
decreasing_by
  · have shorter := length_read_escape ‹_›
    simp only [List.length_cons]
    omega
  · exact Nat.lt_succ_self _

def readString (text : List Char) : Except Halt (String × List Char) := readStringFrom [] text

def unitDigits (unit : Nat) : List Char :=
  let digits := Nat.toDigits 16 unit
  List.replicate (unitBytes - digits.length) '0' ++ digits

def writeChar (c : Char) : List Char :=
  if c = '"' then ['\\', '"']
  else if c = '\\' then ['\\', '\\']
  else if c = '\x08' then ['\\', 'b']
  else if c = '\x0c' then ['\\', 'f']
  else if c = '\n' then ['\\', 'n']
  else if c = '\r' then ['\\', 'r']
  else if c = '\t' then ['\\', 't']
  else if c.toNat < 0x20 then '\\' :: 'u' :: unitDigits c.toNat
  else [c]

def writeString (text : String) : List Char := '"' :: text.toList.flatMap writeChar ++ ['"']

end TaggedBlock.Json
