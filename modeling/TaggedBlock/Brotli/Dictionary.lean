import TaggedBlock.Brotli.Words
import TaggedBlock.Bytes

set_option autoImplicit false

namespace TaggedBlock.Brotli

structure Dictionary where
  word? : (length address : Nat) → Option Bytes

inductive Shape where
  | whole
  | omitFirst (count : Nat)
  | omitLast (count : Nat)
  | upperFirst
  | upperAll
deriving DecidableEq, Repr

namespace Shape

-- Capitals as far as the format knows them: of a character of three bytes it turns some bits of the
-- last one, of a character of two bytes one bit.
def upper (all : Bool) : Bytes → Bytes
  | [] => []
  | first :: rest =>
    if first < 0xc0 then
      (if 0x61 ≤ first ∧ first ≤ 0x7a then first ^^^ 0x20 else first) ::
        if all then upper all rest else rest
    else if first < 0xe0 then
      match rest with
      | second :: rest => first :: (second ^^^ 0x20) :: if all then upper all rest else rest
      | rest => first :: rest
    else
      match rest with
      | second :: third :: rest =>
        first :: second :: (third ^^^ 0x05) :: if all then upper all rest else rest
      | rest => first :: rest

def apply (shape : Shape) (word : Bytes) : Bytes :=
  match shape with
  | .whole => word
  | .omitFirst count => word.drop count
  | .omitLast count => word.take (word.length - count)
  | .upperFirst => upper false word
  | .upperAll => upper true word

end Shape

structure Transform where
  before : String
  shape : Shape
  after : String
deriving DecidableEq, Repr

namespace Transform

def apply (transform : Transform) (word : Bytes) : Bytes :=
  transform.before.toUTF8.toList ++ transform.shape.apply word ++ transform.after.toUTF8.toList

def all : Array Transform :=
  #[⟨"", .whole, ""⟩, ⟨"", .whole, " "⟩, ⟨" ", .whole, " "⟩, ⟨"", .omitFirst 1, ""⟩,
    ⟨"", .upperFirst, " "⟩, ⟨"", .whole, " the "⟩, ⟨" ", .whole, ""⟩, ⟨"s ", .whole, " "⟩,
    ⟨"", .whole, " of "⟩, ⟨"", .upperFirst, ""⟩, ⟨"", .whole, " and "⟩, ⟨"", .omitFirst 2, ""⟩,
    ⟨"", .omitLast 1, ""⟩, ⟨", ", .whole, " "⟩, ⟨"", .whole, ", "⟩, ⟨" ", .upperFirst, " "⟩,
    ⟨"", .whole, " in "⟩, ⟨"", .whole, " to "⟩, ⟨"e ", .whole, " "⟩, ⟨"", .whole, "\""⟩,
    ⟨"", .whole, "."⟩, ⟨"", .whole, "\">"⟩, ⟨"", .whole, "\n"⟩, ⟨"", .omitLast 3, ""⟩,
    ⟨"", .whole, "]"⟩, ⟨"", .whole, " for "⟩, ⟨"", .omitFirst 3, ""⟩, ⟨"", .omitLast 2, ""⟩,
    ⟨"", .whole, " a "⟩, ⟨"", .whole, " that "⟩, ⟨" ", .upperFirst, ""⟩, ⟨"", .whole, ". "⟩,
    ⟨".", .whole, ""⟩, ⟨" ", .whole, ", "⟩, ⟨"", .omitFirst 4, ""⟩, ⟨"", .whole, " with "⟩,
    ⟨"", .whole, "'"⟩, ⟨"", .whole, " from "⟩, ⟨"", .whole, " by "⟩, ⟨"", .omitFirst 5, ""⟩,
    ⟨"", .omitFirst 6, ""⟩, ⟨" the ", .whole, ""⟩, ⟨"", .omitLast 4, ""⟩, ⟨"", .whole, ". The "⟩,
    ⟨"", .upperAll, ""⟩, ⟨"", .whole, " on "⟩, ⟨"", .whole, " as "⟩, ⟨"", .whole, " is "⟩,
    ⟨"", .omitLast 7, ""⟩, ⟨"", .omitLast 1, "ing "⟩, ⟨"", .whole, "\n\t"⟩, ⟨"", .whole, ":"⟩,
    ⟨" ", .whole, ". "⟩, ⟨"", .whole, "ed "⟩, ⟨"", .omitFirst 9, ""⟩, ⟨"", .omitFirst 7, ""⟩,
    ⟨"", .omitLast 6, ""⟩, ⟨"", .whole, "("⟩, ⟨"", .upperFirst, ", "⟩, ⟨"", .omitLast 8, ""⟩,
    ⟨"", .whole, " at "⟩, ⟨"", .whole, "ly "⟩, ⟨" the ", .whole, " of "⟩, ⟨"", .omitLast 5, ""⟩,
    ⟨"", .omitLast 9, ""⟩, ⟨" ", .upperFirst, ", "⟩, ⟨"", .upperFirst, "\""⟩, ⟨".", .whole, "("⟩,
    ⟨"", .upperAll, " "⟩, ⟨"", .upperFirst, "\">"⟩, ⟨"", .whole, "=\""⟩, ⟨" ", .whole, "."⟩,
    ⟨".com/", .whole, ""⟩, ⟨" the ", .whole, " of the "⟩, ⟨"", .upperFirst, "'"⟩,
    ⟨"", .whole, ". This "⟩, ⟨"", .whole, ","⟩, ⟨".", .whole, " "⟩, ⟨"", .upperFirst, "("⟩,
    ⟨"", .upperFirst, "."⟩, ⟨"", .whole, " not "⟩, ⟨" ", .whole, "=\""⟩, ⟨"", .whole, "er "⟩,
    ⟨" ", .upperAll, " "⟩, ⟨"", .whole, "al "⟩, ⟨" ", .upperAll, ""⟩, ⟨"", .whole, "='"⟩,
    ⟨"", .upperAll, "\""⟩, ⟨"", .upperFirst, ". "⟩, ⟨" ", .whole, "("⟩, ⟨"", .whole, "ful "⟩,
    ⟨" ", .upperFirst, ". "⟩, ⟨"", .whole, "ive "⟩, ⟨"", .whole, "less "⟩, ⟨"", .upperAll, "'"⟩,
    ⟨"", .whole, "est "⟩, ⟨" ", .upperFirst, "."⟩, ⟨"", .upperAll, "\">"⟩, ⟨" ", .whole, "='"⟩,
    ⟨"", .upperFirst, ","⟩, ⟨"", .whole, "ize "⟩, ⟨"", .upperAll, "."⟩, ⟨"\u00a0", .whole, ""⟩,
    ⟨" ", .whole, ","⟩, ⟨"", .upperFirst, "=\""⟩, ⟨"", .upperAll, "=\""⟩, ⟨"", .whole, "ous "⟩,
    ⟨"", .upperAll, ", "⟩, ⟨"", .upperFirst, "='"⟩, ⟨" ", .upperFirst, ","⟩,
    ⟨" ", .upperAll, "=\""⟩, ⟨" ", .upperAll, ", "⟩, ⟨"", .upperAll, ","⟩, ⟨"", .upperAll, "("⟩,
    ⟨"", .upperAll, ". "⟩, ⟨" ", .upperAll, "."⟩, ⟨"", .upperAll, "='"⟩, ⟨" ", .upperAll, ". "⟩,
    ⟨" ", .upperFirst, "=\""⟩, ⟨" ", .upperAll, "='"⟩, ⟨" ", .upperFirst, "='"⟩]

end Transform

namespace Dictionary

def shortest : Nat := 4

def logs : Array Nat := #[10, 10, 11, 11, 10, 10, 10, 10, 10, 9, 9, 8, 7, 7, 8, 7, 7, 6, 6, 5, 5]

def first (length : Nat) : Nat :=
  (logs.toList.take (length - shortest)).zipIdx.foldl
    (fun sum (log, index) => sum + (index + shortest) <<< log) 0

def digit (char : Char) : Nat := if char.isDigit then char.toNat - 48 else char.toNat - 87

def ofHex : List Char → Array UInt8 → Array UInt8
  | high :: low :: rest, bytes => ofHex rest (bytes.push (UInt8.ofNat (16 * digit high + digit low)))
  | _, bytes => bytes

def standardWords : Array UInt8 := ofHex (writtenWords.toList.filter Char.isAlphanum) #[]

def standard : Dictionary where
  word? length address :=
    if length < shortest then none
    else do
      let log ← logs[length - shortest]?
      let transform ← Transform.all[address >>> log]?
      let place := first length + address % (1 <<< log) * length
      return transform.apply (standardWords.extract place (place + length)).toList

end Dictionary

end TaggedBlock.Brotli
