import TaggedBlock.Phrase

set_option autoImplicit false

namespace TaggedBlock.Snappy

def varint (value : Nat) : Bytes :=
  if value < 128 then [UInt8.ofNat value]
  else UInt8.ofNat (value % 128 + 128) :: varint (value / 128)
termination_by value
decreasing_by omega

def readVarint? : (room : Nat) → Bytes → Option (Nat × Bytes)
  | 0, _ => none
  | _ + 1, [] => none
  | room + 1, byte :: rest =>
    if byte.toNat < 128 then some (byte.toNat, rest)
    else (readVarint? room rest).map fun (high, rest) => (byte.toNat - 128 + 128 * high, rest)

inductive Element where
  | literal (bytes : Bytes)
  | copy (distance length : Nat)
deriving DecidableEq, Repr

def literalDigits (length : Nat) : Nat :=
  if length ≤ 256 then 1 else if length ≤ 65536 then 2 else if length ≤ 16777216 then 3 else 4

def Element.render : Element → Bytes
  | .literal bytes =>
    let length := bytes.length
    if length ≤ 60 then UInt8.ofNat (4 * (length - 1)) :: bytes
    else
      let digits := literalDigits length
      UInt8.ofNat (4 * (59 + digits)) :: littleEndianDigits digits (length - 1) ++ bytes
  | .copy distance length =>
    UInt8.ofNat (4 * (length - 1) + 2) :: littleEndianDigits 2 distance

def longestCopy : Nat := 64

def copies (distance length : Nat) : List Element :=
  List.replicate (length / longestCopy) (.copy distance longestCopy) ++
    if length % longestCopy = 0 then [] else [.copy distance (length % longestCopy)]

def literals (bytes : Bytes) : List Element := if bytes.isEmpty then [] else [.literal bytes]

def elements (phrasing : Phrasing) : List Element :=
  (phrasing.phrases.flatMap fun phrase =>
    literals phrase.fresh ++ copies phrase.distance phrase.length) ++ literals phrasing.tail

end TaggedBlock.Snappy
