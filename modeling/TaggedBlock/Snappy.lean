import TaggedBlock.Snappy.Element
import TaggedBlock.Snappy.Error

set_option autoImplicit false

namespace TaggedBlock.Snappy

def farthest : Nat := 65535

def worstSize (length : Nat) : Nat := 32 + length + length / 6

def encode (raw : Bytes) : Except Error Bytes :=
  if worstSize raw.length ≤ longest then
    .ok (varint raw.length ++
      (elements (Phrasing.ofBytes farthest raw)).flatMap Element.render)
  else .error (.tooLong raw.length)

def readLiteral (declared tag : Nat) (source : Bytes) (out : Array UInt8) :
    Except Error (Array UInt8 × Bytes) :=
  let room := declared - out.size
  let digits := tag / 4 - 59
  let length? :=
    if tag / 4 < 60 then some (tag / 4 + 1, source)
    else (splitBytes? digits source).map fun (number, rest) => (littleEndian number + 1, rest)
  match length? with
  | none => .error (.literalBeyond digits source.length room)
  | some (length, source) =>
    if length ≤ room then
      match splitBytes? length source with
      | some (bytes, rest) => .ok (out ++ bytes, rest)
      | none => .error (.literalBeyond length source.length room)
    else .error (.literalBeyond length source.length room)

def distanceDigits (tag : Nat) : Nat :=
  if tag % 4 = 1 then 1 else if tag % 4 = 2 then 2 else 4

def copyLength (tag : Nat) : Nat := if tag % 4 = 1 then 4 + tag / 4 % 8 else tag / 4 + 1

def distanceHigh (tag : Nat) : Nat := if tag % 4 = 1 then 256 * (tag / 32) else 0

def readCopy (declared tag : Nat) (source : Bytes) (out : Array UInt8) :
    Except Error (Array UInt8 × Bytes) :=
  match splitBytes? (distanceDigits tag) source with
  | none => .error (.copyUnread (distanceDigits tag) source.length)
  | some (digits, rest) =>
    let distance := distanceHigh tag + littleEndian digits
    if within : 0 < distance ∧ distance ≤ out.size then
      if copyLength tag ≤ declared - out.size then
        .ok (copyBack out distance (copyLength tag) within, rest)
      else .error (.copyBeyond (copyLength tag) (declared - out.size))
    else .error (.offsetBeyond distance out.size)

def readElement (declared tag : Nat) (source : Bytes) (out : Array UInt8) :
    Except Error (Array UInt8 × Bytes) :=
  if tag % 4 = 0 then readLiteral declared tag source out else readCopy declared tag source out

theorem length_read_literal {declared tag : Nat} {source rest : Bytes} {out grown : Array UInt8}
    (read : readLiteral declared tag source out = .ok (grown, rest)) :
    rest.length ≤ source.length := by
  simp only [readLiteral] at read
  split at read
  · cases read
  · rename_i length middle found
    have shorter : middle.length ≤ source.length := by
      split at found
      · cases found; exact Nat.le_refl _
      · obtain ⟨⟨number, tail⟩, split, same⟩ := Option.map_eq_some_iff.1 found
        cases same
        exact length_split_bytes split
    split at read
    · split at read
      · rename_i split
        cases read
        exact Nat.le_trans (length_split_bytes split) shorter
      · cases read
    · cases read

theorem length_read_copy {declared tag : Nat} {source rest : Bytes} {out grown : Array UInt8}
    (read : readCopy declared tag source out = .ok (grown, rest)) :
    rest.length ≤ source.length := by
  simp only [readCopy] at read
  split at read
  · cases read
  · rename_i split
    split at read
    · split at read
      · cases read; exact length_split_bytes split
      · cases read
    · cases read

theorem length_read_element {declared tag : Nat} {source rest : Bytes} {out grown : Array UInt8}
    (read : readElement declared tag source out = .ok (grown, rest)) :
    rest.length ≤ source.length := by
  simp only [readElement] at read
  split at read
  · exact length_read_literal read
  · exact length_read_copy read

def readElements (declared : Nat) (source : Bytes) (out : Array UInt8) :
    Except Error (Array UInt8) :=
  match source with
  | [] => if out.size = declared then .ok out else .error (.sizeMismatch declared out.size)
  | tag :: source =>
    match _ : readElement declared tag.toNat source out with
    | .error error => .error error
    | .ok (grown, rest) => readElements declared rest grown
termination_by source.length
decreasing_by
  have shorter := length_read_element ‹_›
  simp only [List.length_cons]
  omega

def lengthRoom : Nat := 5

def decode (payload : Bytes) : Except Error Bytes :=
  if payload.isEmpty then .error .empty
  else
    match readVarint? lengthRoom payload with
    | none => .error .invalidHeader
    | some (declared, source) =>
      if declared ≤ longest then (readElements declared source #[]).map Array.toList
      else .error (.tooLong declared)

end TaggedBlock.Snappy
