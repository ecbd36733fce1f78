import TaggedBlock.Lz4.Error
import TaggedBlock.Lz4.Sequence

set_option autoImplicit false

namespace TaggedBlock.Lz4

def farthest : Nat := 65535

-- The size is written modulo 2^32.
def encode (raw : Bytes) : Bytes :=
  littleEndianDigits 4 raw.length ++ render (Phrasing.ofBytes farthest raw)

def readFresh (capacity half : Nat) (source : Bytes) (out : Array UInt8) :
    Except Error (Array UInt8 × Bytes) :=
  match readLength? half source with
  | none => .error .expectedByte
  | some (length, source) =>
    match splitBytes? length source with
    | none => .error .literalBeyondInput
    | some (fresh, rest) =>
      if out.size + length ≤ capacity then .ok (out ++ fresh, rest)
      else .error (.outputTooSmall capacity (out.size + length))

def readCopy (capacity half : Nat) (source : Bytes) (out : Array UInt8) :
    Except Error (Array UInt8 × Bytes) :=
  match splitBytes? 2 source with
  | none => .error .expectedByte
  | some (digits, source) =>
    let distance := littleEndian digits
    if distance = 0 then .error .zeroOffset
    else
      match readLength? half source with
      | none => .error .expectedByte
      | some (beyond, rest) =>
        let length := shortestCopy + beyond
        if out.size + length ≤ capacity then
          if within : 0 < distance ∧ distance ≤ out.size then
            .ok (copyBack out distance length within, rest)
          else .error .offsetBeyond
        else .error (.outputTooSmall capacity (out.size + length))

theorem length_read_fresh {capacity half : Nat} {source rest : Bytes} {out grown : Array UInt8}
    (read : readFresh capacity half source out = .ok (grown, rest)) :
    rest.length ≤ source.length := by
  simp only [readFresh] at read
  split at read
  · cases read
  · rename_i length
    split at read
    · cases read
    · rename_i split
      split at read
      · cases read
        exact Nat.le_trans (length_split_bytes split) (length_read_length length)
      · cases read

theorem length_read_copy {capacity half : Nat} {source rest : Bytes} {out grown : Array UInt8}
    (read : readCopy capacity half source out = .ok (grown, rest)) :
    rest.length ≤ source.length := by
  simp only [readCopy] at read
  split at read
  · cases read
  · rename_i split
    split at read
    · cases read
    · split at read
      · cases read
      · rename_i length
        split at read
        · split at read
          · cases read
            exact Nat.le_trans (length_read_length length) (length_split_bytes split)
          · cases read
        · cases read

def readSequences (capacity : Nat) (source : Bytes) (out : Array UInt8) :
    Except Error (Array UInt8) :=
  match source with
  | [] => .error .expectedByte
  | token :: source =>
    match _ : readFresh capacity (token.toNat / 16) source out with
    | .error error => .error error
    | .ok (grown, []) => .ok grown
    | .ok (grown, middle) =>
      match _ : readCopy capacity (token.toNat % 16) middle grown with
      | .error error => .error error
      | .ok (grown, rest) => readSequences capacity rest grown
termination_by source.length
decreasing_by
  have behindFresh := length_read_fresh ‹_›
  have behindCopy := length_read_copy ‹_›
  simp only [List.length_cons]
  omega

def decode (payload : Bytes) : Except Error Bytes :=
  match splitBytes? 4 payload with
  | none => .error .missingSize
  | some (digits, source) =>
    let declared := littleEndian digits
    match readSequences declared source #[] with
    | .error error => .error error
    | .ok out =>
      if out.size = declared then .ok out.toList
      else .error (.sizeMismatch out.size declared)

end TaggedBlock.Lz4
