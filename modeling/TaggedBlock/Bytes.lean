set_option autoImplicit false

namespace TaggedBlock

abbrev Bytes := List UInt8

def littleEndian : Bytes → Nat
  | [] => 0
  | byte :: tail => byte.toNat + 256 * littleEndian tail

def littleEndianDigits : Nat → Nat → Bytes
  | 0, _ => []
  | count + 1, value => UInt8.ofNat value :: littleEndianDigits count (value / 256)

@[simp] theorem length_little_endian_digits (count value : Nat) :
    (littleEndianDigits count value).length = count := by
  induction count generalizing value with
  | zero => rfl
  | succ count ih => simp [littleEndianDigits, ih]

theorem little_endian_little_endian_digits (count value : Nat)
    (fits : value < 1 <<< (8 * count)) : littleEndian (littleEndianDigits count value) = value := by
  induction count generalizing value with
  | zero => simp at fits; simp [littleEndianDigits, littleEndian, fits]
  | succ count ih =>
    have small : value / 256 < 1 <<< (8 * count) := by
      rw [Nat.mul_succ, Nat.shiftLeft_add] at fits
      omega
    simp only [littleEndianDigits, littleEndian, ih _ small, UInt8.toNat_ofNat']
    omega

def bigEndian (bytes : Bytes) : Nat := littleEndian bytes.reverse

def splitBytes? (count : Nat) (bytes : Bytes) : Option (Bytes × Bytes) :=
  let taken := bytes.take count
  if taken.length = count then some (taken, bytes.drop count) else none

theorem split_bytes_eq_some {count : Nat} {bytes taken rest : Bytes}
    (split : splitBytes? count bytes = some (taken, rest)) :
    bytes = taken ++ rest ∧ taken.length = count := by
  simp only [splitBytes?] at split
  split at split
  · rename_i enough
    cases split
    exact ⟨(List.take_append_drop count bytes).symm, enough⟩
  · cases split

theorem length_split_bytes {count : Nat} {bytes taken rest : Bytes}
    (split : splitBytes? count bytes = some (taken, rest)) : rest.length ≤ bytes.length := by
  obtain ⟨rfl, _⟩ := split_bytes_eq_some split
  simp

-- Appends `length` bytes, each equal to the byte that stands `distance` before the end when it
-- is written, so that a copy may read bytes of its own.
def copyBack (out : Array UInt8) (distance : Nat) (length : Nat)
    (within : 0 < distance ∧ distance ≤ out.size) : Array UInt8 :=
  match length with
  | 0 => out
  | length + 1 =>
    have inBounds : out.size - distance < out.size := by omega
    copyBack (out.push out[out.size - distance]) distance length
      (by simp only [Array.size_push]; omega)

@[simp] theorem size_copy_back (out : Array UInt8) (distance length : Nat)
    (within : 0 < distance ∧ distance ≤ out.size) :
    (copyBack out distance length within).size = out.size + length := by
  induction length generalizing out with
  | zero => rfl
  | succ length ih => simp only [copyBack, ih, Array.size_push]; omega

theorem size_append (out : Array UInt8) (bytes : Bytes) :
    (out ++ bytes).size = out.size + bytes.length := by
  rw [← Array.length_toList, Array.toList_appendList, List.length_append, Array.length_toList]

def pushCopies (out : Array UInt8) (byte : UInt8) : Nat → Array UInt8
  | 0 => out
  | count + 1 => pushCopies (out.push byte) byte count

end TaggedBlock
