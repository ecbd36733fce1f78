import TaggedBlock.Zstd.Error
import TaggedBlock.Zstd.Source

set_option autoImplicit false

namespace TaggedBlock.Zstd

def greatestBlock : Nat := 128 * 1024

structure FrameHeader where
  window : Option Nat
  dictionary : Nat
  contentSize : Option Nat
  hasChecksum : Bool
deriving DecidableEq, Repr

namespace FrameHeader

def unknownSize : Nat := 0xffffffffffffffff

def sizeLength (descriptor : Nat) : Nat :=
  match descriptor / 64 with
  | 0 => if descriptor / 32 % 2 = 1 then 1 else 0
  | 1 => 2
  | 2 => 4
  | _ => 8

def dictionaryLength (descriptor : Nat) : Nat :=
  match descriptor % 4 with
  | 3 => 4
  | length => length

def windowLength (descriptor : Nat) : Nat := if descriptor / 32 % 2 = 1 then 0 else 1

def windowSize (described : Nat) : Nat :=
  let base := 1 <<< (10 + described / 8)
  base + base / 8 * (described % 8)

def greatestWindowLog : Nat := 31

def contentSizeOf (descriptor size : Nat) : Option Nat :=
  match sizeLength descriptor with
  | 0 => none
  | 2 => some (size + 256)
  | 8 => if size = unknownSize then none else some size
  | _ => some size

def parse (source : Source) : Except Error (FrameHeader × Source) :=
  let fields := do
    let (descriptor, source) ← source.split? 1
    let descriptor := littleEndian descriptor
    let (window, source) ← source.split? (windowLength descriptor)
    let (dictionary, source) ← source.split? (dictionaryLength descriptor)
    let (size, source) ← source.split? (sizeLength descriptor)
    return (descriptor, littleEndian window, littleEndian dictionary, littleEndian size, source)
  match fields with
  | none => .error .incomplete
  | some (descriptor, window, dictionary, size, rest) =>
    let oneSegment := windowLength descriptor = 0
    if descriptor / 8 % 2 = 1 ∨ (¬ oneSegment ∧ greatestWindowLog < 10 + window / 8) then
      .error .corrupt
    else
      .ok (⟨if oneSegment then none else some (windowSize window), dictionary,
        contentSizeOf descriptor size, descriptor / 4 % 2 = 1⟩, rest)

def effectiveWindow (header : FrameHeader) : Nat :=
  header.window.getD (header.contentSize.getD unknownSize)

def blockBound (header : FrameHeader) : Nat := min header.effectiveWindow greatestBlock

def checksumLength (header : FrameHeader) : Nat := if header.hasChecksum then 4 else 0

theorem length_parse {source rest : Source} {header : FrameHeader}
    (parsed : parse source = .ok (header, rest)) : rest.bytes.length < source.bytes.length := by
  simp only [parse] at parsed
  split at parsed
  · cases parsed
  · rename_i fields
    simp only [bind, Option.bind_eq_some_iff] at fields
    obtain ⟨descriptor, first, window, second, dictionary, third, size, fourth, same⟩ := fields
    split at parsed
    · cases parsed
    · cases parsed
      cases same
      have behindFirst := Source.length_split first
      have behindSecond := Source.length_split second
      have behindThird := Source.length_split third
      have behindFourth := Source.length_split fourth
      omega

end FrameHeader

end TaggedBlock.Zstd
