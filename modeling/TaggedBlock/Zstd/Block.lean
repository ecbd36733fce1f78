import TaggedBlock.Zstd.Literals
import TaggedBlock.Zstd.Sequence

set_option autoImplicit false

namespace TaggedBlock.Zstd

structure BlockHeader where
  isLast : Bool
  kind : Nat
  size : Nat
deriving DecidableEq, Repr

namespace BlockHeader

def length : Nat := 3

def parse? (source : Source) : Option (BlockHeader × Source) :=
  (source.split? length).map fun (header, rest) =>
    let number := littleEndian header
    (⟨number % 2 = 1, number / 2 % 4, number / 8⟩, rest)

def render (header : BlockHeader) : Bytes :=
  littleEndianDigits length (header.isLast.toNat + 2 * header.kind + 8 * header.size)

def stored : Nat := 0

def repeated : Nat := 1

def reserved : Nat := 3

def contentSize (header : BlockHeader) : Nat := if header.kind = repeated then 1 else header.size

theorem length_parse {source rest : Source} {header : BlockHeader}
    (parsed : parse? source = some (header, rest)) : rest.bytes.length < source.bytes.length := by
  obtain ⟨⟨number, tail⟩, split, same⟩ := Option.map_eq_some_iff.1 parsed
  cases same
  have shorter := Source.length_split split
  simp only [length] at shorter
  omega

end BlockHeader

structure Inheritance where
  literalCode : Option PrefixTree
  tables : Option Sequence.Tables
  recent : Recent
deriving DecidableEq, Repr

def Inheritance.start : Inheritance := ⟨none, none, .start⟩

-- A frame that is being decoded: the buffer, what later blocks may use of the earlier ones, and the
-- content so far.
structure Decoding where
  ring : Ring
  inheritance : Inheritance
  out : Array UInt8
deriving DecidableEq, Repr

namespace Decoding

def start (ring : Ring) : Decoding := ⟨ring, .start, #[]⟩

def coded? (decoding : Decoding) (greatest : Nat) (block : Bytes) : Option Decoding :=
  if block.length < 2 ∨ greatest < block.length then none
  else do
    let inheritance := decoding.inheritance
    let (literals, literalCode, rest) ← Literals.read? greatest inheritance.literalCode block
    let (count, rest) ← Sequence.readCount? rest
    if count = 0 then
      if rest.isEmpty then
        return { decoding with
          inheritance := { inheritance with literalCode }, out := decoding.out ++ literals }
      else none
    else
      let (tables, stream) ← Sequence.readTables? inheritance.tables rest
      let bits ← backwardBits? stream
      let (states, bits) ← Sequence.States.start? tables bits
      let (progress, bits) ← Sequence.run? tables decoding.ring count states bits
        ⟨literals, inheritance.recent, decoding.out⟩
      if bits.isEmpty then
        return { decoding with
          inheritance := ⟨literalCode, some tables, progress.recent⟩
          out := progress.out ++ progress.literals }
      else none

def unbounded? (decoding : Decoding) (greatest : Nat) (header : BlockHeader) (content : Bytes) :
    Option Decoding :=
  match header.kind with
  | 0 => some { decoding with out := decoding.out ++ content }
  | 1 =>
    if decoding.out.size + header.size ≤ decoding.ring.limit then
      some { decoding with out := pushCopies decoding.out (content.headD 0) header.size }
    else none
  | 2 => decoding.coded? greatest content
  | _ => none

def block? (decoding : Decoding) (greatest : Nat) (header : BlockHeader) (content : Bytes) :
    Option Decoding :=
  match decoding.unbounded? greatest header content with
  | none => none
  | some next => if next.out.size ≤ decoding.ring.limit then some next else none

end Decoding

end TaggedBlock.Zstd
