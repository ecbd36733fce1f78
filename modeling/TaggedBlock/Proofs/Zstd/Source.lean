import TaggedBlock.Proofs.Bytes
import TaggedBlock.Zstd

set_option autoImplicit false

namespace TaggedBlock.Zstd

namespace Source

def extend (source : Source) (suffix : Bytes) : Source := ⟨source.position, source.bytes ++ suffix⟩

theorem split_append {count : Nat} (position : Nat) (taken rest : Bytes)
    (size : taken.length = count) :
    Source.split? ⟨position, taken ++ rest⟩ count = some (taken, ⟨position + count, rest⟩) := by
  rw [split?, split_bytes_append taken rest size]
  rfl

theorem split_extend {source rest : Source} {count : Nat} {taken : Bytes} (suffix : Bytes)
    (split : source.split? count = some (taken, rest)) :
    (source.extend suffix).split? count = some (taken, rest.extend suffix) := by
  obtain ⟨whole, size, place⟩ := split_eq_some split
  have longer : source.extend suffix = ⟨source.position, taken ++ (rest.bytes ++ suffix)⟩ := by
    rw [extend, whole, List.append_assoc]
  rw [longer, split_append _ _ _ size, ← place]
  rfl

theorem split_nothing (source : Source) : source.split? 0 = some ([], source) :=
  split_append source.position [] source.bytes rfl

def Leads (source rest : Source) : Prop :=
  ∃ taken, source.bytes = taken ++ rest.bytes ∧ rest.position = source.position + taken.length

theorem leads_of_split {source rest : Source} {count : Nat} {taken : Bytes}
    (split : source.split? count = some (taken, rest)) : source.Leads rest := by
  obtain ⟨whole, size, place⟩ := split_eq_some split
  rw [← size] at place
  exact ⟨taken, whole, place⟩

namespace Leads

variable {source middle rest : Source}

theorem trans (first : source.Leads middle) (second : middle.Leads rest) : source.Leads rest := by
  obtain ⟨taken, whole, place⟩ := first
  obtain ⟨more, onward, later⟩ := second
  refine ⟨taken ++ more, ?_, ?_⟩
  · rw [whole, onward, List.append_assoc]
  · rw [later, place, List.length_append, Nat.add_assoc]

theorem suffix (leads : source.Leads rest) : rest.bytes <:+ source.bytes := by
  obtain ⟨taken, whole, -⟩ := leads
  exact ⟨taken, whole.symm⟩

theorem ends (leads : source.Leads rest) :
    rest.position + rest.bytes.length = source.position + source.bytes.length := by
  obtain ⟨taken, whole, place⟩ := leads
  rw [whole, place, List.length_append, Nat.add_assoc]

end Leads

theorem ahead_pos (source : Source) : 0 < source.ahead := by
  have below := Nat.mod_lt source.position (by decide : 0 < chunk)
  simp only [ahead]
  omega

theorem ahead_extend (source : Source) (suffix : Bytes) :
    (source.extend suffix).ahead = source.ahead := rfl

end Source

namespace BlockHeader

theorem parse_extend {source rest : Source} {header : BlockHeader} (suffix : Bytes)
    (parsed : parse? source = some (header, rest)) :
    parse? (source.extend suffix) = some (header, rest.extend suffix) := by
  obtain ⟨⟨number, tail⟩, split, same⟩ := Option.map_eq_some_iff.mp parsed
  cases same
  rw [parse?, Source.split_extend suffix split]
  rfl

theorem leads_of_parse {source rest : Source} {header : BlockHeader}
    (parsed : parse? source = some (header, rest)) : source.Leads rest := by
  obtain ⟨⟨number, tail⟩, split, same⟩ := Option.map_eq_some_iff.mp parsed
  cases same
  exact Source.leads_of_split split

theorem parse_render (header : BlockHeader) (position : Nat) (rest : Bytes)
    (known : header.kind < 4) (short : header.size < 0x200000) :
    parse? ⟨position, header.render ++ rest⟩ = some (header, ⟨position + length, rest⟩) := by
  obtain ⟨isLast, kind, size⟩ := header
  simp only at known short
  have flag : isLast.toNat ≤ 1 := Bool.toNat_le isLast
  have bound : isLast.toNat + 2 * kind + 8 * size < 1 <<< (8 * length) := by
    change _ < 0x1000000
    omega
  have number := little_endian_little_endian_digits _ _ bound
  rw [parse?, render, Source.split_append position _ rest (length_little_endian_digits _ _),
    Option.map_some]
  simp only [number, Option.some.injEq, Prod.mk.injEq, BlockHeader.mk.injEq, and_true]
  cases isLast with
  | false => simp; omega
  | true => simp; omega

theorem length_render (header : BlockHeader) : header.render.length = length :=
  length_little_endian_digits _ _

end BlockHeader

end TaggedBlock.Zstd
