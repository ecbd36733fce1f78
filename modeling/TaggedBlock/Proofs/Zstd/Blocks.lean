import TaggedBlock.Proofs.Zstd.Source

set_option autoImplicit false

namespace TaggedBlock.Zstd

section Steps

variable {source middle after : Source} {block : BlockHeader} {content : Bytes}

theorem skip_blocks_step (parsed : BlockHeader.parse? source = some (block, middle))
    (allowed : block.kind ≠ BlockHeader.reserved)
    (split : middle.split? block.contentSize = some (content, after)) :
    skipBlocks? source = if block.isLast then some after else skipBlocks? after := by
  rw [skipBlocks?]
  split
  · rename_i absent
    cases absent.symm.trans parsed
  · rename_i found
    cases found.symm.trans parsed
    rw [if_neg allowed]
    split
    · rename_i absent
      cases absent.symm.trans split
    · rename_i found
      cases found.symm.trans split
      rfl

variable {frame : FrameHeader} {decoding next : Decoding}

theorem decode_whole_step (parsed : BlockHeader.parse? source = some (block, middle))
    (split : middle.split? block.contentSize = some (content, after))
    (decoded : decoding.block? frame.blockBound block content = some next) :
    decodeWhole frame decoding source =
      if block.isLast then
        if frame.contentSize.all (next.out.size = ·) then .ok (next.out, after)
        else .error .corrupt
      else decodeWhole frame next after := by
  rw [decodeWhole]
  split
  · rename_i absent
    cases absent.symm.trans parsed
  · rename_i found
    cases found.symm.trans parsed
    split
    · rename_i absent
      cases absent.symm.trans split
    · rename_i found
      cases found.symm.trans split
      rw [decoded]

theorem decode_blocks_refused (parsed : BlockHeader.parse? source = some (block, middle))
    (refused : block.kind = BlockHeader.reserved ∨ frame.blockBound < block.contentSize) :
    decodeBlocks frame decoding source = .error .corrupt := by
  rw [decodeBlocks]
  split
  · rename_i absent
    cases absent.symm.trans parsed
  · rename_i found
    cases found.symm.trans parsed
    rw [if_pos refused]

variable (allowed : ¬ (block.kind = BlockHeader.reserved ∨ frame.blockBound < block.contentSize))
include allowed

theorem decode_blocks_empty (parsed : BlockHeader.parse? source = some (block, middle))
    (empty : block.contentSize = 0) :
    decodeBlocks frame decoding source =
      if block.isLast then .ok (decoding.out, middle) else decodeBlocks frame decoding middle := by
  rw [decodeBlocks]
  split
  · rename_i absent
    cases absent.symm.trans parsed
  · rename_i found
    cases found.symm.trans parsed
    rw [if_neg allowed, if_pos empty]

theorem decode_blocks_failed {error : Error}
    (parsed : BlockHeader.parse? source = some (block, middle)) (filled : block.contentSize ≠ 0)
    (failed : decoding.receive frame block middle = .error error) :
    decodeBlocks frame decoding source = .error error := by
  rw [decodeBlocks]
  split
  · rename_i absent
    cases absent.symm.trans parsed
  · rename_i found
    cases found.symm.trans parsed
    rw [if_neg allowed, if_neg filled]
    split
    · rename_i found
      cases found.symm.trans failed
      rfl
    · rename_i found
      cases found.symm.trans failed

theorem decode_blocks_step (parsed : BlockHeader.parse? source = some (block, middle))
    (filled : block.contentSize ≠ 0)
    (received : decoding.receive frame block middle = .ok (next, after)) :
    decodeBlocks frame decoding source =
      if block.isLast then
        if frame.contentSize.all (next.out.size = ·) then .ok (next.out, after)
        else .error .corrupt
      else decodeBlocks frame next after := by
  rw [decodeBlocks]
  split
  · rename_i absent
    cases absent.symm.trans parsed
  · rename_i found
    cases found.symm.trans parsed
    rw [if_neg allowed, if_neg filled]
    split
    · rename_i found
      cases found.symm.trans received
    · rename_i found
      cases found.symm.trans received
      rfl

end Steps

inductive Blocks : Source → BlockHeader → Source → Prop where
  | last {source middle rest : Source} {content : Bytes} {block : BlockHeader}
      (parsed : BlockHeader.parse? source = some (block, middle))
      (allowed : block.kind ≠ BlockHeader.reserved)
      (split : middle.split? block.contentSize = some (content, rest))
      (ends : block.isLast = true) : Blocks source block rest
  | more {source middle after rest : Source} {content : Bytes} {block last : BlockHeader}
      (parsed : BlockHeader.parse? source = some (block, middle))
      (allowed : block.kind ≠ BlockHeader.reserved)
      (split : middle.split? block.contentSize = some (content, after))
      (goesOn : ¬ block.isLast = true) (onward : Blocks after last rest) : Blocks source last rest

namespace Blocks

variable {source rest other : Source} {last final : BlockHeader}

theorem skip_blocks (blocks : Blocks source last rest) : skipBlocks? source = some rest := by
  induction blocks with
  | last parsed allowed split ends => rw [skip_blocks_step parsed allowed split, if_pos ends]
  | more parsed allowed split goesOn onward ih =>
      rw [skip_blocks_step parsed allowed split, if_neg goesOn]
      exact ih

theorem leads (blocks : Blocks source last rest) : source.Leads rest := by
  induction blocks with
  | last parsed allowed split ends =>
      exact (BlockHeader.leads_of_parse parsed).trans (Source.leads_of_split split)
  | more parsed allowed split goesOn onward ih =>
      have inner := (BlockHeader.leads_of_parse parsed).trans (Source.leads_of_split split)
      exact inner.trans ih

theorem extend (blocks : Blocks source last rest) (suffix : Bytes) :
    Blocks (source.extend suffix) last (rest.extend suffix) := by
  induction blocks with
  | last parsed allowed split ends =>
      exact .last (BlockHeader.parse_extend suffix parsed) allowed (Source.split_extend suffix split)
        ends
  | more parsed allowed split goesOn onward ih =>
      exact .more (BlockHeader.parse_extend suffix parsed) allowed
        (Source.split_extend suffix split) goesOn ih

theorem unique (blocks : Blocks source last rest) (again : Blocks source final other) :
    last = final ∧ rest = other := by
  induction blocks with
  | last parsed allowed split ends =>
      cases again with
      | last found permitted cut stops =>
          cases parsed.symm.trans found
          cases split.symm.trans cut
          exact ⟨rfl, rfl⟩
      | more found permitted cut continues beyond =>
          cases parsed.symm.trans found
          exact absurd ends continues
  | more parsed allowed split goesOn onward ih =>
      cases again with
      | last found permitted cut stops =>
          cases parsed.symm.trans found
          exact absurd stops goesOn
      | more found permitted cut continues beyond =>
          cases parsed.symm.trans found
          cases split.symm.trans cut
          exact ih beyond

end Blocks

theorem blocks_of_skip_blocks {source rest : Source} (skipped : skipBlocks? source = some rest) :
    ∃ last, Blocks source last rest := by
  fun_induction skipBlocks? source with
  | case1 => cases skipped
  | case2 => cases skipped
  | case3 => cases skipped
  | case4 source block middle parsed allowed content after split last =>
      cases skipped
      exact ⟨block, .last parsed allowed split last⟩
  | case5 source block middle parsed allowed content after split more ih =>
      obtain ⟨last, onward⟩ := ih skipped
      exact ⟨last, .more parsed allowed split more onward⟩

theorem Decoding.known_of_block {decoding next : Decoding} {greatest : Nat} {block : BlockHeader}
    {content : Bytes} (decoded : decoding.block? greatest block content = some next) :
    block.kind ≠ BlockHeader.reserved := by
  intro reserved
  rw [block?, unbounded?, reserved] at decoded
  cases decoded

theorem all_eq_true_iff {stated : Option Nat} {size : Nat} :
    stated.all (size = ·) = true ↔ ∀ other, stated = some other → size = other := by
  cases stated with
  | none => exact iff_of_true rfl fun other absent => nomatch absent
  | some other =>
      simp only [Option.all_some, decide_eq_true_eq, Option.some.injEq, forall_eq']

-- In one piece every way to the end looks at the size.
theorem blocks_of_decode_whole {frame : FrameHeader} {decoding : Decoding} {source rest : Source}
    {out : Array UInt8} (decoded : decodeWhole frame decoding source = .ok (out, rest)) :
    (∃ last, Blocks source last rest) ∧ ∀ size, frame.contentSize = some size → out.size = size := by
  fun_induction decodeWhole frame decoding source with
  | case1 => cases decoded
  | case2 => cases decoded
  | case3 => cases decoded
  | case4 decoding source block middle parsed content after split next yielded last fits =>
      cases decoded
      exact ⟨⟨block, .last parsed (Decoding.known_of_block yielded) split last⟩,
        all_eq_true_iff.mp fits⟩
  | case5 => cases decoded
  | case6 decoding source block middle parsed content after split next yielded more ih =>
      obtain ⟨⟨last, onward⟩, fits⟩ := ih decoded
      exact ⟨⟨last, .more parsed (Decoding.known_of_block yielded) split more onward⟩, fits⟩

theorem Decoding.split_of_receive {decoding next : Decoding} {frame : FrameHeader}
    {block : BlockHeader} {source rest : Source}
    (received : decoding.receive frame block source = .ok (next, rest)) :
    ∃ content, source.split? block.contentSize = some (content, rest) := by
  simp only [receive] at received
  split at received
  · rename_i kind
    have size : block.contentSize = block.size := if_neg (by rw [kind]; decide)
    split at received
    · cases received
    · split at received
      · cases received
      · rename_i there
        cases received
        have whole : (source.bytes.take block.size).length = block.size := by
          have most := List.length_take_le block.size source.bytes
          omega
        refine ⟨source.bytes.take block.size, ?_⟩
        rw [size, Source.split?, splitBytes?]
        simp only [if_pos whole]
        rfl
  · split at received
    · cases received
    · rename_i content middle split
      split at received
      · cases received
      · split at received
        · cases received
          exact ⟨content, split⟩
        · cases received

-- As the frame arrives, the way to the end through a block without content does not.
theorem blocks_of_decode_blocks {frame : FrameHeader} {decoding : Decoding} {source rest : Source}
    {out : Array UInt8} (decoded : decodeBlocks frame decoding source = .ok (out, rest)) :
    ∃ last, Blocks source last rest ∧
      ∀ size, frame.contentSize = some size → last.contentSize ≠ 0 → out.size = size := by
  fun_induction decodeBlocks frame decoding source with
  | case1 => cases decoded
  | case2 => cases decoded
  | case3 decoding source block middle parsed allowed empty last =>
      have split : middle.split? block.contentSize = some ([], middle) := by
        rw [empty]
        exact middle.split_nothing
      cases decoded
      exact ⟨block, .last parsed (fun reserved => allowed (Or.inl reserved)) split last,
        fun size _ filled => absurd empty filled⟩
  | case4 decoding source block middle parsed allowed empty more ih =>
      have split : middle.split? block.contentSize = some ([], middle) := by
        rw [empty]
        exact middle.split_nothing
      obtain ⟨last, onward, fits⟩ := ih decoded
      exact ⟨last, .more parsed (fun reserved => allowed (Or.inl reserved)) split more onward, fits⟩
  | case5 => cases decoded
  | case6 decoding source block middle parsed allowed filled next after received last fits =>
      cases decoded
      obtain ⟨content, split⟩ := Decoding.split_of_receive received
      exact ⟨block, .last parsed (fun reserved => allowed (Or.inl reserved)) split last,
        fun size stated _ => all_eq_true_iff.mp fits size stated⟩
  | case7 => cases decoded
  | case8 decoding source block middle parsed allowed filled next after received more ih =>
      obtain ⟨content, split⟩ := Decoding.split_of_receive received
      obtain ⟨last, onward, fits⟩ := ih decoded
      exact ⟨last, .more parsed (fun reserved => allowed (Or.inl reserved)) split more onward, fits⟩

end TaggedBlock.Zstd
