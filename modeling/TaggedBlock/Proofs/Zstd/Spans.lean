import TaggedBlock.Proofs.Zstd.Frames

set_option autoImplicit false

namespace TaggedBlock.Zstd

namespace FrameHeader

def longest : Nat := 14

theorem size_length_le (descriptor : Nat) : sizeLength descriptor ≤ 8 := by
  unfold sizeLength
  split
  · split
    · decide
    · decide
  · decide
  · decide
  · decide

theorem dictionary_length_le (descriptor : Nat) : dictionaryLength descriptor ≤ 4 := by
  unfold dictionaryLength
  have small : descriptor % 4 < 4 := Nat.mod_lt _ (by decide)
  split
  · decide
  · exact Nat.le_of_lt small

theorem window_length_le (descriptor : Nat) : windowLength descriptor ≤ 1 := by
  unfold windowLength
  split
  · decide
  · decide

theorem leads_of_parse {source rest : Source} {header : FrameHeader}
    (parsed : parse source = .ok (header, rest)) :
    source.Leads rest ∧ rest.position ≤ source.position + longest := by
  simp only [parse] at parsed
  split at parsed
  · cases parsed
  · rename_i fields
    simp only [bind, Option.bind_eq_some_iff] at fields
    obtain ⟨⟨descriptor, source1⟩, first, ⟨window, source2⟩, second, ⟨dictionary, source3⟩, third,
      ⟨size, source4⟩, fourth, same⟩ := fields
    cases same
    simp only at first second third fourth
    split at parsed
    · cases parsed
    · cases parsed
      have front := (Source.leads_of_split first).trans (Source.leads_of_split second)
      have back := (Source.leads_of_split third).trans (Source.leads_of_split fourth)
      refine ⟨front.trans back, ?_⟩
      rw [(Source.split_eq_some fourth).2.2, (Source.split_eq_some third).2.2,
        (Source.split_eq_some second).2.2, (Source.split_eq_some first).2.2]
      have most := size_length_le (littleEndian descriptor)
      have more := dictionary_length_le (littleEndian descriptor)
      have one := window_length_le (littleEndian descriptor)
      simp only [longest]
      omega

end FrameHeader

theorem leads_of_open_frame {source body : Source} {header : FrameHeader}
    (opened : openFrame source = .ok (header, body)) :
    source.Leads body ∧ body.position ≤ source.position + magic.length + FrameHeader.longest := by
  unfold openFrame at opened
  split at opened
  · cases opened
  · rename_i split
    obtain ⟨leads, near⟩ := FrameHeader.leads_of_parse opened
    rw [(Source.split_eq_some split).2.2] at near
    exact ⟨(Source.leads_of_split split).trans leads, near⟩

theorem leads_of_skip_frame {source rest : Source} {size : Nat}
    (skipped : skipFrame? source = some (size, rest)) : source.Leads rest := by
  simp only [skipFrame?, bind, Option.bind_eq_some_iff] at skipped
  obtain ⟨⟨first, second⟩, opened, ⟨digits, third⟩, sized, ⟨content, last⟩, split, same⟩ := skipped
  cases same
  have front := (Source.leads_of_split opened).trans (Source.leads_of_split sized)
  exact front.trans (Source.leads_of_split split)

inductive Spans : Source → Source → Prop where
  | coded {source body behind rest : Source} {header : FrameHeader} {last : BlockHeader}
      {checksum : Bytes} (begins : beginsFrame source.bytes = true)
      (opened : openFrame source = .ok (header, body)) (blocks : Blocks body last behind)
      (closes : behind.split? header.checksumLength = some (checksum, rest)) : Spans source rest
  | skipped {source rest : Source} {size : Nat} (other : beginsFrame source.bytes = false)
      (begins : beginsSkippable source.bytes = true)
      (skips : skipFrame? source = some (size, rest)) : Spans source rest

theorem Spans.leads {source rest : Source} (spans : Spans source rest) : source.Leads rest := by
  cases spans with
  | coded begins opened blocks closes =>
      have inner := blocks.leads.trans (Source.leads_of_split closes)
      exact (leads_of_open_frame opened).1.trans inner
  | skipped other begins skips => exact leads_of_skip_frame skips

theorem Spans.unique {source rest other : Source} (spans : Spans source rest)
    (again : Spans source other) : rest = other := by
  cases spans with
  | coded begins opened blocks closes =>
      cases again with
      | coded found reopened outline ends =>
          cases opened.symm.trans reopened
          obtain ⟨-, rfl⟩ := blocks.unique outline
          cases closes.symm.trans ends
          rfl
      | skipped apart => cases begins.symm.trans apart
  | skipped apart begins skips =>
      cases again with
      | coded found => cases apart.symm.trans found
      | skipped _ _ reached =>
          cases skips.symm.trans reached
          rfl

section Read

variable {source body rest : Source} {header : FrameHeader} {content : Bytes}

theorem split_of_verify (verified : verify header content source = .ok rest) :
    ∃ checksum, source.split? header.checksumLength = some (checksum, rest) := by
  obtain ⟨checksum, split, -⟩ := verify_eq_ok_iff.mp verified
  exact ⟨checksum, split⟩

theorem decode_at_once_there {behind : Source} {last : BlockHeader} {checksum : Bytes}
    (begins : beginsFrame source.bytes = true) (opened : openFrame source = .ok (header, body))
    (blocks : Blocks body last behind)
    (closes : behind.split? header.checksumLength = some (checksum, rest))
    (inside : rest.position ≤ source.position + source.ahead) :
    decodeAtOnce? source ≠ none := by
  simp only [decodeAtOnce?, if_pos begins, opened, blocks.skip_blocks, Option.bind_some, closes,
    if_pos inside]
  exact Option.some_ne_none _

theorem blocks_of_decode_at_once (begins : beginsFrame source.bytes = true)
    (opened : openFrame source = .ok (header, body))
    (decoded : decodeAtOnce? source = some (.ok (content, rest))) :
    ∃ last behind, Blocks body last behind ∧ verify header content behind = .ok rest ∧
      ∀ size, header.contentSize = some size → content.length = size := by
  simp only [decodeAtOnce?, if_pos begins, opened] at decoded
  split at decoded
  · cases decoded
  · split at decoded
    · have frame := Option.some.inj decoded
      split at frame
      · cases frame
      · split at frame
        · cases frame
        · rename_i out behind whole
          obtain ⟨after, verified, same⟩ := map_eq_ok_iff.mp frame
          cases same
          obtain ⟨⟨last, blocks⟩, fits⟩ := blocks_of_decode_whole whole
          exact ⟨last, behind, blocks, verified, fits⟩
    · cases decoded

theorem blocks_of_decode_stream {buffers later : Buffers}
    (decoded : decodeStream buffers header source = .ok (content, later, rest)) :
    ∃ last behind, Blocks source last behind ∧ verify header content behind = .ok rest ∧
      ∀ size, header.contentSize = some size → last.contentSize ≠ 0 → content.length = size := by
  simp only [decodeStream] at decoded
  split at decoded
  · cases decoded
  · split at decoded
    · cases decoded
    · rename_i out behind blocks
      obtain ⟨after, verified, same⟩ := map_eq_ok_iff.mp decoded
      cases same
      obtain ⟨last, outline, fits⟩ := blocks_of_decode_blocks blocks
      exact ⟨last, behind, outline, verified, fits⟩

theorem blocks_of_read_frame {buffers later : Buffers} (begins : beginsFrame source.bytes = true)
    (opened : openFrame source = .ok (header, body))
    (near : body.position ≤ source.position + source.ahead)
    (read : readFrame buffers source = .ok (content, later, rest)) :
    ∃ last behind, Blocks body last behind ∧ verify header content behind = .ok rest ∧
      ∀ size, header.contentSize = some size →
        (last.contentSize = 0 → size ≤ room ∧ rest.position ≤ source.position + source.ahead) →
        content.length = size := by
  have here : source.atHand body = source := if_pos near
  by_cases once : ∃ result, header.isSmall = true ∧ decodeAtOnce? source = some result
  · obtain ⟨result, small, found⟩ := once
    rw [read_frame_at_once begins opened small (here ▸ found)] at read
    obtain ⟨⟨_, _⟩, decoded, same⟩ := map_eq_ok_iff.mp read
    cases same
    rw [decoded] at found
    obtain ⟨last, behind, blocks, verified, fits⟩ := blocks_of_decode_at_once begins opened found
    exact ⟨last, behind, blocks, verified, fun size stated _ => fits size stated⟩
  · have apart : header.isSmall = true → decodeAtOnce? source = none := fun small =>
      Option.eq_none_iff_forall_ne_some.mpr fun result found => once ⟨result, small, found⟩
    rw [read_frame_streamed begins opened (here.symm ▸ apart)] at read
    obtain ⟨last, behind, blocks, verified, fits⟩ := blocks_of_decode_stream read
    refine ⟨last, behind, blocks, verified, fun size stated held => fits size stated ?_⟩
    intro empty
    obtain ⟨little, inside⟩ := held empty
    have small : header.isSmall = true := by
      rw [FrameHeader.isSmall, stated, Option.any_some, decide_eq_true_eq]
      exact little
    obtain ⟨checksum, closes⟩ := split_of_verify verified
    exact decode_at_once_there begins opened blocks closes inside (apart small)

theorem spans_of_read_frame {buffers later : Buffers}
    (near : ∀ header body, openFrame source = .ok (header, body) →
      body.position ≤ source.position + source.ahead)
    (read : readFrame buffers source = .ok (content, later, rest)) : Spans source rest := by
  cases begins : beginsFrame source.bytes with
  | true =>
      cases opened : openFrame source with
      | error error =>
          rw [readFrame, if_pos begins, opened] at read
          cases read
      | ok result =>
          obtain ⟨header, body⟩ := result
          obtain ⟨last, behind, blocks, verified, -⟩ :=
            blocks_of_read_frame begins opened (near header body opened) read
          obtain ⟨checksum, closes⟩ := split_of_verify verified
          exact .coded begins opened blocks closes
  | false =>
      rw [readFrame, begins, if_neg Bool.false_ne_true] at read
      split at read
      · rename_i kind
        split at read
        · cases read
        · rename_i skips
          cases read
          exact .skipped begins kind skips
      · cases read

end Read

end TaggedBlock.Zstd
