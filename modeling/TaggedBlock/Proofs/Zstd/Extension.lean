import TaggedBlock.Proofs.Zstd.Spans

set_option autoImplicit false

namespace TaggedBlock.Zstd

-- More bytes behind the source change nothing about what is read of it, unless it ends too early.
def Continues {α : Type} (read : Source → Except Error (α × Source)) (source : Source)
    (suffix : Bytes) : Prop :=
  read source = .error .incomplete ∨
    read (source.extend suffix) = (read source).map (Prod.map id (·.extend suffix))

namespace Continues

variable {α : Type} {read : Source → Except Error (α × Source)} {source rest : Source}
  {suffix : Bytes} {value : α}

theorem extend (continues : Continues read source suffix) (found : read source = .ok (value, rest)) :
    read (source.extend suffix) = .ok (value, rest.extend suffix) := by
  rcases continues with starved | same
  · cases starved.symm.trans found
  · rw [same, found]
    rfl

theorem incomplete (continues : Continues read source suffix)
    (whole : read (source.extend suffix) = .ok (value, rest)) (ends : rest.bytes = [])
    (missing : suffix ≠ []) : read source = .error .incomplete := by
  rcases continues with starved | same
  · exact starved
  · obtain ⟨⟨_, after⟩, _, reached⟩ := map_eq_ok_iff.mp (same.symm.trans whole)
    cases reached
    exact absurd (List.append_eq_nil_iff.mp ends).2 missing

end Continues

theorem Ring.pour_eq_some_iff {ring next : Ring} {header : FrameHeader} {bytes : Bytes}
    {out grown : Array UInt8} :
    ring.pour? header bytes out = some (next, grown) ↔
      (out ++ bytes).size ≤ ring.limit ∧ ring.turn header (out ++ bytes) = next ∧
        out ++ bytes = grown := by
  simp only [pour?]
  split
  · rename_i fits
    simp only [Option.some.injEq, Prod.mk.injEq, fits, true_and]
  · rename_i beyond
    exact iff_of_false (fun same => nomatch same) fun fits => beyond fits.1

theorem Ring.le_limit_turn {ring : Ring} {header : FrameHeader} {out : Array UInt8}
    (fits : out.size ≤ ring.limit) : out.size ≤ (ring.turn header out).limit := by
  unfold turn
  split
  · exact Nat.le_add_right _ _
  · exact fits

-- Bytes for which there is no room do not fit either if more of them come.
theorem Ring.pour_parts_cut {ring : Ring} {header : FrameHeader} {ahead : Nat} {bytes : Bytes}
    {out : Array UInt8} (beyond : ring.pourParts? header ahead bytes out = none) (more : Bytes) :
    ring.pourParts? header ahead (bytes ++ more) out = none := by
  refine Option.eq_none_iff_forall_ne_some.mpr fun result whole => ?_
  simp only [pourParts?, bind, Option.bind_eq_some_iff] at whole
  obtain ⟨⟨turned, middle⟩, first, second⟩ := whole
  obtain ⟨next, final⟩ := result
  obtain ⟨room, rfl, rfl⟩ := pour_eq_some_iff.mp first
  obtain ⟨left, -, -⟩ := pour_eq_some_iff.mp second
  simp only [size_append] at room left
  rw [List.take_append, List.length_append] at room
  have fits : (out ++ bytes.take ahead).size ≤ ring.limit := by
    rw [size_append]
    omega
  have poured : ring.pour? header (bytes.take ahead) out =
      some (ring.turn header (out ++ bytes.take ahead), out ++ bytes.take ahead) :=
    pour_eq_some_iff.mpr ⟨fits, rfl, rfl⟩
  have again : (out ++ bytes.take ahead ++ bytes.drop ahead).size ≤
      (ring.turn header (out ++ bytes.take ahead)).limit := by
    by_cases short : bytes.length ≤ ahead
    · rw [List.drop_eq_nil_of_le short, Array.appendList_nil]
      exact le_limit_turn fits
    · have enough : ahead ≤ bytes.length := Nat.le_of_not_le short
      rw [List.take_append_of_le_length enough, List.drop_append_of_le_length enough] at left
      simp only [size_append, List.length_append] at left ⊢
      omega
  rw [pourParts?, poured] at beyond
  cases beyond.symm.trans (pour_eq_some_iff.mpr ⟨again, rfl, rfl⟩)

theorem Decoding.receive_stored_continues (decoding : Decoding) (frame : FrameHeader)
    {block : BlockHeader} (stored : block.kind = BlockHeader.stored) (source : Source)
    (suffix : Bytes) : Continues (decoding.receive frame block) source suffix := by
  simp only [Continues, receive, if_pos stored, Source.ahead_extend]
  by_cases short : (source.bytes.take block.size).length < block.size
  · cases poured : decoding.ring.pourParts? frame source.ahead (source.bytes.take block.size)
        decoding.out with
    | some result => exact Or.inl (if_pos short)
    | none =>
        right
        have beyond := Ring.pour_parts_cut poured (suffix.take (block.size - source.bytes.length))
        rw [← List.take_append] at beyond
        simp only [Source.extend, beyond]
        rfl
  · right
    have there : block.size ≤ source.bytes.length := by
      rw [List.length_take] at short
      omega
    have kept : (source.extend suffix).skip block.size = (source.skip block.size).extend suffix := by
      simp only [Source.extend, Source.skip, List.drop_append_of_le_length there]
    have same : (source.extend suffix).bytes.take block.size = source.bytes.take block.size :=
      List.take_append_of_le_length there
    rw [same, kept]
    cases decoding.ring.pourParts? frame source.ahead (source.bytes.take block.size)
        decoding.out with
    | none => rfl
    | some result =>
        simp only [if_neg short]
        rfl

theorem Decoding.receive_whole_continues (decoding : Decoding) (frame : FrameHeader)
    {block : BlockHeader} (other : block.kind ≠ BlockHeader.stored) (source : Source)
    (suffix : Bytes) : Continues (decoding.receive frame block) source suffix := by
  simp only [Continues, receive, if_neg other]
  cases split : source.split? block.contentSize with
  | none => exact Or.inl rfl
  | some parts =>
      obtain ⟨content, rest⟩ := parts
      right
      simp only [Source.split_extend suffix split]
      cases decoding.block? frame.blockBound block content with
      | none => rfl
      | some next =>
          dsimp only
          split
          · rfl
          · rfl

theorem Decoding.receive_continues (decoding : Decoding) (frame : FrameHeader)
    (block : BlockHeader) (source : Source) (suffix : Bytes) :
    Continues (decoding.receive frame block) source suffix := by
  by_cases stored : block.kind = BlockHeader.stored
  · exact decoding.receive_stored_continues frame stored source suffix
  · exact decoding.receive_whole_continues frame stored source suffix

theorem decode_blocks_continues (frame : FrameHeader) (decoding : Decoding) (source : Source)
    (suffix : Bytes) : Continues (decodeBlocks frame decoding) source suffix := by
  simp only [Continues]
  fun_induction decodeBlocks frame decoding source with
  | case1 => exact Or.inl rfl
  | case2 decoding source block middle parsed refused =>
      right
      rw [decode_blocks_refused (BlockHeader.parse_extend suffix parsed) refused]
      rfl
  | case3 decoding source block middle parsed allowed empty last =>
      right
      rw [decode_blocks_empty allowed (BlockHeader.parse_extend suffix parsed) empty, if_pos last]
      rfl
  | case4 decoding source block middle parsed allowed empty more ih =>
      rw [decode_blocks_empty allowed (BlockHeader.parse_extend suffix parsed) empty, if_neg more]
      exact ih
  | case5 decoding source block middle parsed allowed filled error failed =>
      rcases decoding.receive_continues frame block middle suffix with starved | same
      · cases starved.symm.trans failed
        exact Or.inl rfl
      · right
        rw [failed] at same
        rw [decode_blocks_failed allowed (BlockHeader.parse_extend suffix parsed) filled same]
        rfl
  | case6 decoding source block middle parsed allowed filled next after received last fits =>
      right
      have again := (decoding.receive_continues frame block middle suffix).extend received
      rw [decode_blocks_step allowed (BlockHeader.parse_extend suffix parsed) filled again,
        if_pos last, if_pos fits]
      rfl
  | case7 decoding source block middle parsed allowed filled next after received last misfit =>
      right
      have again := (decoding.receive_continues frame block middle suffix).extend received
      rw [decode_blocks_step allowed (BlockHeader.parse_extend suffix parsed) filled again,
        if_pos last, if_neg misfit]
      rfl
  | case8 decoding source block middle parsed allowed filled next after received more ih =>
      have again := (decoding.receive_continues frame block middle suffix).extend received
      rw [decode_blocks_step allowed (BlockHeader.parse_extend suffix parsed) filled again,
        if_neg more]
      exact ih

theorem decode_whole_extend {frame : FrameHeader} {decoding : Decoding} {source rest : Source}
    {out : Array UInt8} (suffix : Bytes)
    (decoded : decodeWhole frame decoding source = .ok (out, rest)) :
    decodeWhole frame decoding (source.extend suffix) = .ok (out, rest.extend suffix) := by
  fun_induction decodeWhole frame decoding source with
  | case1 => cases decoded
  | case2 => cases decoded
  | case3 => cases decoded
  | case4 decoding source block middle parsed content after split next yielded last fits =>
      cases decoded
      rw [decode_whole_step (BlockHeader.parse_extend suffix parsed)
        (Source.split_extend suffix split) yielded, if_pos last, if_pos fits]
  | case5 => cases decoded
  | case6 decoding source block middle parsed content after split next yielded more ih =>
      rw [decode_whole_step (BlockHeader.parse_extend suffix parsed)
        (Source.split_extend suffix split) yielded, if_neg more]
      exact ih decoded

theorem FrameHeader.parse_continues (source : Source) (suffix : Bytes) :
    Continues FrameHeader.parse source suffix := by
  cases found : FrameHeader.parse source with
  | ok result =>
      obtain ⟨header, rest⟩ := result
      obtain ⟨count, place, moved⟩ := parse_moved found
      right
      rw [found, Source.extend, moved, ← place]
      rfl
  | error error =>
      simp only [parse] at found
      split at found
      · cases found
        left
        rename_i fields
        simp only [parse, fields]
      · rename_i fields
        split at found
        · rename_i senseless
          cases found
          simp only [bind, Option.bind_eq_some_iff] at fields
          obtain ⟨⟨descriptor, source1⟩, first, ⟨window, source2⟩, second, ⟨dictionary, source3⟩,
            third, ⟨size, source4⟩, fourth, same⟩ := fields
          cases same
          right
          simp only at first second third fourth
          simp only [parse, bind, first, second, third, fourth, Source.split_extend suffix first,
            Source.split_extend suffix second, Source.split_extend suffix third,
            Source.split_extend suffix fourth, Option.bind_some, pure, if_pos senseless]
          rfl
        · cases found

theorem open_frame_continues (source : Source) (suffix : Bytes) :
    Continues openFrame source suffix := by
  simp only [Continues, openFrame]
  cases split : source.split? magic.length with
  | none => exact Or.inl rfl
  | some parts =>
      obtain ⟨opening, rest⟩ := parts
      simp only [Source.split_extend suffix split]
      exact FrameHeader.parse_continues rest suffix

theorem verify_extend {header : FrameHeader} {content : Bytes} {source rest : Source}
    (suffix : Bytes) (verified : verify header content source = .ok rest) :
    verify header content (source.extend suffix) = .ok (rest.extend suffix) := by
  obtain ⟨checksum, split, sums⟩ := verify_eq_ok_iff.mp verified
  exact verify_eq_ok_iff.mpr ⟨checksum, Source.split_extend suffix split, sums⟩

theorem skip_frame_extend {source rest : Source} {size : Nat} (suffix : Bytes)
    (skipped : skipFrame? source = some (size, rest)) :
    skipFrame? (source.extend suffix) = some (size, rest.extend suffix) := by
  simp only [skipFrame?, bind, Option.bind_eq_some_iff] at skipped
  obtain ⟨⟨first, second⟩, opened, ⟨digits, third⟩, sized, ⟨content, last⟩, split, same⟩ := skipped
  cases same
  simp only at sized split
  simp only [skipFrame?, bind, Source.split_extend suffix opened, Source.split_extend suffix sized,
    Source.split_extend suffix split, Option.bind_some]
  rfl

theorem length_of_split {source rest : Source} {count : Nat} {taken : Bytes}
    (split : source.split? count = some (taken, rest)) : count ≤ source.bytes.length := by
  have shorter := Source.length_split split
  omega

theorem long_of_open_frame {source body : Source} {header : FrameHeader}
    (opened : openFrame source = .ok (header, body)) : magic.length ≤ source.bytes.length := by
  unfold openFrame at opened
  split at opened
  · cases opened
  · rename_i split
    exact length_of_split split

theorem long_of_skip_frame {source rest : Source} {size : Nat}
    (skipped : skipFrame? source = some (size, rest)) : magic.length ≤ source.bytes.length := by
  obtain ⟨⟨first, second⟩, opened, -⟩ := Option.bind_eq_some_iff.mp skipped
  exact length_of_split opened

theorem Spans.extend {source rest : Source} (spans : Spans source rest) (suffix : Bytes) :
    Spans (source.extend suffix) (rest.extend suffix) := by
  cases spans with
  | coded begins opened blocks closes =>
      have long := long_of_open_frame opened
      exact .coded ((begins_frame_append suffix long).trans begins)
        ((open_frame_continues source suffix).extend opened) (blocks.extend suffix)
        (Source.split_extend suffix closes)
  | skipped other begins skips =>
      have long := long_of_skip_frame skips
      exact .skipped ((begins_frame_append suffix long).trans other)
        ((begins_skippable_append suffix long).trans begins) (skip_frame_extend suffix skips)

def Source.InFirst (source : Source) : Prop := source.position + source.bytes.length ≤ chunk

theorem Source.InFirst.leads {source rest : Source} (inside : source.InFirst)
    (leads : source.Leads rest) :
    rest.InFirst ∧ rest.position ≤ source.position + source.ahead := by
  have ends := leads.ends
  refine ⟨Nat.le_trans (Nat.le_of_eq ends) inside, ?_⟩
  have beyond : chunk ≤ source.position + source.ahead := by
    simp only [InFirst] at inside
    rcases Nat.lt_or_ge source.position chunk with less | more
    · rw [ahead, Nat.mod_eq_of_lt less]
      omega
    · exact Nat.le_trans more (Nat.le_add_right _ _)
  simp only [InFirst] at inside
  omega

section Frame

variable {source body rest : Source} {header : FrameHeader} {content : Bytes}

theorem decode_at_once_extend (suffix : Bytes) (begins : beginsFrame source.bytes = true)
    (opened : openFrame source = .ok (header, body))
    (decoded : decodeAtOnce? source = some (.ok (content, rest))) :
    decodeAtOnce? (source.extend suffix) = some (.ok (content, rest.extend suffix)) := by
  have begun : beginsFrame (source.extend suffix).bytes = true :=
    (begins_frame_append suffix (long_of_open_frame opened)).trans begins
  have reopened := (open_frame_continues source suffix).extend opened
  simp only [decodeAtOnce?, if_pos begins, opened] at decoded
  simp only [decodeAtOnce?, if_pos begun, reopened]
  split at decoded
  · cases decoded
  · rename_i closes
    obtain ⟨behind, skipped, split⟩ := Option.bind_eq_some_iff.mp closes
    obtain ⟨last, blocks⟩ := blocks_of_skip_blocks skipped
    split at decoded
    · rename_i inside
      simp only [(blocks.extend suffix).skip_blocks, Option.bind_some,
        Source.split_extend suffix split]
      refine (if_pos inside).trans (congrArg some ?_)
      have frame := Option.some.inj decoded
      split at frame
      · cases frame
      · rename_i undictated
        split at frame
        · cases frame
        · rename_i out after whole
          obtain ⟨ending, verified, same⟩ := map_eq_ok_iff.mp frame
          cases same
          simp only [if_neg undictated, decode_whole_extend suffix whole,
            verify_extend suffix verified]
          rfl
    · cases decoded

theorem decode_stream_extend {buffers later : Buffers} (suffix : Bytes)
    (decoded : decodeStream buffers header source = .ok (content, later, rest)) :
    decodeStream buffers header (source.extend suffix) =
      .ok (content, later, rest.extend suffix) := by
  simp only [decodeStream] at decoded ⊢
  split at decoded
  · cases decoded
  · rename_i allowed
    rw [if_neg allowed]
    split at decoded
    · cases decoded
    · rename_i blocks
      obtain ⟨after, verified, same⟩ := map_eq_ok_iff.mp decoded
      cases same
      rw [(decode_blocks_continues _ _ _ suffix).extend blocks]
      simp only [verify_extend suffix verified]
      rfl

theorem read_frame_extend {buffers later : Buffers} (inside : source.InFirst) (suffix : Bytes)
    (read : readFrame buffers source = .ok (content, later, rest)) :
    readFrame buffers (source.extend suffix) = .ok (content, later, rest.extend suffix) := by
  have near : ∀ header body, openFrame source = .ok (header, body) →
      body.position ≤ source.position + source.ahead := fun header body opened =>
    (inside.leads (leads_of_open_frame opened).1).2
  cases spans_of_read_frame near read with
  | @coded body behind _ header last checksum begins opened blocks closes =>
      have begun : beginsFrame (source.extend suffix).bytes = true :=
        (begins_frame_append suffix (long_of_open_frame opened)).trans begins
      have reopened := (open_frame_continues source suffix).extend opened
      have here : source.atHand body = source := if_pos (near _ _ opened)
      have there : (source.extend suffix).atHand (body.extend suffix) = source.extend suffix :=
        if_pos (near _ _ opened)
      have reached := (inside.leads (Spans.coded begins opened blocks closes).leads).2
      by_cases small : header.isSmall = true
      · cases once : decodeAtOnce? source with
        | none =>
            exact absurd once (decode_at_once_there begins opened blocks closes reached)
        | some result =>
            rw [read_frame_at_once begins opened small (here ▸ once)] at read
            obtain ⟨⟨_, _⟩, decoded, same⟩ := map_eq_ok_iff.mp read
            cases same
            rw [decoded] at once
            have again := decode_at_once_extend suffix begins opened once
            rw [read_frame_at_once begun reopened small (there.symm ▸ again)]
            rfl
      · rw [read_frame_streamed begins opened fun large => absurd large small] at read
        rw [read_frame_streamed begun reopened fun large => absurd large small]
        exact decode_stream_extend suffix read
  | skipped other begins skips =>
      have long := long_of_skip_frame skips
      rw [readFrame, other, begins, if_neg Bool.false_ne_true, if_pos rfl, skips] at read
      cases read
      have apart : beginsFrame (source.extend suffix).bytes = false :=
        (begins_frame_append suffix long).trans other
      have begun : beginsSkippable (source.extend suffix).bytes = true :=
        (begins_skippable_append suffix long).trans begins
      rw [readFrame, apart, begun, if_neg Bool.false_ne_true, if_pos rfl,
        skip_frame_extend suffix skips]

end Frame

theorem read_frames_extend {buffers : Buffers} {source : Source} {out whole : Array UInt8}
    (inside : source.InFirst) (read : readFrames buffers source out = .ok whole) :
    ∃ later, ∀ suffix, readFrames buffers (source.extend suffix) out =
      readFrames later ⟨source.position + source.bytes.length, suffix⟩ whole := by
  fun_induction readFrames buffers source out with
  | case1 buffers source out empty =>
      cases read
      refine ⟨buffers, fun suffix => ?_⟩
      have nothing := List.isEmpty_iff.mp empty
      rw [Source.extend, nothing, List.nil_append]
      rfl
  | case2 => cases read
  | case3 buffers source out filled content next rest found ih =>
      have near : ∀ header body, openFrame source = .ok (header, body) →
          body.position ≤ source.position + source.ahead := fun header body opened =>
        (inside.leads (leads_of_open_frame opened).1).2
      have leads := (spans_of_read_frame near found).leads
      obtain ⟨later, onward⟩ := ih (inside.leads leads).1 read
      refine ⟨later, fun suffix => ?_⟩
      rw [read_frames_cons out (read_frame_extend inside suffix found), onward, leads.ends]

theorem read_frames_behind (buffers : Buffers) (source : Source) (first out : Array UInt8) :
    readFrames buffers source (first ++ out) = (readFrames buffers source out).map (first ++ ·) := by
  fun_induction readFrames buffers source out with
  | case1 buffers source out empty =>
      rw [readFrames, if_pos empty]
      rfl
  | case2 buffers source out filled error failed =>
      rw [read_frames_error (first ++ out) filled failed]
      rfl
  | case3 buffers source out filled content next rest found ih =>
      have joined : first ++ out ++ content = first ++ (out ++ content) := by
        rw [← Array.toList_inj]
        simp only [Array.toList_appendList, Array.toList_append, List.append_assoc]
      rw [read_frames_cons (first ++ out) found, joined, ih]

theorem decode_extend {payload raw : Bytes} (inside : payload.length ≤ Source.chunk)
    (decoded : decode payload = .ok raw) :
    ∃ later, ∀ suffix, decode (payload ++ suffix) =
      (readFrames later ⟨payload.length, suffix⟩ ((#[] : Array UInt8) ++ raw)).map
        Array.toList := by
  by_cases empty : payload = []
  · subst empty
    cases decoded
  · rw [decode_eq empty] at decoded
    obtain ⟨whole, read, rfl⟩ := map_eq_ok_iff.mp decoded
    have first : Source.InFirst (.start payload) := by
      rw [Source.InFirst, Source.start, Nat.zero_add]
      exact inside
    obtain ⟨later, onward⟩ := read_frames_extend first read
    refine ⟨later, fun suffix => ?_⟩
    have same : ((#[] : Array UInt8) ++ whole.toList) = whole := by
      rw [← Array.toList_inj, Array.toList_appendList]
      rfl
    have step := onward suffix
    rw [Source.start, Nat.zero_add] at step
    rw [decode_eq fun none => empty (List.append_eq_nil_iff.mp none).1, same]
    exact congrArg (·.map Array.toList) step

end TaggedBlock.Zstd
