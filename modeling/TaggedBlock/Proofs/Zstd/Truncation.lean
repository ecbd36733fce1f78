import TaggedBlock.Proofs.Zstd.Extension
import TaggedBlock.Proofs.Zstd.RoundTrip

set_option autoImplicit false

namespace TaggedBlock.Zstd

theorem decode_of_error {payload : Bytes} {error : Error}
    (failed : readFrame .start (.start payload) = .error error) (filled : payload ≠ []) :
    decode payload = .error error := by
  rw [decode_eq filled, read_frames_error #[] (mt List.isEmpty_iff.mp filled) failed]
  rfl

theorem near_start (payload : Bytes) (header : FrameHeader) (body : Source)
    (opened : openFrame (.start payload) = .ok (header, body)) :
    body.position ≤ (Source.start payload).position + (Source.start payload).ahead := by
  have most : 0 + magic.length + FrameHeader.longest ≤ 0 + (Source.chunk - 0 % Source.chunk) := by
    decide
  exact Nat.le_trans (leads_of_open_frame opened).2 most

theorem begins_frame_cut {cut missing : Bytes} (begins : beginsFrame (cut ++ missing) = true) :
    beginsFrame cut = true := by
  rw [beginsFrame, List.isPrefixOf_iff_prefix] at begins ⊢
  rw [List.take_append] at begins
  exact (List.prefix_append _ _).trans begins

section Cut

variable {cut missing content : Bytes} {buffers later : Buffers} {rest : Source}

-- A part of a frame that ends the payload would end before the payload does.
theorem decode_cut
    (whole : readFrame .start (.start (cut ++ missing)) = .ok (content, later, rest))
    (ends : rest.bytes = []) (filled : missing ≠ []) : ∃ error, decode cut = .error error := by
  by_cases nothing : cut = []
  · subst cut
    exact ⟨.emptyPayload, rfl⟩
  · cases read : readFrame .start (.start cut) with
    | error error => exact ⟨error, decode_of_error read nothing⟩
    | ok result =>
        obtain ⟨part, _, after⟩ := result
        have shorter := (spans_of_read_frame (near_start cut) read).extend missing
        have longer := spans_of_read_frame (near_start (cut ++ missing)) whole
        have same := congrArg Source.bytes (longer.unique shorter)
        rw [ends] at same
        exact absurd (List.append_eq_nil_iff.mp same.symm).2 filled

variable {source : Source} {header : FrameHeader}

theorem verify_cut (whole : verify header content (source.extend missing) = .ok rest)
    (ends : rest.bytes = []) (filled : missing ≠ []) :
    verify header content source = .error .incomplete := by
  obtain ⟨checksum, closes, -⟩ := verify_eq_ok_iff.mp whole
  cases split : source.split? header.checksumLength with
  | none => simp only [verify, split]
  | some parts =>
      obtain ⟨taken, after⟩ := parts
      cases (Source.split_extend missing split).symm.trans closes
      exact absurd (List.append_eq_nil_iff.mp ends).2 filled

theorem decode_stream_cut
    (whole : decodeStream buffers header (source.extend missing) = .ok (content, later, rest))
    (ends : rest.bytes = []) (filled : missing ≠ []) :
    decodeStream buffers header source = .error .incomplete := by
  simp only [decodeStream] at whole ⊢
  split at whole
  · cases whole
  · rename_i allowed
    rw [if_neg allowed]
    rcases decode_blocks_continues header (.start (.plain (buffers.forFrame header).output)) source
        missing with starved | same
    · rw [starved]
    · rw [same] at whole
      cases blocks : decodeBlocks header (.start (.plain (buffers.forFrame header).output))
          source with
      | error error =>
          rw [blocks] at whole
          cases whole
      | ok result =>
          obtain ⟨out, behind⟩ := result
          rw [blocks] at whole
          obtain ⟨after, verified, same⟩ := map_eq_ok_iff.mp whole
          cases same
          simp only [id_eq] at verified
          simp only [verify_cut verified ends filled]
          rfl

theorem read_frame_cut {body : Source}
    (whole : readFrame buffers (source.extend missing) = .ok (content, later, rest))
    (ends : rest.bytes = []) (filled : missing ≠ [])
    (begins : beginsFrame (source.extend missing).bytes = true)
    (opened : openFrame (source.extend missing) = .ok (header, body))
    (unsized : header.contentSize = none) : readFrame buffers source = .error .incomplete := by
  have large : ¬ header.isSmall = true := by
    rw [FrameHeader.isSmall, unsized]
    exact Bool.false_ne_true
  have begun : beginsFrame source.bytes = true := begins_frame_cut begins
  rw [read_frame_streamed begins opened fun small => absurd small large] at whole
  rcases open_frame_continues source missing with starved | same
  · rw [readFrame, if_pos begun, starved]
  · obtain ⟨⟨other, front⟩, reopened, found⟩ := map_eq_ok_iff.mp (same.symm.trans opened)
    cases found
    rw [read_frame_streamed begun reopened fun small => absurd small large]
    exact decode_stream_cut whole ends filled

end Cut

theorem read_frame_cut_encode {level : Int32} {raw cut missing : Bytes}
    (whole : cut ++ missing = encode level raw) (filled : missing ≠ []) (buffers : Buffers)
    (position : Nat) : readFrame buffers ⟨position, cut⟩ = .error .incomplete := by
  have read := read_frame_encode level raw buffers position []
  rw [List.append_nil, ← whole] at read
  have spelled : cut ++ missing = magic ++ (plainHeader ++ encodeBlocks level raw) := by
    rw [whole, encode, List.append_assoc]
  have begins : beginsFrame (cut ++ missing) = true := by
    rw [spelled]
    rfl
  have opened := FrameHeader.open_append parse_plain_header position (encodeBlocks level raw)
  rw [← spelled] at opened
  exact read_frame_cut read rfl filled begins opened rfl

theorem decode_cut_encode {level : Int32} {raw cut missing : Bytes}
    (whole : cut ++ missing = encode level raw) (filled : missing ≠ []) (begun : cut ≠ []) :
    decode cut = .error .incomplete :=
  decode_of_error (read_frame_cut_encode whole filled .start 0) begun

section Take

variable {size : Nat}

theorem drop_ne_nil {payload : Bytes} (inside : size < payload.length) : payload.drop size ≠ [] :=
  mt List.drop_eq_nil_iff.mp (Nat.not_le.mpr inside)

theorem decode_take {payload content : Bytes} {later : Buffers} {rest : Source}
    (frame : readFrame .start (.start payload) = .ok (content, later, rest))
    (ends : rest.bytes = []) (inside : size < payload.length) :
    ∃ error, decode (payload.take size) = .error error := by
  rw [← List.take_append_drop size payload] at frame
  exact decode_cut frame ends (drop_ne_nil inside)

theorem decode_take_encode {level : Int32} {raw : Bytes} (inside : size < (encode level raw).length) :
    decode ((encode level raw).take size) =
      .error (if size = 0 then .emptyPayload else .incomplete) := by
  by_cases nothing : size = 0
  · subst size
    rfl
  · rw [if_neg nothing]
    refine decode_cut_encode (List.take_append_drop size _) (drop_ne_nil inside) fun empty => ?_
    rcases List.take_eq_nil_iff.mp empty with zero | none
    · exact nothing zero
    · rw [none] at inside
      exact absurd inside (Nat.not_lt_zero _)

end Take

end TaggedBlock.Zstd
