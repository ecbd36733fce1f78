import TaggedBlock.Proofs.Zstd.Frames

set_option autoImplicit false

namespace TaggedBlock.Zstd

section Block

variable (frame : FrameHeader) (isLast : Bool) (inheritance : Inheritance) (out : Array UInt8)

theorem size_le_limit {grown : Array UInt8} (bounded : grown.size ≤ out.size + frame.blockBound) :
    grown.size ≤ (Ring.lately frame.effectiveWindow frame.blockBound out.size).limit := by
  simp only [Ring.lately, Ring.limit]
  omega

theorem yields_stored (chunk : Bytes) (bound : chunk.length ≤ frame.blockBound) :
    Yields frame ⟨isLast, BlockHeader.stored, chunk.length⟩ chunk inheritance inheritance out
      (out ++ chunk) := by
  have bounded : (out ++ chunk).size ≤ out.size + frame.blockBound := by
    rw [size_append]
    exact Nat.add_le_add_left bound _
  exact ⟨Nat.zero_lt_succ 2, bound, bound, rfl, Decoding.block_eq_some_iff.mpr ⟨rfl, size_le_limit frame out bounded⟩, bounded⟩

theorem yields_repeated (byte : UInt8) (count : Nat) (filled : 1 ≤ frame.blockBound)
    (bound : count ≤ frame.blockBound) :
    Yields frame ⟨isLast, BlockHeader.repeated, count⟩ [byte] inheritance inheritance out
      (out ++ List.replicate count byte) := by
  have bounded : (out ++ List.replicate count byte).size ≤ out.size + frame.blockBound := by
    rw [size_append, List.length_replicate]
    exact Nat.add_le_add_left bound _
  refine ⟨Nat.succ_lt_succ (Nat.zero_lt_succ 1), bound, filled, rfl,
    Decoding.block_eq_some_iff.mpr ⟨?_, size_le_limit frame out bounded⟩, bounded⟩
  have room : out.size + count ≤
      (Ring.lately frame.effectiveWindow frame.blockBound out.size).limit := by
    simp only [Ring.lately, Ring.limit]
    omega
  rw [← push_copies_replicate]
  exact if_pos room

end Block

def plainFrame : FrameHeader := ⟨some 131072, 0, none, false⟩

theorem parse_plain_header :
    FrameHeader.parse (.start plainHeader) = .ok (plainFrame, ⟨plainHeader.length, []⟩) := rfl

theorem encode_block_eq (level : Int32) (isLast : Bool) (inheritance : Inheritance)
    (out : Array UInt8) (chunk : Bytes) (short : chunk.length ≤ greatestBlock) :
    ∃ block content, encodeBlock level isLast chunk = block.render ++ content ∧
      block.isLast = isLast ∧
      Yields plainFrame block content inheritance inheritance out (out ++ chunk) := by
  have stored := yields_stored plainFrame isLast inheritance out chunk short
  cases chunk with
  | nil => exact ⟨_, _, (List.append_nil _).symm, rfl, stored⟩
  | cons byte chunk =>
      simp only [encodeBlock]
      split
      · rename_i run
        have alike : ∀ other ∈ chunk, other = byte := by
          intro other member
          exact eq_of_beq (List.all_eq_true.mp run.2 other member)
        have same : List.replicate (byte :: chunk).length byte = byte :: chunk := by
          rw [List.length_cons, List.replicate_succ, ← List.eq_replicate_of_mem alike]
        have repeated := yields_repeated plainFrame isLast inheritance out byte _ (by decide) short
        rw [same] at repeated
        exact ⟨_, _, rfl, rfl, repeated⟩
      · exact ⟨_, _, rfl, rfl, stored⟩

theorem text_encode_blocks (level : Int32) (inheritance : Inheritance) (raw : Bytes)
    (out : Array UInt8) :
    ∃ last, Text plainFrame inheritance out (encodeBlocks level raw) last (out ++ raw) := by
  fun_induction encodeBlocks level raw generalizing out with
  | case1 raw short =>
      obtain ⟨block, content, spelled, last, yields⟩ :=
        encode_block_eq level true inheritance out raw short
      rw [spelled]
      exact ⟨block, .last yields last⟩
  | case2 raw long ih =>
      obtain ⟨block, content, spelled, more, yields⟩ :=
        encode_block_eq level false inheritance out (raw.take greatestBlock)
          (List.length_take_le _ _)
      obtain ⟨last, onward⟩ := ih (out ++ raw.take greatestBlock)
      rw [append_append_list, List.take_append_drop] at onward
      rw [spelled, List.append_assoc]
      exact ⟨last, .more yields (by rw [more]; exact Bool.false_ne_true) onward⟩

theorem coded_encode (level : Int32) (raw : Bytes) :
    codedFrame plainHeader (encodeBlocks level raw) [] = encode level raw ∧
      ∃ last, Coded plainFrame plainHeader (encodeBlocks level raw) [] last
        ((#[] : Array UInt8) ++ raw) := by
  obtain ⟨last, blocks⟩ := text_encode_blocks level .start raw #[]
  refine ⟨?_, last, parse_plain_header, rfl, by decide, blocks, rfl, fun has => nomatch has⟩
  rw [codedFrame, List.append_nil, encode, List.append_assoc]

theorem frame_encode (level : Int32) (raw : Bytes) : Frame (encode level raw) raw := by
  obtain ⟨spelled, last, coded⟩ := coded_encode level raw
  have frame := Frame.coded coded (fun _ known => nomatch known) fun small => nomatch small
  rwa [spelled, Array.toList_appendList, List.nil_append] at frame

theorem read_frame_encode (level : Int32) (raw : Bytes) (buffers : Buffers) (position : Nat)
    (rest : Bytes) :
    readFrame buffers ⟨position, encode level raw ++ rest⟩ =
      .ok (raw, buffers.forFrame plainFrame, ⟨position + (encode level raw).length, rest⟩) := by
  obtain ⟨spelled, last, coded⟩ := coded_encode level raw
  have read := coded.read_frame_streamed (fun _ known => nomatch known) buffers position rest
    fun small => nomatch small
  rwa [spelled, Array.toList_appendList, List.nil_append] at read

theorem filled_encode (level : Int32) (raw : Bytes) : encode level raw ≠ [] :=
  List.cons_ne_nil _ _

theorem decode_encode (level : Int32) (raw : Bytes) : decode (encode level raw) = .ok raw :=
  decode_frames (.one (frame_encode level raw)) (filled_encode level raw)

end TaggedBlock.Zstd
