import TaggedBlock.Proofs.Results
import TaggedBlock.Proofs.Zstd.Conforming

set_option autoImplicit false

namespace TaggedBlock.Zstd

theorem Source.split_moved {source rest : Source} {count : Nat} {taken : Bytes}
    (split : source.split? count = some (taken, rest)) (position : Nat) (suffix : Bytes) :
    Source.split? ⟨position, source.bytes ++ suffix⟩ count =
      some (taken, ⟨position + count, rest.bytes ++ suffix⟩) := by
  obtain ⟨whole, size, -⟩ := split_eq_some split
  rw [whole, List.append_assoc]
  exact split_append position taken _ size

theorem FrameHeader.parse_moved {source rest : Source} {header : FrameHeader}
    (parsed : parse source = .ok (header, rest)) :
    ∃ count, rest.position = source.position + count ∧
      ∀ position suffix, parse ⟨position, source.bytes ++ suffix⟩ =
        .ok (header, ⟨position + count, rest.bytes ++ suffix⟩) := by
  simp only [parse] at parsed
  split at parsed
  · cases parsed
  · rename_i fields
    simp only [bind, Option.bind_eq_some_iff] at fields
    obtain ⟨⟨descriptor, source1⟩, first, ⟨window, source2⟩, second, ⟨dictionary, source3⟩, third,
      ⟨size, source4⟩, fourth, same⟩ := fields
    cases same
    simp only at first second third fourth
    split at parsed
    · cases parsed
    · rename_i allowed
      cases parsed
      refine ⟨1 + windowLength (littleEndian descriptor) +
        dictionaryLength (littleEndian descriptor) + sizeLength (littleEndian descriptor), ?_, ?_⟩
      · rw [(Source.split_eq_some fourth).2.2, (Source.split_eq_some third).2.2,
          (Source.split_eq_some second).2.2, (Source.split_eq_some first).2.2]
        omega
      · intro position suffix
        simp only [parse, bind, Source.split_moved first, Source.split_moved second,
          Source.split_moved third, Source.split_moved fourth, Option.bind_some, pure,
          if_neg allowed]
        simp only [Nat.add_assoc]

theorem FrameHeader.parse_head {head : Bytes} {header : FrameHeader} {place : Nat}
    (parsed : parse (.start head) = .ok (header, ⟨place, []⟩)) (position : Nat) (rest : Bytes) :
    parse ⟨position, head ++ rest⟩ = .ok (header, ⟨position + place, rest⟩) := by
  obtain ⟨count, reached, moved⟩ := parse_moved parsed
  have same : place = count := reached.trans (Nat.zero_add count)
  rw [same]
  exact moved position rest

theorem verify_eq_ok_iff {header : FrameHeader} {content : Bytes} {source rest : Source} :
    verify header content source = .ok rest ↔
      ∃ checksum, source.split? header.checksumLength = some (checksum, rest) ∧
        (header.hasChecksum = true → littleEndian checksum = Checksum.low content) := by
  unfold verify
  cases split : source.split? header.checksumLength with
  | none => exact iff_of_false (fun same => nomatch same) (fun ⟨_, same, _⟩ => nomatch same)
  | some parts =>
      obtain ⟨checksum, after⟩ := parts
      refine ⟨fun verified => ?_, ?_⟩
      · simp only at verified
        split at verified
        · cases verified
        · rename_i right
          cases verified
          exact ⟨checksum, rfl, fun has => Decidable.not_not.mp (not_and.mp right has)⟩
      · rintro ⟨_, same, sums⟩
        cases same
        exact if_neg fun wrong => wrong.2 (sums wrong.1)

def Clear (bytes : Bytes) : Prop := beginsFrame bytes = false ∧ beginsSkippable bytes = false

-- The parts of a frame with a header, the last of its blocks, and its content. What the header says
-- of the size of the content is left open.
structure Coded (header : FrameHeader) (head text checksum : Bytes) (last : BlockHeader)
    (final : Array UInt8) : Prop where
  parsed : FrameHeader.parse (.start head) = .ok (header, ⟨head.length, []⟩)
  undictated : header.dictionary = 0
  window : header.effectiveWindow ≤ greatestWindow
  blocks : Text header .start #[] text last final
  length : checksum.length = header.checksumLength
  sums : header.hasChecksum = true → littleEndian checksum = Checksum.low final.toList

def codedFrame (head text checksum : Bytes) : Bytes := magic ++ (head ++ (text ++ checksum))

theorem coded_frame_end (position : Nat) (head text checksum : Bytes) :
    position + magic.length + head.length + text.length + checksum.length =
      position + (codedFrame head text checksum).length := by
  simp only [codedFrame, List.length_append, Nat.add_assoc]

-- A frame that keeps to the format, and its content. If its header is read in two parts because a
-- chunk ends there, a small one must not be taken for a frame that begins with the second part.
inductive Frame : Bytes → Bytes → Prop where
  | skipped (kind : UInt8) (payload : Bytes) (known : kind.toNat / 16 = 5)
      (bound : payload.length < 0x100000000) :
      Frame ((kind :: [0x2a, 0x4d, 0x18]) ++ (littleEndianDigits 4 payload.length ++ payload)) []
  | coded {header : FrameHeader} {head text checksum : Bytes} {last : BlockHeader}
      {final : Array UInt8} (coded : Coded header head text checksum last final)
      (stated : ∀ size, header.contentSize = some size → final.size = size)
      (clear : header.isSmall = true → ∀ count, 0 < count → count < magic.length + head.length →
        Clear ((codedFrame head text checksum).drop count)) :
      Frame (codedFrame head text checksum) final.toList

theorem begins_frame_append {bytes : Bytes} (rest : Bytes) (long : magic.length ≤ bytes.length) :
    beginsFrame (bytes ++ rest) = beginsFrame bytes := by
  simp only [beginsFrame, List.take_append_of_le_length long]

theorem begins_skippable_append {bytes : Bytes} (rest : Bytes)
    (long : magic.length ≤ bytes.length) :
    beginsSkippable (bytes ++ rest) = beginsSkippable bytes := by
  cases bytes with
  | nil => cases long
  | cons kind tail =>
      have enough : 3 ≤ tail.length := Nat.le_of_succ_le_succ long
      simp only [beginsSkippable, List.cons_append, List.take_append_of_le_length enough]

theorem skip_frame_append (kind : UInt8) (payload rest : Bytes) (position : Nat)
    (bound : payload.length < 0x100000000) :
    skipFrame? ⟨position, (kind :: [0x2a, 0x4d, 0x18]) ++
        (littleEndianDigits 4 payload.length ++ (payload ++ rest))⟩ =
      some (payload.length, ⟨position + 8 + payload.length, rest⟩) := by
  have size := little_endian_little_endian_digits 4 payload.length bound
  simp only [skipFrame?, bind, pure,
    Source.split_append position (kind :: [0x2a, 0x4d, 0x18]) _ (rfl : _ = magic.length),
    Source.split_append _ _ (payload ++ rest) (length_little_endian_digits 4 payload.length), size,
    Source.split_append _ payload rest rfl, Option.bind_some]
  rfl

theorem FrameHeader.open_append {header : FrameHeader} {head : Bytes}
    (parsed : parse (.start head) = .ok (header, ⟨head.length, []⟩)) (position : Nat)
    (rest : Bytes) :
    openFrame ⟨position, magic ++ (head ++ rest)⟩ =
      .ok (header, ⟨position + magic.length + head.length, rest⟩) := by
  rw [openFrame, Source.split_append position magic _ rfl]
  exact parse_head parsed _ rest

theorem decode_at_once_far {source body behind rest : Source} {header : FrameHeader}
    {last : BlockHeader} {checksum : Bytes} (begins : beginsFrame source.bytes = true)
    (opened : openFrame source = .ok (header, body)) (blocks : Blocks body last behind)
    (closes : behind.split? header.checksumLength = some (checksum, rest))
    (far : ¬ rest.position ≤ source.position + source.ahead) : decodeAtOnce? source = none := by
  simp only [decodeAtOnce?, if_pos begins, opened, blocks.skip_blocks, Option.bind_some, closes,
    if_neg far]

namespace Coded

variable {header : FrameHeader} {head text checksum : Bytes} {last : BlockHeader}
  {final : Array UInt8} (coded : Coded header head text checksum last final)
include coded

theorem open_frame (position : Nat) (rest : Bytes) :
    openFrame ⟨position, codedFrame head text checksum ++ rest⟩ =
      .ok (header, ⟨position + magic.length + head.length, text ++ (checksum ++ rest)⟩) := by
  rw [codedFrame, List.append_assoc, List.append_assoc, List.append_assoc]
  exact FrameHeader.open_append coded.parsed position _

theorem closes (position : Nat) (rest : Bytes) :
    Source.split? ⟨position, checksum ++ rest⟩ header.checksumLength =
      some (checksum, ⟨position + checksum.length, rest⟩) := by
  rw [Source.split_append position checksum rest coded.length, coded.length]

theorem verified (position : Nat) (rest : Bytes) :
    verify header final.toList ⟨position, checksum ++ rest⟩ =
      .ok ⟨position + checksum.length, rest⟩ :=
  verify_eq_ok_iff.mpr ⟨checksum, coded.closes position rest, coded.sums⟩

theorem decode_stream (inside : ∀ size, header.contentSize = some size → final.size ≤ size)
    (stated : ∀ size, header.contentSize = some size → last.contentSize ≠ 0 → final.size = size)
    (buffers : Buffers) (position : Nat) (rest : Bytes) :
    decodeStream buffers header ⟨position, text ++ (checksum ++ rest)⟩ =
      .ok (final.toList, buffers.forFrame header,
        ⟨position + text.length + checksum.length, rest⟩) := by
  have allowed : ¬ (header.dictionary ≠ 0 ∨ greatestWindow < header.effectiveWindow) := by
    rintro (dictated | large)
    · exact dictated coded.undictated
    · exact Nat.not_lt_of_le coded.window large
  have decoded := decode_blocks_of_text coded.blocks (Fits.start buffers header) inside stated
    position (checksum ++ rest)
  simp only [decodeStream, if_neg allowed, Decoding.start, decoded, coded.verified _ rest]
  rfl

theorem decode_at_once (small : header.isSmall = true)
    (stated : ∀ size, header.contentSize = some size → final.size = size) (position : Nat)
    (rest : Bytes)
    (inside : position + (codedFrame head text checksum).length ≤
      position + Source.ahead ⟨position, codedFrame head text checksum ++ rest⟩) :
    decodeAtOnce? ⟨position, codedFrame head text checksum ++ rest⟩ =
      some (.ok (final.toList, ⟨position + (codedFrame head text checksum).length, rest⟩)) := by
  have begins : beginsFrame (codedFrame head text checksum ++ rest) = true := rfl
  have outline := coded.blocks.blocks (position + magic.length + head.length) (checksum ++ rest)
  have closes := coded.closes (position + magic.length + head.length + text.length) rest
  have total := coded_frame_end position head text checksum
  have little : final.size ≤ room := by
    cases known : header.contentSize with
    | none =>
        rw [FrameHeader.isSmall, known] at small
        cases small
    | some size =>
        rw [FrameHeader.isSmall, known, Option.any_some, decide_eq_true_eq] at small
        rw [stated size known]
        exact small
  have decoded := decode_whole_of_text coded.blocks little stated
    (position + magic.length + head.length) (checksum ++ rest)
  have verified := coded.verified (position + magic.length + head.length + text.length) rest
  rw [total] at closes verified
  simp only [decodeAtOnce?, if_pos begins, coded.open_frame position rest, outline.skip_blocks,
    Option.bind_some, closes, if_pos inside, if_neg (not_not_intro coded.undictated),
    Decoding.start, decoded, verified]
  rfl

end Coded

theorem decode_at_once_clear {source : Source} (clear : Clear source.bytes) :
    decodeAtOnce? source = none := by
  rw [decodeAtOnce?, clear.1, clear.2, if_neg Bool.false_ne_true, if_neg Bool.false_ne_true]

theorem Clear.append {bytes : Bytes} (clear : Clear bytes) (long : magic.length ≤ bytes.length)
    (rest : Bytes) : Clear (bytes ++ rest) :=
  ⟨(begins_frame_append rest long).trans clear.1, (begins_skippable_append rest long).trans clear.2⟩

section Read

variable {buffers : Buffers} {source body : Source} {header : FrameHeader}

theorem read_frame_at_once {result : Except Error (Bytes × Source)}
    (begins : beginsFrame source.bytes = true) (opened : openFrame source = .ok (header, body))
    (small : header.isSmall = true) (once : decodeAtOnce? (source.atHand body) = some result) :
    readFrame buffers source = result.map fun (content, rest) => (content, buffers, rest) := by
  rw [readFrame, if_pos begins, opened]
  simp only [if_pos small, once]

theorem read_frame_streamed (begins : beginsFrame source.bytes = true)
    (opened : openFrame source = .ok (header, body))
    (apart : header.isSmall = true → decodeAtOnce? (source.atHand body) = none) :
    readFrame buffers source = decodeStream buffers header body := by
  rw [readFrame, if_pos begins, opened]
  by_cases small : header.isSmall = true
  · simp only [if_pos small, apart small]
  · simp only [if_neg small]

end Read

theorem begins_skippable_kind (kind : UInt8) (rest : Bytes) (known : kind.toNat / 16 = 5) :
    beginsFrame ((kind :: [0x2a, 0x4d, 0x18]) ++ rest) = false ∧
      beginsSkippable ((kind :: [0x2a, 0x4d, 0x18]) ++ rest) = true := by
  have other : (kind == 0x28) = false := by
    refine beq_eq_false_iff_ne.mpr fun same => ?_
    rw [same] at known
    exact absurd known (by decide)
  refine ⟨?_, ?_⟩
  · simp only [beginsFrame, magic, List.cons_append, List.length_cons, List.take_succ_cons,
      List.isPrefixOf_cons_cons, other, Bool.false_and]
  · simp only [beginsSkippable, List.cons_append, known, BEq.rfl, Bool.true_and]
    rfl

-- The second part of a header that lies across the end of a chunk is not taken for a frame.
theorem Coded.at_once_across {header : FrameHeader} {head text checksum rest : Bytes}
    {last : BlockHeader} {final : Array UInt8} {position : Nat} {body : Source}
    (coded : Coded header head text checksum last final)
    (clear : ∀ count, 0 < count → count < magic.length + head.length →
      Clear ((codedFrame head text checksum).drop count))
    (place : body.position = position + magic.length + head.length)
    (across : ¬ body.position ≤ position + Source.ahead ⟨position, codedFrame head text checksum ++ rest⟩) :
    decodeAtOnce? (Source.atHand ⟨position, codedFrame head text checksum ++ rest⟩ body) = none := by
  have ahead := Source.ahead_pos ⟨position, codedFrame head text checksum ++ rest⟩
  rw [Source.atHand, if_neg across, Source.skip]
  generalize Source.ahead ⟨position, codedFrame head text checksum ++ rest⟩ = count at across ahead
  have inside : count < magic.length + head.length := by omega
  have long := coded.blocks.length_ge
  have whole : (codedFrame head text checksum).length =
      magic.length + head.length + text.length + checksum.length := by
    simp only [codedFrame, List.length_append]
    omega
  have enough : magic.length ≤ ((codedFrame head text checksum).drop count).length := by
    rw [List.length_drop, whole]
    simp only [BlockHeader.length, magic, List.length_cons, List.length_nil] at *
    omega
  have apart := (clear count ahead inside).append enough rest
  rw [← List.drop_append_of_le_length (by omega)] at apart
  exact decode_at_once_clear apart

namespace Coded

variable {header : FrameHeader} {head text checksum : Bytes} {last : BlockHeader}
  {final : Array UInt8} (coded : Coded header head text checksum last final)
  (stated : ∀ size, header.contentSize = some size → final.size = size)
include coded stated

theorem read_frame_streamed (buffers : Buffers) (position : Nat) (rest : Bytes)
    (later : header.isSmall = true → decodeAtOnce?
      (Source.atHand ⟨position, codedFrame head text checksum ++ rest⟩
        ⟨position + magic.length + head.length, text ++ (checksum ++ rest)⟩) = none) :
    readFrame buffers ⟨position, codedFrame head text checksum ++ rest⟩ =
      .ok (final.toList, buffers.forFrame header,
        ⟨position + (codedFrame head text checksum).length, rest⟩) := by
  have streamed := coded.decode_stream (fun size known => Nat.le_of_eq (stated size known))
    (fun size known _ => stated size known) buffers (position + magic.length + head.length) rest
  rw [Zstd.read_frame_streamed rfl (coded.open_frame position rest) later, streamed,
    coded_frame_end]

-- A frame that the chunk has to its end is decoded at once, if it is small; any other one as it
-- arrives.
theorem read_frame (clear : header.isSmall = true → ∀ count, 0 < count →
      count < magic.length + head.length → Clear ((codedFrame head text checksum).drop count))
    (buffers : Buffers) (position : Nat) :
    ∃ later, ∀ rest, readFrame buffers ⟨position, codedFrame head text checksum ++ rest⟩ =
      .ok (final.toList, later, ⟨position + (codedFrame head text checksum).length, rest⟩) := by
  have total := coded_frame_end position head text checksum
  by_cases whole : header.isSmall = true ∧ position + (codedFrame head text checksum).length ≤
      position + Source.ahead ⟨position, []⟩
  · obtain ⟨small, inside⟩ := whole
    refine ⟨buffers, fun rest => ?_⟩
    have near : position + magic.length + head.length ≤
        position + Source.ahead ⟨position, codedFrame head text checksum ++ rest⟩ :=
      Nat.le_trans (by omega) inside
    rw [read_frame_at_once rfl (coded.open_frame position rest) small
      ((congrArg decodeAtOnce? (if_pos near)).trans
        (coded.decode_at_once small stated position rest inside))]
    rfl
  · refine ⟨buffers.forFrame header, fun rest => ?_⟩
    refine coded.read_frame_streamed stated buffers position rest fun small => ?_
    by_cases near : position + magic.length + head.length ≤
        position + Source.ahead ⟨position, codedFrame head text checksum ++ rest⟩
    · have closes := coded.closes (position + magic.length + head.length + text.length) rest
      rw [total] at closes
      rw [Source.atHand, if_pos near]
      exact decode_at_once_far rfl (coded.open_frame position rest)
        (coded.blocks.blocks _ (checksum ++ rest)) closes fun inside => whole ⟨small, inside⟩
    · exact coded.at_once_across (clear small) rfl near

end Coded

theorem read_frame_append {text content : Bytes} (frame : Frame text content) (buffers : Buffers)
    (position : Nat) :
    ∃ later, ∀ rest, readFrame buffers ⟨position, text ++ rest⟩ =
      .ok (content, later, ⟨position + text.length, rest⟩) := by
  cases frame with
  | skipped kind payload known bound =>
      refine ⟨buffers.forSkipped payload.length, fun rest => ?_⟩
      have skipped := skip_frame_append kind payload rest position bound
      have total : position + ((kind :: [0x2a, 0x4d, 0x18]) ++
          (littleEndianDigits 4 payload.length ++ payload)).length =
          position + 8 + payload.length := by
        simp only [List.length_append, length_little_endian_digits, List.length_cons, List.length_nil]
        omega
      rw [total, List.append_assoc, List.append_assoc, readFrame,
        (begins_skippable_kind kind _ known).1, (begins_skippable_kind kind _ known).2,
        if_neg Bool.false_ne_true, if_pos rfl, skipped]
  | coded coded stated clear => exact coded.read_frame stated clear buffers position

section Sequence

variable {buffers later : Buffers} {source rest : Source} {content : Bytes}

theorem filled_of_read_frame (read : readFrame buffers source = .ok (content, later, rest)) :
    ¬ source.bytes.isEmpty = true := by
  intro empty
  have shorter := length_read_frame read
  rw [List.isEmpty_iff.mp empty] at shorter
  cases shorter

theorem read_frames_cons (out : Array UInt8)
    (read : readFrame buffers source = .ok (content, later, rest)) :
    readFrames buffers source out = readFrames later rest (out ++ content) := by
  rw [readFrames, if_neg (filled_of_read_frame read)]
  split
  · rename_i failed
    cases failed.symm.trans read
  · rename_i found
    cases found.symm.trans read
    rfl

theorem read_frames_error {error : Error} (out : Array UInt8)
    (filled : ¬ source.bytes.isEmpty = true) (failed : readFrame buffers source = .error error) :
    readFrames buffers source out = .error error := by
  rw [readFrames, if_neg filled]
  split
  · rename_i found
    cases found.symm.trans failed
    rfl
  · rename_i found
    cases found.symm.trans failed

end Sequence

theorem read_frames_nil (buffers : Buffers) (position : Nat) (out : Array UInt8) :
    readFrames buffers ⟨position, []⟩ out = .ok out := by
  rw [readFrames]
  exact if_pos rfl

inductive Frames : Bytes → Bytes → Prop where
  | nil : Frames [] []
  | cons {text content texts contents : Bytes} (frame : Frame text content)
      (frames : Frames texts contents) : Frames (text ++ texts) (content ++ contents)

theorem Frames.one {text content : Bytes} (frame : Frame text content) : Frames text content := by
  have alone := Frames.cons frame .nil
  rwa [List.append_nil, List.append_nil] at alone

theorem read_frames_append {text content : Bytes} (frames : Frames text content)
    (buffers : Buffers) (position : Nat) (out : Array UInt8) :
    ∃ later, ∀ rest, readFrames buffers ⟨position, text ++ rest⟩ out =
      readFrames later ⟨position + text.length, rest⟩ (out ++ content) := by
  induction frames generalizing buffers position out with
  | nil =>
      rw [Array.appendList_nil]
      exact ⟨buffers, fun rest => rfl⟩
  | @cons text content texts contents frame frames ih =>
      obtain ⟨next, read⟩ := read_frame_append frame buffers position
      obtain ⟨later, onward⟩ := ih next (position + text.length) (out ++ content)
      refine ⟨later, fun rest => ?_⟩
      rw [List.append_assoc, read_frames_cons out (read (texts ++ rest)), onward, append_append_list,
        List.length_append, Nat.add_assoc]

theorem decode_eq {payload : Bytes} (filled : payload ≠ []) :
    decode payload = (readFrames .start (.start payload) #[]).map Array.toList :=
  if_neg (mt List.isEmpty_iff.mp filled)

theorem decode_frames_append {text content : Bytes} (frames : Frames text content)
    (filled : text ≠ []) :
    ∃ later, ∀ rest, decode (text ++ rest) =
      (readFrames later ⟨text.length, rest⟩ ((#[] : Array UInt8) ++ content)).map Array.toList := by
  obtain ⟨later, read⟩ := read_frames_append frames .start 0 #[]
  refine ⟨later, fun rest => ?_⟩
  rw [decode_eq fun empty => filled (List.append_eq_nil_iff.mp empty).1, Source.start, read,
    Nat.zero_add]

theorem decode_frames {text content : Bytes} (frames : Frames text content) (filled : text ≠ []) :
    decode text = .ok content := by
  obtain ⟨later, decoded⟩ := decode_frames_append frames filled
  have alone := decoded []
  rw [List.append_nil] at alone
  rw [alone, read_frames_nil]
  simp only [Except.map, Array.toList_appendList, List.nil_append]

end TaggedBlock.Zstd
