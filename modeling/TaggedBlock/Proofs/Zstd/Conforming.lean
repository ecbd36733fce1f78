import TaggedBlock.Proofs.Zstd.Blocks
import TaggedBlock.Proofs.Zstd.Ring

set_option autoImplicit false

namespace TaggedBlock.Zstd

-- What the format asks of a block: it copies from the window and itself alone, and neither it nor
-- what it yields is larger than a block may be.
structure Yields (frame : FrameHeader) (block : BlockHeader) (content : Bytes)
    (earlier later : Inheritance) (out grown : Array UInt8) : Prop where
  known : block.kind < BlockHeader.reserved
  short : block.size ≤ frame.blockBound
  holds : block.contentSize ≤ frame.blockBound
  whole : content.length = block.contentSize
  decoded :
    Decoding.block? ⟨.lately frame.effectiveWindow frame.blockBound out.size, earlier, out⟩
        frame.blockBound block content =
      some ⟨.lately frame.effectiveWindow frame.blockBound out.size, later, grown⟩
  bounded : grown.size ≤ out.size + frame.blockBound

inductive Text (frame : FrameHeader) :
    Inheritance → Array UInt8 → Bytes → BlockHeader → Array UInt8 → Prop where
  | last {block : BlockHeader} {content : Bytes} {earlier later : Inheritance}
      {out final : Array UInt8} (yields : Yields frame block content earlier later out final)
      (ends : block.isLast = true) : Text frame earlier out (block.render ++ content) block final
  | more {block last : BlockHeader} {content text : Bytes} {earlier later : Inheritance}
      {out grown final : Array UInt8} (yields : Yields frame block content earlier later out grown)
      (goesOn : ¬ block.isLast = true) (onward : Text frame later grown text last final) :
      Text frame earlier out (block.render ++ (content ++ text)) last final

namespace Yields

variable {frame : FrameHeader} {block : BlockHeader} {content : Bytes}
  {earlier later : Inheritance} {out grown : Array UInt8}
  (yields : Yields frame block content earlier later out grown)
include yields

theorem parsed (position : Nat) (rest : Bytes) :
    BlockHeader.parse? ⟨position, block.render ++ rest⟩ =
      some (block, ⟨position + BlockHeader.length, rest⟩) := by
  have most : frame.blockBound ≤ greatestBlock := Nat.min_le_right _ _
  have short := yields.short
  refine BlockHeader.parse_render block position rest (Nat.lt_succ_of_lt yields.known) ?_
  simp only [greatestBlock] at most
  omega

theorem split (position : Nat) (rest : Bytes) :
    Source.split? ⟨position, content ++ rest⟩ block.contentSize =
      some (content, ⟨position + content.length, rest⟩) := by
  rw [← yields.whole]
  exact Source.split_append position content rest rfl

theorem allowed :
    ¬ (block.kind = BlockHeader.reserved ∨ frame.blockBound < block.contentSize) := by
  rintro (reserved | large)
  · exact Nat.ne_of_lt yields.known reserved
  · exact Nat.not_lt_of_le yields.holds large

theorem unbounded :
    Decoding.unbounded? ⟨.lately frame.effectiveWindow frame.blockBound out.size, earlier, out⟩
        frame.blockBound block content =
      some ⟨.lately frame.effectiveWindow frame.blockBound out.size, later, grown⟩ :=
  (Decoding.block_eq_some_iff.mp yields.decoded).1

theorem stored (kind : block.kind = BlockHeader.stored) :
    later = earlier ∧ grown = out ++ content := by
  have yielded := yields.unbounded
  rw [Decoding.unbounded?, kind] at yielded
  cases yielded
  exact ⟨rfl, rfl⟩

theorem size_le : out.size ≤ grown.size := by
  have yielded := yields.unbounded
  unfold Decoding.unbounded? at yielded
  split at yielded
  · cases yielded
    rw [size_append]
    exact Nat.le_add_right _ _
  · split at yielded
    · cases yielded
      rw [push_copies_replicate, size_append]
      exact Nat.le_add_right _ _
    · cases yielded
  · unfold Decoding.coded? at yielded
    split at yielded
    · cases yielded
    · simp only [bind, Option.bind_eq_some_iff] at yielded
      obtain ⟨literals, _, count, _, yielded⟩ := yielded
      split at yielded
      · split at yielded
        · cases yielded
          rw [size_append]
          exact Nat.le_add_right _ _
        · cases yielded
      · simp only [Option.bind_eq_some_iff] at yielded
        obtain ⟨_, _, _, _, _, _, final, ran, yielded⟩ := yielded
        split at yielded
        · cases yielded
          rw [size_append]
          exact Nat.le_trans (Sequence.size_run ran) (Nat.le_add_right _ _)
        · cases yielded
  · cases yielded

theorem empty (nothing : block.contentSize = 0) : later = earlier ∧ grown = out := by
  have none : content = [] := List.eq_nil_of_length_eq_zero (yields.whole.trans nothing)
  have yielded := yields.unbounded
  subst none
  unfold Decoding.unbounded? at yielded
  split at yielded
  · cases yielded
    exact ⟨rfl, Array.appendList_nil⟩
  · rename_i repeated
    have one : block.contentSize = 1 := if_pos repeated
    cases one.symm.trans nothing
  · cases yielded
  · cases yielded

end Yields

namespace Text

variable {frame : FrameHeader} {earlier : Inheritance} {out final : Array UInt8} {text : Bytes}
  {last : BlockHeader}

theorem size_le (whole : Text frame earlier out text last final) : out.size ≤ final.size := by
  induction whole with
  | last yields ends => exact yields.size_le
  | more yields goesOn onward ih => exact Nat.le_trans yields.size_le ih

theorem length_ge (whole : Text frame earlier out text last final) :
    BlockHeader.length ≤ text.length := by
  cases whole with
  | last yields ends =>
      rw [List.length_append, BlockHeader.length_render]
      exact Nat.le_add_right _ _
  | more yields goesOn onward =>
      rw [List.length_append, BlockHeader.length_render]
      exact Nat.le_add_right _ _

theorem blocks (whole : Text frame earlier out text last final) (position : Nat) (rest : Bytes) :
    Blocks ⟨position, text ++ rest⟩ last ⟨position + text.length, rest⟩ := by
  induction whole generalizing position with
  | @last block content earlier later out final yields ends =>
      rw [List.append_assoc, List.length_append, BlockHeader.length_render, ← Nat.add_assoc]
      exact .last (yields.parsed position _) (Nat.ne_of_lt yields.known) (yields.split _ rest) ends
  | @more block last content text earlier later out grown final yields goesOn onward ih =>
      have beyond := ih (position + BlockHeader.length + content.length)
      rw [List.append_assoc, List.append_assoc, List.length_append, List.length_append,
        BlockHeader.length_render, ← Nat.add_assoc, ← Nat.add_assoc]
      exact .more (yields.parsed position _) (Nat.ne_of_lt yields.known) (yields.split _ _) goesOn
        beyond

end Text

def HoldsAll (frame : FrameHeader) (ring : Ring) : Prop :=
  ∃ size, frame.contentSize = some size ∧ size ≤ ring.size

-- A buffer in which the rest of a frame will find room, whatever the frames before it left there.
structure Fits (frame : FrameHeader) (ring : Ring) (base : Nat) : Prop where
  keeps : ring.Keeps frame.effectiveWindow frame.blockBound base
  roomy : base + frame.blockBound ≤ ring.limit ∨ HoldsAll frame ring
  large : Buffers.ringSize frame.effectiveWindow frame.blockBound ≤ ring.size ∨ HoldsAll frame ring

theorem Buffers.output_le_fit (buffers : Buffers) (input output : Nat) :
    output ≤ (buffers.fit input output).output := by
  simp only [fit]
  generalize (if tooLarge * (input + output) ≤ buffers.input + buffers.output then
    buffers.idle + 1 else 0) = idle
  split
  · exact Nat.le_refl _
  · rename_i enough
    exact Nat.le_of_not_lt fun less => enough (Or.inr (Or.inl less))

namespace Fits

variable {frame : FrameHeader} {ring : Ring} {base : Nat}

theorem le_limit {grown : Nat} (fits : Fits frame ring base)
    (bounded : grown ≤ base + frame.blockBound)
    (stated : ∀ size, frame.contentSize = some size → grown ≤ size) : grown ≤ ring.limit := by
  rcases fits.roomy with roomy | ⟨size, known, enough⟩
  · exact Nat.le_trans bounded roomy
  · exact Nat.le_trans (Nat.le_trans (stated size known) enough) (Nat.le_add_left _ _)

theorem turn {out : Array UInt8} (fits : Fits frame ring base) (grown : base ≤ out.size) :
    Fits frame (ring.turn frame out) out.size := by
  have started := fits.keeps.started
  have history := fits.keeps.history
  have large := fits.large
  unfold Ring.turn
  split
  · rename_i full
    obtain ⟨all, beyond⟩ := full
    have ample : Buffers.ringSize frame.effectiveWindow frame.blockBound ≤ ring.size := by
      rcases large with ample | ⟨size, known, enough⟩
      · exact ample
      · rw [known, Option.all_some, decide_eq_true_eq] at all
        exact absurd enough (Nat.not_le_of_lt all)
    simp only [Buffers.ringSize, Ring.limit] at ample beyond
    refine ⟨⟨Nat.le_refl _, Or.inl ?_⟩, Or.inl ?_, large⟩
    · simp only
      omega
    · simp only [Ring.limit]
      omega
  · rename_i still
    refine ⟨⟨Nat.le_trans started grown, history⟩, ?_, large⟩
    by_cases all : frame.contentSize.all (ring.size < ·) = true
    · exact Or.inl (Nat.le_of_not_lt fun beyond => still ⟨all, beyond⟩)
    · right
      cases known : frame.contentSize with
      | none =>
          rw [known] at all
          exact absurd rfl all
      | some size =>
          rw [known, Option.all_some, decide_eq_true_eq] at all
          exact ⟨size, known, Nat.le_of_not_lt all⟩

theorem start (buffers : Buffers) (frame : FrameHeader) :
    Fits frame (.plain (buffers.forFrame frame).output) 0 := by
  have ring : Buffers.ringSize frame.effectiveWindow frame.blockBound ≤ Buffers.ringFor frame := by
    simp only [Buffers.ringFor, Buffers.ringSize]
    omega
  have output := Buffers.output_le_fit buffers (max frame.blockBound Buffers.leastInput)
    (min (Buffers.ringFor frame) (frame.contentSize.getD (Buffers.ringFor frame)))
  have large : Buffers.ringSize frame.effectiveWindow frame.blockBound ≤
        (buffers.forFrame frame).output ∨
      HoldsAll frame (.plain (buffers.forFrame frame).output) := by
    cases known : frame.contentSize with
    | none =>
        rw [known, Option.getD_none, Nat.min_self] at output
        rw [Buffers.forFrame, known, Option.getD_none, Nat.min_self]
        exact Or.inl (Nat.le_trans ring output)
    | some size =>
        rw [known, Option.getD_some] at output
        rw [Buffers.forFrame, known, Option.getD_some]
        rcases Nat.le_total size (Buffers.ringFor frame) with less | more
        · rw [Nat.min_eq_right less] at output ⊢
          exact Or.inr ⟨size, known, output⟩
        · rw [Nat.min_eq_left more] at output ⊢
          exact Or.inl (Nat.le_trans ring output)
  refine ⟨⟨Nat.le_refl _, Or.inr ⟨rfl, rfl⟩⟩, ?_, large⟩
  rcases large with ample | all
  · left
    simp only [Buffers.ringSize, Ring.limit, Ring.plain] at *
    omega
  · exact Or.inr all

end Fits

section Decoded

variable {frame : FrameHeader} {ring : Ring} {earlier later : Inheritance}
  {out grown final : Array UInt8}

theorem pour_of_fits (fits : Fits frame ring out.size) (bytes : Bytes)
    (bounded : bytes.length ≤ frame.blockBound)
    (stated : ∀ size, frame.contentSize = some size → (out ++ bytes).size ≤ size) :
    ∃ next, ring.pour? frame bytes out = some (next, out ++ bytes) ∧
      Fits frame next (out ++ bytes).size := by
  have size := size_append out bytes
  have inside : (out ++ bytes).size ≤ ring.limit := fits.le_limit (by omega) stated
  exact ⟨ring.turn frame (out ++ bytes), if_pos inside, fits.turn (by omega)⟩

theorem pour_parts_of_fits (fits : Fits frame ring out.size) (ahead : Nat) (content : Bytes)
    (bounded : content.length ≤ frame.blockBound)
    (stated : ∀ size, frame.contentSize = some size → (out ++ content).size ≤ size) :
    ∃ next, ring.pourParts? frame ahead content out = some (next, out ++ content) ∧
      Fits frame next (out ++ content).size := by
  rw [size_append] at stated
  -- What is there of the block in this chunk, and what comes with the next one.
  have parts := List.take_append_drop ahead content
  have lengths := congrArg List.length parts
  rw [List.length_append] at lengths
  obtain ⟨turned, poured, still⟩ := pour_of_fits fits (content.take ahead) (by omega) (by
    intro size known
    have most := stated size known
    rw [size_append]
    omega)
  obtain ⟨next, again, ends⟩ := pour_of_fits still (content.drop ahead) (by omega) (by
    intro size known
    have most := stated size known
    rw [size_append, size_append]
    omega)
  rw [append_append_list, parts] at again ends
  refine ⟨next, ?_, ends⟩
  simp only [Ring.pourParts?, poured, bind, Option.bind_some, again]

theorem receive_of_yields {block : BlockHeader} {content : Bytes}
    (yields : Yields frame block content earlier later out grown) (fits : Fits frame ring out.size)
    (stated : ∀ size, frame.contentSize = some size → grown.size ≤ size) (position : Nat)
    (rest : Bytes) :
    ∃ next, Decoding.receive ⟨ring, earlier, out⟩ frame block ⟨position, content ++ rest⟩ =
        .ok (⟨next, later, grown⟩, ⟨position + content.length, rest⟩) ∧
      Fits frame next grown.size := by
  have bounded := yields.bounded
  by_cases kind : block.kind = BlockHeader.stored
  · obtain ⟨rfl, rfl⟩ := yields.stored kind
    have size : block.contentSize = block.size := if_neg (by rw [kind]; decide)
    have whole : content.length = block.size := yields.whole.trans size
    have taken : (content ++ rest).take block.size = content := by
      rw [← whole, List.take_left]
    have source : (Source.skip ⟨position, content ++ rest⟩ block.size) =
        ⟨position + content.length, rest⟩ := by
      rw [Source.skip, ← whole, List.drop_left]
    rw [size_append] at bounded
    obtain ⟨next, poured, ends⟩ := pour_parts_of_fits fits
      (Source.ahead ⟨position, content ++ rest⟩) content (by omega) stated
    refine ⟨next, ?_, ends⟩
    have there : ¬ content.length < block.size := by omega
    simp only [Decoding.receive, if_pos kind, taken, poured, if_neg there, source]
  · have inside : grown.size ≤ ring.limit := fits.le_limit bounded stated
    have decoded := Decoding.block_of_lately fits.keeps (Nat.le_refl _) bounded inside yields.decoded
    refine ⟨ring.turn frame grown, ?_, fits.turn yields.size_le⟩
    simp only [Decoding.receive, if_neg kind, yields.split, decoded, if_pos bounded]

theorem decode_blocks_of_text {text : Bytes} {last : BlockHeader}
    (whole : Text frame earlier out text last final) (fits : Fits frame ring out.size)
    (inside : ∀ size, frame.contentSize = some size → final.size ≤ size)
    (stated : ∀ size, frame.contentSize = some size → last.contentSize ≠ 0 → final.size = size)
    (position : Nat) (rest : Bytes) :
    decodeBlocks frame ⟨ring, earlier, out⟩ ⟨position, text ++ rest⟩ =
      .ok (final, ⟨position + text.length, rest⟩) := by
  induction whole generalizing ring position with
  | @last block content earlier later out final yields ends =>
      rw [List.append_assoc, List.length_append, BlockHeader.length_render, ← Nat.add_assoc]
      have parsed := yields.parsed position (content ++ rest)
      by_cases nothing : block.contentSize = 0
      · have none : content = [] := List.eq_nil_of_length_eq_zero (yields.whole.trans nothing)
        obtain ⟨rfl, rfl⟩ := yields.empty nothing
        subst none
        rw [decode_blocks_empty yields.allowed parsed nothing, if_pos ends]
        rfl
      · obtain ⟨next, received, -⟩ := receive_of_yields yields fits inside
          (position + BlockHeader.length) rest
        rw [decode_blocks_step yields.allowed parsed nothing received, if_pos ends,
          if_pos (all_eq_true_iff.mpr fun size known => stated size known nothing)]
  | @more block last content text earlier later out grown final yields goesOn onward ih =>
      rw [List.append_assoc, List.append_assoc, List.length_append, List.length_append,
        BlockHeader.length_render, ← Nat.add_assoc, ← Nat.add_assoc]
      have parsed := yields.parsed position (content ++ (text ++ rest))
      by_cases nothing : block.contentSize = 0
      · have none : content = [] := List.eq_nil_of_length_eq_zero (yields.whole.trans nothing)
        obtain ⟨rfl, rfl⟩ := yields.empty nothing
        subst none
        rw [decode_blocks_empty yields.allowed parsed nothing, if_neg goesOn]
        exact ih fits inside stated _
      · obtain ⟨next, received, still⟩ := receive_of_yields yields fits
          (fun size known => Nat.le_trans onward.size_le (inside size known))
          (position + BlockHeader.length) (text ++ rest)
        rw [decode_blocks_step yields.allowed parsed nothing received, if_neg goesOn]
        exact ih still inside stated _

theorem decode_whole_of_text {text : Bytes} {last : BlockHeader}
    (whole : Text frame earlier out text last final) (small : final.size ≤ room)
    (stated : ∀ size, frame.contentSize = some size → final.size = size) (position : Nat)
    (rest : Bytes) :
    decodeWhole frame ⟨.plain room, earlier, out⟩ ⟨position, text ++ rest⟩ =
      .ok (final, ⟨position + text.length, rest⟩) := by
  have keeps : ∀ base, (Ring.plain room).Keeps frame.effectiveWindow frame.blockBound base :=
    fun base => ⟨Nat.zero_le base, Or.inr ⟨rfl, rfl⟩⟩
  have limit : (Ring.plain room).limit = room := Nat.zero_add room
  induction whole generalizing position with
  | @last block content earlier later out final yields ends =>
      have decoded := Decoding.block_of_lately (keeps _) (Nat.le_refl _) yields.bounded
        (Nat.le_trans small (Nat.le_of_eq limit.symm)) yields.decoded
      rw [List.append_assoc, List.length_append, BlockHeader.length_render, ← Nat.add_assoc,
        decode_whole_step (yields.parsed position _) (yields.split _ rest) decoded, if_pos ends,
        if_pos (all_eq_true_iff.mpr stated)]
  | @more block last content text earlier later out grown final yields goesOn onward ih =>
      have inside : grown.size ≤ (Ring.plain room).limit :=
        Nat.le_trans (Nat.le_trans onward.size_le small) (Nat.le_of_eq limit.symm)
      have decoded := Decoding.block_of_lately (keeps _) (Nat.le_refl _) yields.bounded inside
        yields.decoded
      rw [List.append_assoc, List.append_assoc, List.length_append, List.length_append,
        BlockHeader.length_render, ← Nat.add_assoc, ← Nat.add_assoc,
        decode_whole_step (yields.parsed position _) (yields.split _ (text ++ rest)) decoded,
        if_neg goesOn]
      exact ih small stated _

end Decoded

end TaggedBlock.Zstd
