import TaggedBlock.Codec
import TaggedBlock.Proofs.Lzma.Truncation
import TaggedBlock.Proofs.Lzma.Words

set_option autoImplicit false

namespace TaggedBlock.Lzma

-- From a range and the input before a bit to those after it: a share of the range that is wide
-- enough is kept, and one that is not is widened by one byte of the input.
inductive Shrinks (range : Nat) (input : Bytes) : Nat → Bytes → Prop where
  | kept (share : Nat) (less : 67 * share ≤ 66 * range) (wide : 0x1000000 ≤ share) :
      Shrinks range input share input
  | widened (share : Nat) (byte : UInt8) (rest : Bytes) (less : 67 * share ≤ 66 * range)
      (small : share < 0x1000000) (taken : input = byte :: rest) :
      Shrinks range input (share * 256) rest

namespace RangeDecoder

variable {decoder next : RangeDecoder} {bit : Bool}

theorem narrow_shrinks {range share code : Nat} {rest : Bytes} {lower : 0x10000 ≤ share}
    {upper : share < 0x100000000} (narrowed : narrow share code rest lower upper = .ok next)
    (less : 67 * share ≤ 66 * range) : Shrinks range rest next.range next.rest := by
  rw [narrow] at narrowed
  by_cases wide : 0x1000000 ≤ share
  · rw [dif_pos wide] at narrowed
    cases narrowed
    exact .kept share less wide
  · rw [dif_neg wide] at narrowed
    cases rest with
    | nil => cases narrowed
    | cons byte rest =>
        cases narrowed
        exact .widened share byte rest less (Nat.lt_of_not_le wide) rfl

theorem choose_shrinks {shares : Shares} (zero : 67 * shares.zero ≤ 66 * decoder.range)
    (one : 67 * shares.one ≤ 66 * decoder.range)
    (read : decoder.choose shares = .ok (bit, next)) :
    Shrinks decoder.range decoder.rest next.range next.rest := by
  rw [choose] at read
  by_cases below : decoder.code < shares.zero
  · rw [if_pos below] at read
    obtain ⟨_, narrowed, same⟩ := map_eq_ok_iff.mp read
    cases same
    exact narrow_shrinks narrowed zero
  · rw [if_neg below] at read
    obtain ⟨_, narrowed, same⟩ := map_eq_ok_iff.mp read
    cases same
    exact narrow_shrinks narrowed one

theorem adaptive_shrinks {probability : Probability}
    (read : decoder.adaptive probability = .ok (bit, next)) :
    Shrinks decoder.range decoder.rest next.range next.rest := by
  rw [adaptive_eq_choose] at read
  have low := decoder.lower
  have least : decoder.range / 2048 * 31 ≤ decoder.range / 2048 * probability.value :=
    Nat.mul_le_mul_left _ probability.lower
  have most : decoder.range / 2048 * probability.value ≤ decoder.range / 2048 * 2017 :=
    Nat.mul_le_mul_left _ probability.upper
  refine choose_shrinks ?_ ?_ read
  · simp only [Shares.adaptive]
    omega
  · simp only [Shares.adaptive]
    omega

theorem direct_shrinks (read : decoder.direct = .ok (bit, next)) :
    Shrinks decoder.range decoder.rest next.range next.rest := by
  rw [direct_eq_choose] at read
  refine choose_shrinks ?_ ?_ read
  · simp only [Shares.direct]
    omega
  · simp only [Shares.direct]
    omega

end RangeDecoder

def width : Nat → Nat
  | 0 => 0x1000000
  | bits + 1 => width bits * 67 / 66

theorem width_succ (bits : Nat) : width bits ≤ width (bits + 1) := by
  rw [width]
  omega

theorem width_mono {fewer more : Nat} (le : fewer ≤ more) : width fewer ≤ width more := by
  induction le with
  | refl => exact Nat.le_refl _
  | step _ ih => exact Nat.le_trans ih (width_succ _)

theorem bits_of_width {bits : Nat} {range : UInt32} (wide : width bits ≤ range.toNat) :
    bits ≤ 511 := by
  by_cases few : bits ≤ 511
  · exact few
  · have whole : 0x100000000 ≤ width 512 := by decide +kernel
    have monotone : width 512 ≤ width bits := width_mono (Nat.lt_of_not_le few)
    have top := range.toNat_lt
    omega

theorem width_of_share {bits share range : Nat} (enough : width bits ≤ share)
    (less : 67 * share ≤ 66 * range) : width (bits + 1) ≤ range := by
  rw [width]
  omega

def Moderate (estimates : Array UInt16) : Prop :=
  ∀ estimate, estimate ∈ estimates → 31 ≤ estimate.toNat ∧ estimate.toNat ≤ 2017

namespace Words

def Shrinks (before after : Words) : Prop :=
  Lzma.Shrinks before.range.toNat before.rest after.range.toNat after.rest

structure Sound (words : Words) : Prop where
  estimates : Moderate words.estimates
  observed : ∀ context bit, Moderate (words.observe context bit)
  lower : 0x1000000 ≤ words.range.toNat
  upper : words.range.toNat < 0x100000000

section Mirrors

variable {words : Words} {model : Model} {decoder : RangeDecoder}

theorem moderate_of_map {estimates : Array UInt16}
    (same : estimates.map UInt16.toNat = model.map Probability.value) : Moderate estimates := by
  intro estimate member
  have value : estimate.toNat ∈ model.map Probability.value := by
    rw [← same]
    exact Array.mem_map_of_mem member
  obtain ⟨probability, _, equal⟩ := Array.mem_map.mp value
  rw [← equal]
  exact ⟨probability.lower, probability.upper⟩

theorem Mirrors.sound (mirrors : words.Mirrors model decoder) : words.Sound where
  estimates := moderate_of_map mirrors.estimates
  observed context bit := moderate_of_map (map_observe mirrors.estimates context bit)
  lower := by
    rw [mirrors.range]
    exact decoder.lower
  upper := by
    rw [mirrors.range]
    exact decoder.upper

end Mirrors

namespace Beside

variable {before after : Words}

theorem shrinks (beside : Beside before after) : before.Shrinks after := by
  cases beside with
  | adaptive model decoder next context bit first read second =>
      rw [Words.Shrinks, first.range, first.rest, second.range, second.rest]
      exact RangeDecoder.adaptive_shrinks read
  | direct model decoder next bit first read second =>
      rw [Words.Shrinks, first.range, first.rest, second.range, second.rest]
      exact RangeDecoder.direct_shrinks read

theorem sound (beside : Beside before after) : after.Sound := by
  cases beside with
  | adaptive model decoder next context bit first read second => exact second.sound
  | direct model decoder next bit first read second => exact second.sound

end Beside

namespace Path

variable {first last : Words} {bits : List Words}

theorem sound (path : Path first bits last) (start : first.Sound) :
    ∀ words, words ∈ first :: bits → words.Sound := by
  induction path with
  | here words => exact fun _ member => List.mem_singleton.mp member ▸ start
  | bit before after last bits beside _ ih =>
      intro words member
      rcases List.mem_cons.mp member with rfl | later
      · exact start
      · exact ih beside.sound words later

theorem earlier {more : List Words} (path : Path first (bits ++ more) last) :
    ∃ middle, Path first bits middle := by
  induction bits generalizing first with
  | nil => exact ⟨first, .here first⟩
  | cons after bits ih =>
      cases path with
      | bit _ _ _ _ beside rest =>
          obtain ⟨middle, path⟩ := ih rest
          exact ⟨middle, .bit _ _ _ _ beside path⟩

theorem later {front more : List Words} {start : Words} (path : Path first bits last)
    (split : first :: bits = front ++ start :: more) : Path start more last := by
  induction path generalizing front with
  | here words =>
      cases front with
      | nil =>
          cases split
          exact .here _
      | cons _ front =>
          rw [List.cons_append, List.cons.injEq] at split
          cases front with
          | nil => cases split.2
          | cons _ _ => cases split.2
  | bit before after last bits beside rest ih =>
      cases front with
      | nil =>
          cases split
          exact .bit _ _ _ _ beside rest
      | cons _ front =>
          rw [List.cons_append, List.cons.injEq] at split
          exact ih split.2

theorem within {start : Words} {more : List Words} (path : Path first bits last)
    (part : start :: more <:+: first :: bits) : ∃ middle, Path start more middle := by
  obtain ⟨front, back, split⟩ := part
  rw [List.append_assoc, List.cons_append] at split
  exact (path.later split.symm).earlier

theorem beside {before after : Words} (path : Path first bits last)
    (part : [before, after] <:+: first :: bits) : before.Beside after := by
  obtain ⟨middle, step⟩ := path.within part
  cases step with
  | bit _ _ _ _ beside _ => exact beside

theorem width_le {rest : Bytes} (path : Path first bits last) (start : first.Sound)
    (same : ∀ words, words ∈ first :: bits → words.rest = rest) :
    width bits.length ≤ first.range.toNat := by
  induction path with
  | here words => exact start.lower
  | bit before after last bits beside _ ih =>
      have enough := ih beside.sound (fun words member => same words (List.mem_cons_of_mem _ member))
      have shrinks := beside.shrinks
      have here := same before List.mem_cons_self
      have there := same after (List.mem_cons_of_mem _ List.mem_cons_self)
      rw [Words.Shrinks, here, there] at shrinks
      generalize after.range.toNat = share at enough shrinks
      cases shrinks with
      | kept _ less _ => exact width_of_share enough less
      | widened _ byte _ _ _ taken => exact absurd taken List.ne_cons_self

theorem length_stretch {stretch : List Words} {rest : Bytes} (path : Path first bits last)
    (start : first.Sound) (part : stretch <:+: first :: bits)
    (same : ∀ words, words ∈ stretch → words.rest = rest) : stretch.length ≤ 512 := by
  cases stretch with
  | nil => exact Nat.zero_le _
  | cons words more =>
      have sound := path.sound start words (part.subset List.mem_cons_self)
      obtain ⟨middle, path⟩ := path.within part
      exact Nat.succ_le_succ (bits_of_width (path.width_le sound same))

-- Each byte of the input pays for 512 bits, and the range for those up to the first of them.
theorem length_le (path : Path first bits last) (start : first.Sound) :
    ∃ free, width free ≤ first.range.toNat ∧ bits.length ≤ free + 512 * first.rest.length := by
  induction path with
  | here words => exact ⟨0, start.lower, Nat.zero_le _⟩
  | bit before after last bits beside _ ih =>
      obtain ⟨free, enough, few⟩ := ih beside.sound
      have most := bits_of_width enough
      have shrinks := beside.shrinks
      rw [Words.Shrinks] at shrinks
      generalize after.range.toNat = range, after.rest = rest at enough few shrinks
      rw [List.length_cons]
      cases shrinks with
      | kept _ less _ => exact ⟨free + 1, width_of_share enough less, by omega⟩
      | widened _ byte _ _ _ taken =>
          refine ⟨0, start.lower, ?_⟩
          rw [taken, List.length_cons]
          omega

theorem length_le_mul (path : Path first bits last) (start : first.Sound) :
    bits.length + 1 ≤ 512 * (first.rest.length + 1) := by
  obtain ⟨free, enough, few⟩ := path.length_le start
  have most := bits_of_width enough
  omega

end Path

theorem start_mirrors (contexts : Nat) (input : Bytes) :
    start? contexts input = none ∧ RangeDecoder.start? input = none ∨
      ∃ words decoder, start? contexts input = some words ∧
        RangeDecoder.start? input = some decoder ∧
        words.Mirrors (Model.fresh contexts) decoder ∧ input.length = words.rest.length + 5 := by
  rcases input with _ | ⟨zero, _ | ⟨first, _ | ⟨second, _ | ⟨third, _ | ⟨fourth, rest⟩⟩⟩⟩⟩
  case cons.cons.cons.cons.cons =>
    refine Or.inr ⟨_, _, rfl, rfl, ⟨?_, rfl, ?_, rfl⟩, rfl⟩
    · rw [Model.fresh, Array.map_replicate, Array.map_replicate]
      rfl
    · have bound : bigEndian [first, second, third, fourth] < 0x100000000 :=
        little_endian_lt [fourth, third, second, first]
      rw [UInt32.toNat_ofNat']
      exact Nat.mod_eq_of_lt bound
  all_goals exact Or.inl ⟨rfl, rfl⟩

end Words

theorem Header.length_parse {payload rest : Bytes} {header : Header}
    (parsed : parse payload = .ok (header, rest)) : payload.length = rest.length + 13 := by
  cases payload with
  | nil => cases parsed
  | cons properties payload =>
      obtain ⟨-, dictionary, size, middle, first, second⟩ := parse_cons parsed
      obtain ⟨rfl, four⟩ := split_bytes_eq_some first
      obtain ⟨rfl, eight⟩ := split_bytes_eq_some second
      rw [List.length_cons, List.length_append, List.length_append, four, eight]
      omega

structure Progress (payload : Bytes) (run : Trace Bytes) : Prop where
  sound : ∀ words, words ∈ run.bits → words.Sound
  beside : ∀ before after, [before, after] <:+: run.bits → before.Beside after
  shrinks : ∀ before after, [before, after] <:+: run.bits → before.Shrinks after
  stretch : ∀ stretch rest, stretch <:+: run.bits →
    (∀ words, words ∈ stretch → words.rest = rest) → stretch.length ≤ 512
  bits : run.bits.length ≤ 512 * (payload.length - 17)
  packets : run.packets.length ≤ run.bits.length - 1
  outcome : ∃ result, run.outcome = some result ∧
    Codec.lzma.decode payload =
      result.mapError fun error => ⟨.decompression, "lzma", error.message⟩

theorem progress_unread (payload : Bytes) (error : Error) (failed : decode payload = .error error) :
    Progress payload ⟨[], [], some (.error error)⟩ where
  sound _ member := absurd member List.not_mem_nil
  beside _ _ part := absurd (List.eq_nil_of_infix_nil part) (List.cons_ne_nil _ _)
  shrinks _ _ part := absurd (List.eq_nil_of_infix_nil part) (List.cons_ne_nil _ _)
  stretch _ _ part _ := by
    rw [List.eq_nil_of_infix_nil part]
    exact Nat.zero_le _
  bits := Nat.zero_le _
  packets := Nat.zero_le _
  outcome := ⟨_, rfl, by rw [Codec.decode, failed]⟩

theorem progress_started {payload rest : Bytes} {header : Header} {decoder : RangeDecoder}
    {words : Words} {budget : Nat} {run : Trace (Array UInt8)}
    (parsed : Header.parse payload = .ok (header, rest))
    (started : RangeDecoder.start? rest = some decoder) (five : rest.length = words.rest.length + 5)
    (sound : words.Sound) (enough : 512 * payload.length ≤ budget)
    (follows : run.Follows budget words ((Reading.first header decoder).finish header)) :
    Progress payload ⟨words :: run.bits, run.packets, run.outcome.map (conclude header)⟩ := by
  have length := Header.length_parse parsed
  obtain ⟨⟨last, path⟩, packets, outcome⟩ := follows
  have few := path.length_le_mul sound
  refine ⟨path.sound sound, fun _ _ => path.beside, fun _ _ part => (path.beside part).shrinks,
    fun _ _ => path.length_stretch sound, ?_, packets, ?_⟩
  · simp only [List.length_cons]
    omega
  · rcases outcome with finished | ⟨-, all⟩
    · refine ⟨_, congrArg (Option.map (conclude header)) finished, ?_⟩
      rw [Codec.decode, decode_started parsed started]
    · omega

theorem trace_progress (payload : Bytes) (extra : Nat) :
    Progress payload (trace (512 * payload.length + extra) payload) := by
  rw [trace]
  cases parsed : Header.parse payload with
  | error error => exact progress_unread payload error (by rw [decode, parsed])
  | ok parts =>
      obtain ⟨header, rest⟩ := parts
      rcases Words.start_mirrors header.parameters.contexts rest with
        ⟨lost, missing⟩ | ⟨words, decoder, started, begun, mirrors, five⟩
      · simp only [lost]
        exact progress_unread payload .streamTooShort (by simp only [decode, parsed, missing])
      · simp only [started]
        have follows := Machine.run_follows header (512 * payload.length + extra) .start mirrors #[]
        exact progress_started parsed begun five mirrors.sound (Nat.le_add_right _ _) follows

end TaggedBlock.Lzma
