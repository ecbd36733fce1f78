import TaggedBlock.Lzma.RangeEncoder
import TaggedBlock.Proofs.Bytes

set_option autoImplicit false

namespace TaggedBlock.Lzma

structure Shares where
  zero : Nat
  one : Nat
  zeroLower : 0x10000 ≤ zero
  oneLower : 0x10000 ≤ one
  upper : zero + one < 0x100000000

namespace Shares

def adaptive (range : Nat) (lower : 0x1000000 ≤ range) (upper : range < 0x100000000)
    (probability : Probability) : Shares :=
  have low := RangeDecoder.bound_lower ⟨range, 0, [], lower, upper⟩ probability
  have high := RangeDecoder.bound_upper ⟨range, 0, [], lower, upper⟩ probability
  ⟨range / 2048 * probability.value, range - range / 2048 * probability.value, low,
    by simp only [RangeDecoder.bound] at high; omega,
    by simp only [RangeDecoder.bound] at high; omega⟩

def direct (range : Nat) (lower : 0x1000000 ≤ range) (upper : range < 0x100000000) : Shares :=
  ⟨range / 2, range / 2, by omega, by omega, by omega⟩

def within (shares : Shares) (range : Nat) : Prop := shares.zero + shares.one ≤ range

theorem adaptive_within (range : Nat) (lower : 0x1000000 ≤ range) (upper : range < 0x100000000)
    (probability : Probability) : (adaptive range lower upper probability).within range := by
  have high := RangeDecoder.bound_upper ⟨range, 0, [], lower, upper⟩ probability
  simp only [RangeDecoder.bound] at high
  simp only [within, adaptive]
  omega

theorem direct_within (range : Nat) (lower : 0x1000000 ≤ range) (upper : range < 0x100000000) :
    (direct range lower upper).within range := by
  simp only [within, direct]
  omega

end Shares

structure Span where
  number : Nat
  range : Nat
  places : Nat

namespace Span

def part (span : Span) (shares : Shares) (bit : Bool) : Span :=
  if bit then ⟨span.number + shares.zero, shares.one, span.places⟩
  else ⟨span.number, shares.zero, span.places⟩

def grow (span : Span) : Span :=
  if 0x1000000 ≤ span.range then span
  else ⟨span.number * 256, span.range * 256, span.places + 1⟩

def front (span : Span) (text : Bytes) : Nat := bigEndian (text.take (span.places + 4))

structure Holds (span : Span) (text : Bytes) : Prop where
  long : span.places + 4 ≤ text.length
  lower : span.number ≤ span.front text
  upper : span.front text < span.number + span.range

theorem big_endian_take_succ (text : Bytes) (count : Nat) (inside : count < text.length) :
    bigEndian (text.take (count + 1)) = 256 * bigEndian (text.take count) + text[count].toNat := by
  rw [← List.take_append_getElem inside, bigEndian, List.reverse_append]
  exact Nat.add_comm _ _

theorem holds_of_grow {span : Span} {text : Bytes} (holds : span.grow.Holds text) :
    span.Holds text := by
  obtain ⟨long, lower, upper⟩ := holds
  rw [grow] at long lower upper
  split at long
  · rename_i wide
    rw [if_pos wide] at lower upper
    exact ⟨long, lower, upper⟩
  · rename_i small
    rw [if_neg small] at lower upper
    have inside : span.places + 4 < text.length := by
      simp only at long
      omega
    have next := big_endian_take_succ text (span.places + 4) inside
    have bound := text[span.places + 4].toNat_lt
    simp only [front, show span.places + 1 + 4 = span.places + 4 + 1 by omega, next] at lower upper
    refine ⟨Nat.le_of_lt inside, ?_, ?_⟩
    · rw [front]
      omega
    · rw [front]
      omega

theorem holds_of_part {span : Span} {shares : Shares} {bit : Bool} {text : Bytes}
    (within : shares.within span.range) (holds : (span.part shares bit).Holds text) :
    span.Holds text := by
  obtain ⟨long, lower, upper⟩ := holds
  rw [Shares.within] at within
  cases bit with
  | false =>
      simp only [part, front, Bool.false_eq_true, if_false] at long lower upper
      exact ⟨long, lower, by rw [front]; omega⟩
  | true =>
      simp only [part, front, if_true] at long lower upper
      exact ⟨long, by rw [front]; omega, by rw [front]; omega⟩

end Span

theorem little_endian_append (low high : Bytes) :
    littleEndian (low ++ high) = littleEndian low + 1 <<< (8 * low.length) * littleEndian high := by
  induction low with
  | nil =>
      rw [List.nil_append, littleEndian, List.length_nil, Nat.mul_zero, Nat.shiftLeft_zero,
        Nat.one_mul, Nat.zero_add]
  | cons byte low ih =>
      rw [List.cons_append, littleEndian, littleEndian, ih, List.length_cons, Nat.mul_succ,
        Nat.shiftLeft_add, Nat.shiftLeft_eq _ 8, Nat.mul_comm _ 256]
      rw [Nat.mul_add, Nat.mul_assoc, Nat.add_assoc]

namespace RangeDecoder

-- The decoder has read the front of the text, of which it holds the distance from the low end.
structure Follows (decoder : RangeDecoder) (span : Span) (text : Bytes) : Prop where
  range : decoder.range = span.range
  rest : decoder.rest = text.drop (span.places + 4)
  code : span.front text = span.number + decoder.code

def choose (decoder : RangeDecoder) (shares : Shares) : Except Error (Bool × RangeDecoder) :=
  have sum := shares.upper
  if decoder.code < shares.zero then
    (narrow shares.zero decoder.code decoder.rest shares.zeroLower (by omega)).map (false, ·)
  else
    (narrow shares.one (decoder.code - shares.zero) decoder.rest shares.oneLower
      (by omega)).map (true, ·)

theorem adaptive_eq_choose (decoder : RangeDecoder) (probability : Probability) :
    decoder.adaptive probability =
      decoder.choose (.adaptive decoder.range decoder.lower decoder.upper probability) := rfl

theorem direct_eq_choose (decoder : RangeDecoder) :
    decoder.direct = decoder.choose (.direct decoder.range decoder.lower decoder.upper) := rfl

theorem narrow_follows (span : Span) {text rest : Bytes} {code : Nat}
    (lower : 0x10000 ≤ span.range) (upper : span.range < 0x100000000)
    (left : rest = text.drop (span.places + 4)) (value : span.front text = span.number + code)
    (holds : span.grow.Holds text) :
    ∃ decoder, narrow span.range code rest lower upper = .ok decoder ∧
      Follows decoder span.grow text := by
  have before := Span.holds_of_grow holds
  rw [narrow]
  split
  · rename_i wide
    refine ⟨_, rfl, ?_, ?_, ?_⟩
    · rw [Span.grow, if_pos wide]
    · rw [Span.grow, if_pos wide, left]
    · rw [Span.grow, if_pos wide, value]
  · rename_i small
    have grown : span.grow = ⟨span.number * 256, span.range * 256, span.places + 1⟩ := by
      rw [Span.grow, if_neg small]
    have long := holds.long
    rw [grown] at long ⊢
    have inside : span.places + 4 < text.length := by
      simp only at long
      omega
    have next := Span.big_endian_take_succ text (span.places + 4) inside
    have below := before.upper
    rw [left, List.drop_eq_getElem_cons inside]
    refine ⟨_, rfl, rfl, ?_, ?_⟩
    · rw [show span.places + 1 + 4 = span.places + 4 + 1 by omega]
    · have bound := text[span.places + 4].toNat_lt
      have fits : code * 256 + text[span.places + 4].toNat < 0x100000000 := by omega
      rw [Span.front] at value
      simp only [Span.front, show span.places + 1 + 4 = span.places + 4 + 1 by omega, next, value,
        Nat.mod_eq_of_lt fits]
      omega

theorem choose_follows {decoder : RangeDecoder} {span : Span} {shares : Shares} {bit : Bool}
    {text : Bytes} (follows : decoder.Follows span text)
    (holds : (span.part shares bit).grow.Holds text) :
    ∃ next, decoder.choose shares = .ok (bit, next) ∧
      next.Follows (span.part shares bit).grow text := by
  have part := Span.holds_of_grow holds
  have code := follows.code
  have sum := shares.upper
  cases bit with
  | false =>
      have below : decoder.code < shares.zero := by
        have upper := part.upper
        simp only [Span.part, Span.front, Bool.false_eq_true, if_false] at upper code
        omega
      have upper : shares.zero < 0x100000000 := by omega
      obtain ⟨next, narrowed, follow⟩ := narrow_follows (span.part shares false) shares.zeroLower
        upper follows.rest code holds
      refine ⟨next, ?_, follow⟩
      change narrow shares.zero decoder.code decoder.rest shares.zeroLower upper = _ at narrowed
      rw [choose, if_pos below, narrowed]
      rfl
  | true =>
      have above : ¬ decoder.code < shares.zero := by
        have lower := part.lower
        simp only [Span.part, Span.front, if_true] at lower code
        omega
      have upper : shares.one < 0x100000000 := by omega
      have value : span.front text = span.number + shares.zero + (decoder.code - shares.zero) := by
        omega
      obtain ⟨next, narrowed, follow⟩ := narrow_follows (span.part shares true) shares.oneLower
        upper follows.rest value holds
      refine ⟨next, ?_, follow⟩
      change narrow shares.one _ decoder.rest shares.oneLower upper = _ at narrowed
      rw [choose, if_neg above, narrowed]
      rfl

end RangeDecoder

namespace RangeEncoder

-- The number that the settled bytes spell together with the low end of the range.
def number (encoder : RangeEncoder) : Nat :=
  littleEndian encoder.settled * 0x100000000 + encoder.low

def span (encoder : RangeEncoder) : Span :=
  ⟨encoder.number, encoder.range, encoder.settled.length⟩

structure Sound (encoder : RangeEncoder) : Prop where
  low : encoder.low < 0x100000000
  lower : 0x1000000 ≤ encoder.range
  upper : encoder.range < 0x100000000
  top : encoder.number + encoder.range ≤ 1 <<< (8 * encoder.settled.length) * 0x100000000

def choose (encoder : RangeEncoder) (shares : Shares) (bit : Bool) : RangeEncoder :=
  if bit then narrow encoder.settled (encoder.low + shares.zero) shares.one
  else narrow encoder.settled encoder.low shares.zero

theorem adaptive_eq_choose {encoder : RangeEncoder} (sound : encoder.Sound)
    (probability : Probability) (bit : Bool) :
    encoder.adaptive probability bit =
      encoder.choose (.adaptive encoder.range sound.lower sound.upper probability) bit := rfl

theorem direct_eq_choose {encoder : RangeEncoder} (sound : encoder.Sound) (bit : Bool) :
    encoder.direct bit = encoder.choose (.direct encoder.range sound.lower sound.upper) bit := rfl

theorem length_carry (settled : Bytes) : (carry settled).length = settled.length := by
  induction settled with
  | nil => rfl
  | cons byte higher ih =>
      rw [carry]
      split
      · rw [List.length_cons, List.length_cons, ih]
      · rfl

theorem shift_left_places (places : Nat) : 1 <<< (8 * (places + 1)) = 256 * 1 <<< (8 * places) := by
  rw [Nat.mul_succ, Nat.shiftLeft_add, Nat.shiftLeft_eq _ 8, Nat.mul_comm]

theorem little_endian_carry (settled : Bytes)
    (fits : littleEndian settled + 1 < 1 <<< (8 * settled.length)) :
    littleEndian (carry settled) = littleEndian settled + 1 := by
  induction settled with
  | nil => cases Nat.lt_irrefl _ fits
  | cons byte higher ih =>
      rw [List.length_cons, shift_left_places] at fits
      rw [carry]
      split
      · rename_i full
        subst full
        have value : (255 : UInt8).toNat = 255 := rfl
        simp only [littleEndian, value] at fits ⊢
        rw [ih (by omega)]
        have zero : (0 : UInt8).toNat = 0 := rfl
        omega
      · rename_i other
        have small : byte.toNat ≠ 255 := fun full => other (UInt8.toNat_inj.mp full)
        have bound := byte.toNat_lt
        have next : (byte + 1).toNat = byte.toNat + 1 := by
          rw [UInt8.toNat_add]
          exact Nat.mod_eq_of_lt (by simp; omega)
        simp only [littleEndian, next]
        omega

theorem settle_byte (higher low : Nat) :
    (low / 0x1000000 + 256 * higher) * 0x100000000 + low % 0x1000000 * 256 =
      (higher * 0x100000000 + low) * 256 := by omega

theorem span_narrow (settled : Bytes) (low range : Nat) (bound : low < 0x200000000)
    (positive : 0 < range)
    (top : littleEndian settled * 0x100000000 + low + range ≤
      1 <<< (8 * settled.length) * 0x100000000) :
    (narrow settled low range).low < 0x100000000 ∧ (narrow settled low range).span =
      (Span.mk (littleEndian settled * 0x100000000 + low) range settled.length).grow := by
  -- A carry moves a unit from the low end into the settled bytes: the number stays the same.
  obtain ⟨digits, written, places, value⟩ :
      ∃ digits, (if low < 0x100000000 then settled else carry settled) = digits ∧
        digits.length = settled.length ∧
        littleEndian digits * 0x100000000 + low % 0x100000000 =
          littleEndian settled * 0x100000000 + low := by
    split
    · exact ⟨settled, rfl, rfl, by omega⟩
    · refine ⟨carry settled, rfl, length_carry settled, ?_⟩
      rw [little_endian_carry settled (by omega)]
      omega
  simp only [narrow, written]
  split
  · rename_i wide
    refine ⟨Nat.mod_lt _ (by decide), ?_⟩
    rw [Span.grow, if_pos wide, span, number, places, value]
  · rename_i small
    have byte := to_nat_of_nat (low % 0x100000000 / 0x1000000) (by omega)
    refine ⟨?_, ?_⟩
    · change _ * 256 < 0x100000000
      omega
    · rw [Span.grow, if_neg small, ← value, ← settle_byte, span, number]
      change Span.mk ((UInt8.toNat _ + 256 * littleEndian digits) * _ + _) _ _ = _
      rw [byte, List.length_cons, places]

theorem sound_of_span {encoder : RangeEncoder} {before : Span}
    (low : encoder.low < 0x100000000) (span : encoder.span = before.grow)
    (lower : 0x10000 ≤ before.range) (upper : before.range < 0x100000000)
    (top : before.number + before.range ≤ 1 <<< (8 * before.places) * 0x100000000) :
    encoder.Sound := by
  rw [Span.grow] at span
  split at span
  · rename_i wide
    subst span
    exact ⟨low, wide, upper, top⟩
  · rename_i small
    injection span with number range places
    refine ⟨low, by omega, by omega, ?_⟩
    rw [number, range, places, shift_left_places]
    omega

theorem choose_spec {encoder : RangeEncoder} (sound : encoder.Sound) (shares : Shares) (bit : Bool)
    (within : shares.within encoder.range) :
    (encoder.choose shares bit).Sound ∧
      (encoder.choose shares bit).span = (encoder.span.part shares bit).grow := by
  have low := sound.low
  have top := sound.top
  have sum := shares.upper
  have zeroLower := shares.zeroLower
  have oneLower := shares.oneLower
  simp only [Shares.within, number] at within top
  cases bit with
  | false =>
      have upper : shares.zero < 0x100000000 := by omega
      have below := Nat.le_trans (Nat.add_le_add_left (show shares.zero ≤ encoder.range by omega) _)
        top
      have narrowed := span_narrow encoder.settled encoder.low shares.zero (by omega) (by omega)
        below
      exact ⟨sound_of_span narrowed.1 narrowed.2 zeroLower upper below, narrowed.2⟩
  | true =>
      have upper : shares.one < 0x100000000 := by omega
      have below := Nat.le_trans (Nat.add_le_add_left within _) top
      rw [← Nat.add_assoc] at below
      have narrowed := span_narrow encoder.settled (encoder.low + shares.zero) shares.one
        (by omega) (by omega) (by rwa [← Nat.add_assoc])
      rw [← Nat.add_assoc] at narrowed
      exact ⟨sound_of_span narrowed.1 narrowed.2 oneLower upper below, narrowed.2⟩

-- The second encoder has written on from the first what `reads` takes off a decoder.
def Leads (encoder next : RangeEncoder) (reads : RangeDecoder → RangeDecoder → Prop) : Prop :=
  next.Sound ∧ ∀ text, next.span.Holds text → encoder.span.Holds text ∧
    ∀ decoder : RangeDecoder, decoder.Follows encoder.span text →
      ∃ final, reads decoder final ∧ final.Follows next.span text

theorem leads_mono {first second : RangeEncoder} {less more : RangeDecoder → RangeDecoder → Prop}
    (leads : first.Leads second less)
    (includes : ∀ decoder final, less decoder final → more decoder final) :
    first.Leads second more := by
  refine ⟨leads.1, fun text holds => ?_⟩
  obtain ⟨outer, reads⟩ := leads.2 text holds
  refine ⟨outer, fun decoder follows => ?_⟩
  obtain ⟨final, read, last⟩ := reads decoder follows
  exact ⟨final, includes decoder final read, last⟩

theorem leads_trans {first second third : RangeEncoder}
    {before behind whole : RangeDecoder → RangeDecoder → Prop} (sooner : first.Leads second before)
    (later : second.Leads third behind)
    (joins : ∀ decoder middle final, before decoder middle → behind middle final →
      whole decoder final) :
    first.Leads third whole := by
  refine ⟨later.1, fun text holds => ?_⟩
  obtain ⟨inner, reads⟩ := later.2 text holds
  obtain ⟨outer, starts⟩ := sooner.2 text inner
  refine ⟨outer, fun decoder follows => ?_⟩
  obtain ⟨middle, start, following⟩ := starts decoder follows
  obtain ⟨final, read, last⟩ := reads middle following
  exact ⟨final, joins decoder middle final start read, last⟩

theorem choose_leads {encoder : RangeEncoder} (sound : encoder.Sound) (shares : Shares)
    (bit : Bool) (within : shares.within encoder.range)
    (read : RangeDecoder → Except Error (Bool × RangeDecoder))
    (same : ∀ decoder : RangeDecoder, decoder.range = encoder.range →
      read decoder = decoder.choose shares) :
    encoder.Leads (encoder.choose shares bit) fun decoder next =>
      read decoder = .ok (bit, next) := by
  obtain ⟨chosen, span⟩ := choose_spec sound shares bit within
  refine ⟨chosen, fun text holds => ?_⟩
  rw [span] at holds ⊢
  refine ⟨Span.holds_of_part within (Span.holds_of_grow holds), fun decoder follows => ?_⟩
  obtain ⟨next, read, following⟩ := RangeDecoder.choose_follows follows holds
  exact ⟨next, (same decoder follows.range).trans read, following⟩

theorem adaptive_leads {encoder : RangeEncoder} (sound : encoder.Sound)
    (probability : Probability) (bit : Bool) :
    encoder.Leads (encoder.adaptive probability bit) fun decoder next =>
      decoder.adaptive probability = .ok (bit, next) := by
  rw [adaptive_eq_choose sound]
  refine choose_leads sound _ bit (Shares.adaptive_within _ _ _ probability) _ ?_
  rintro ⟨range, code, rest, lower, upper⟩ rfl
  exact RangeDecoder.adaptive_eq_choose _ probability

theorem direct_leads {encoder : RangeEncoder} (sound : encoder.Sound) (bit : Bool) :
    encoder.Leads (encoder.direct bit) fun decoder next => decoder.direct = .ok (bit, next) := by
  rw [direct_eq_choose sound]
  refine choose_leads sound _ bit (Shares.direct_within _ _ _) _ ?_
  rintro ⟨range, code, rest, lower, upper⟩ rfl
  exact RangeDecoder.direct_eq_choose _

theorem sound_start : start.Sound := ⟨by decide, by decide, by decide, by decide⟩

theorem length_finish (encoder : RangeEncoder) :
    encoder.finish.length = encoder.settled.length + 4 := by
  rw [finish, List.length_append, List.length_reverse, List.length_reverse,
    length_little_endian_digits]

theorem front_finish {encoder : RangeEncoder} (sound : encoder.Sound) :
    encoder.span.front encoder.finish = encoder.number := by
  have length := Nat.le_of_eq encoder.length_finish
  have digits := little_endian_little_endian_digits 4 encoder.low sound.low
  simp only [Span.front, span]
  rw [List.take_of_length_le length, bigEndian, finish, List.reverse_append, List.reverse_reverse,
    List.reverse_reverse, little_endian_append, digits, length_little_endian_digits, number,
    Nat.add_comm, Nat.mul_comm]
  rfl

theorem holds_finish {encoder : RangeEncoder} (sound : encoder.Sound) :
    encoder.span.Holds encoder.finish := by
  have value := front_finish sound
  have lower := sound.lower
  refine ⟨Nat.le_of_eq encoder.length_finish.symm, Nat.le_of_eq value.symm, ?_⟩
  rw [value]
  exact Nat.lt_add_of_pos_right (by simp only [span]; omega)

end RangeEncoder

theorem span_start : RangeEncoder.start.span = ⟨0, 0xffffffff, 1⟩ := rfl

-- The range that is written from ends below 2^32, so the byte that is not looked at is zero.
theorem start_follows {text : Bytes} (holds : RangeEncoder.start.span.Holds text) :
    ∃ decoder, RangeDecoder.start? text = some decoder ∧
      decoder.Follows RangeEncoder.start.span text := by
  rw [span_start] at holds ⊢
  obtain ⟨long, -, upper⟩ := holds
  rcases text with _ | ⟨zero, _ | ⟨first, _ | ⟨second, _ | ⟨third, _ | ⟨fourth, rest⟩⟩⟩⟩⟩
  case cons.cons.cons.cons.cons =>
    refine ⟨_, rfl, rfl, rfl, ?_⟩
    have value : Span.front ⟨0, 0xffffffff, 1⟩ (zero :: first :: second :: third :: fourth :: rest) =
        bigEndian [first, second, third, fourth] + 0x100000000 * zero.toNat := by
      change littleEndian ([fourth, third, second, first] ++ [zero]) = _
      rw [little_endian_append]
      rfl
    rw [value] at upper ⊢
    simp only at upper ⊢
    omega
  all_goals
    simp only [List.length_cons, List.length_nil] at long
    omega

namespace RangeDecoder

def Spent (decoder : RangeDecoder) : Prop := decoder.code = 0 ∧ decoder.rest = []

theorem spent_choose {decoder next : RangeDecoder} {shares : Shares} {bit : Bool}
    (spent : decoder.Spent) (chosen : decoder.choose shares = .ok (bit, next)) :
    bit = false ∧ next.Spent := by
  obtain ⟨code, rest⟩ := spent
  have lower := shares.zeroLower
  rw [choose, if_pos (by omega), rest, narrow] at chosen
  split at chosen
  · cases chosen
    exact ⟨rfl, code, rfl⟩
  · cases chosen

end RangeDecoder

namespace Decision

variable {α : Type}

-- An induction over what is read, in which both kinds of questions are one: a question parts the
-- range of the decoder in a way that the rest of the input has no say in.
theorem induction_read {motive : Decision α → Model → RangeDecoder → Prop}
    (done : ∀ value model decoder, motive (.done value) model decoder)
    (question : ∀ (decision : Decision α) model (decoder : RangeDecoder) (shares : Shares)
      (next : Bool → Decision α) (after : Bool → Model),
      (∀ other : RangeDecoder, other.range = decoder.range → decision.read model other =
        (other.choose shares).bind fun taken => (next taken.1).read (after taken.1) taken.2) →
      (∀ bit final, motive (next bit) (after bit) final) → motive decision model decoder)
    (decision : Decision α) (model : Model) (decoder : RangeDecoder) :
    motive decision model decoder := by
  induction decision generalizing model decoder with
  | done value => exact done value model decoder
  | adaptive context next ih =>
      refine question _ model decoder
        (.adaptive decoder.range decoder.lower decoder.upper (model.estimate context)) next
        (model.observe context) ?_ fun bit => ih bit _
      rintro ⟨range, code, rest, lower, upper⟩ rfl
      rw [read, RangeDecoder.adaptive_eq_choose]
      cases RangeDecoder.choose _ _ with
      | error error => rfl
      | ok taken => rfl
  | direct next ih =>
      refine question _ model decoder (.direct decoder.range decoder.lower decoder.upper) next
        (fun _ => model) ?_ fun bit => ih bit _
      rintro ⟨range, code, rest, lower, upper⟩ rfl
      rw [read, RangeDecoder.direct_eq_choose]
      cases RangeDecoder.choose _ _ with
      | error error => rfl
      | ok taken => rfl

theorem spent_read {decision : Decision α} {model after : Model} {decoder final : RangeDecoder}
    {value : α} (spent : decoder.Spent)
    (read : decision.read model decoder = .ok (value, after, final)) : final.Spent := by
  induction decision, model, decoder using induction_read with
  | done =>
      cases read
      exact spent
  | question decision model decoder shares next after reads ih =>
      rw [reads decoder rfl] at read
      cases chosen : decoder.choose shares with
      | error error =>
          rw [chosen] at read
          cases read
      | ok taken =>
          rw [chosen] at read
          exact ih _ _ (RangeDecoder.spent_choose spent chosen).2 read

theorem first_leads {decision : Decision α} {bit : Bool} {answers : List Bool} {value : α}
    (answer : decision.answer? (bit :: answers) = some value) (model : Model)
    {encoder : RangeEncoder} (sound : encoder.Sound) :
    ∃ (next : Decision α) (after : Model) (middle : RangeEncoder),
      next.answer? answers = some value ∧
      decision.write (bit :: answers) model encoder = next.write answers after middle ∧
      encoder.Leads middle fun decoder final =>
        decision.read model decoder = next.read after final ∧ (decoder.Spent → bit = false) := by
  cases decision with
  | done => cases answer
  | adaptive context next =>
      have first := RangeEncoder.adaptive_leads sound (model.estimate context) bit
      refine ⟨next bit, model.observe context bit, _, answer, rfl,
        RangeEncoder.leads_mono first fun decoder final taken => ⟨?_, fun spent => ?_⟩⟩
      · rw [read, taken]
      · rw [RangeDecoder.adaptive_eq_choose] at taken
        exact (RangeDecoder.spent_choose spent taken).1
  | direct next =>
      have first := RangeEncoder.direct_leads sound bit
      refine ⟨next bit, model, _, answer, rfl,
        RangeEncoder.leads_mono first fun decoder final taken => ⟨?_, fun spent => ?_⟩⟩
      · rw [read, taken]
      · rw [RangeDecoder.direct_eq_choose] at taken
        exact (RangeDecoder.spent_choose spent taken).1

theorem write_leads {decision : Decision α} {answers : List Bool} {value : α}
    (answer : decision.answer? answers = some value) (model : Model) {encoder : RangeEncoder}
    (sound : encoder.Sound) :
    encoder.Leads (decision.write answers model encoder).2 fun decoder final =>
      decision.read model decoder =
        .ok (value, (decision.write answers model encoder).1, final) := by
  induction answers generalizing decision model encoder with
  | nil =>
      cases decision with
      | done =>
          cases answer
          exact ⟨sound, fun _ holds => ⟨holds, fun decoder follows => ⟨decoder, rfl, follows⟩⟩⟩
      | adaptive => cases answer
      | direct => cases answer
  | cons bit answers ih =>
      obtain ⟨next, after, middle, others, written, first⟩ := first_leads answer model sound
      rw [written]
      exact RangeEncoder.leads_trans first (ih others after first.1)
        fun decoder middle final taken rest => taken.1.trans rest

theorem write_leads_unspent {decision : Decision α} {answers : List Bool} {value : α}
    (answer : decision.answer? (true :: answers) = some value) (model : Model)
    {encoder : RangeEncoder} (sound : encoder.Sound) :
    encoder.Leads (decision.write (true :: answers) model encoder).2 fun decoder final =>
      decision.read model decoder =
        .ok (value, (decision.write (true :: answers) model encoder).1, final) ∧
      ¬ decoder.Spent := by
  obtain ⟨next, after, middle, others, written, first⟩ := first_leads answer model sound
  rw [written]
  exact RangeEncoder.leads_trans first (write_leads others after first.1)
    fun decoder middle final taken rest =>
      ⟨taken.1.trans rest, fun spent => Bool.noConfusion (taken.2 spent)⟩

end Decision

end TaggedBlock.Lzma
