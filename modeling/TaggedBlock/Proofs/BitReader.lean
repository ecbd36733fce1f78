import TaggedBlock.BitReader
import TaggedBlock.Proofs.Bytes

set_option autoImplicit false

namespace TaggedBlock

-- The lowest bits of a number, the lowest first.
def lowBits : (count value : Nat) → List Bool
  | 0, _ => []
  | count + 1, value => value.testBit 0 :: lowBits count (value / 2)

theorem low_bits_add (first second value : Nat) :
    lowBits (first + second) value = lowBits first value ++ lowBits second (value >>> first) := by
  induction first generalizing value with
  | zero => rw [Nat.zero_add]; rfl
  | succ first ih =>
      rw [Nat.succ_add, lowBits, ih, lowBits, List.cons_append, Nat.shiftRight_succ_inside]

theorem low_bits_zero (count : Nat) : lowBits count 0 = List.replicate count false := by
  induction count with
  | zero => rfl
  | succ count ih => rw [lowBits, Nat.zero_div, ih, List.replicate_succ, Nat.zero_testBit]

theorem low_bits_eight (value : Nat) :
    lowBits 8 value = [0, 1, 2, 3, 4, 5, 6, 7].map value.testBit := by
  simp only [lowBits, List.map_cons, List.map_nil, Nat.testBit_succ]

theorem low_first_of_nat (value : Nat) : lowFirst (UInt8.ofNat value) = lowBits 8 value := by
  rw [low_bits_eight, lowFirst, UInt8.toNat_ofNat']
  refine List.map_congr_left fun place member => ?_
  have inByte : place < 8 := by
    simp only [List.mem_cons, List.not_mem_nil, or_false] at member
    omega
  rw [Nat.testBit_mod_two_pow, decide_eq_true inByte, Bool.true_and]

namespace BitSource

-- The next bits of the first source are the given ones, and behind them comes the second.
inductive Spells : BitSource → List Bool → BitSource → Prop where
  | nil (source : BitSource) : Spells source [] source
  | cons (source middle last : BitSource) (bit : Bool) (bits : List Bool)
      (next : source.next? = some (bit, middle)) (rest : Spells middle bits last) :
      Spells source (bit :: bits) last

theorem spells_append {source middle last : BitSource} {first second : List Bool}
    (before : Spells source first middle) (behind : Spells middle second last) :
    Spells source (first ++ second) last := by
  induction before with
  | nil => exact behind
  | cons source middle _ bit bits next rest ih => exact .cons _ _ _ bit _ next (ih behind)

theorem spells_split {source last : BitSource} {first second : List Bool}
    (whole : Spells source (first ++ second) last) :
    ∃ middle, Spells source first middle ∧ Spells middle second last := by
  induction first generalizing source with
  | nil => exact ⟨source, .nil source, whole⟩
  | cons bit first ih =>
      cases whole with
      | cons _ next _ _ _ taken rest =>
          obtain ⟨middle, before, behind⟩ := ih rest
          exact ⟨middle, .cons _ _ _ bit first taken before, behind⟩

theorem spells_pending (bits pending : List Bool) (rest : Bytes) :
    Spells ⟨bits ++ pending, rest⟩ bits ⟨pending, rest⟩ := by
  induction bits with
  | nil => exact .nil _
  | cons bit bits ih => exact .cons _ _ _ bit bits rfl ih

theorem spells_byte (byte : UInt8) (bit : Bool) (bits pending : List Bool) (rest : Bytes)
    (form : lowFirst byte = bit :: (bits ++ pending)) :
    Spells ⟨[], byte :: rest⟩ (bit :: bits) ⟨pending, rest⟩ := by
  refine .cons _ ⟨bits ++ pending, rest⟩ _ bit bits ?_ (spells_pending bits pending rest)
  simp only [next?, form]

theorem spells_of_nat (value bits : Nat) (rest : Bytes) (positive : 0 < bits) (within : bits ≤ 8) :
    Spells ⟨[], UInt8.ofNat value :: rest⟩ (lowBits bits value)
      ⟨lowBits (8 - bits) (value >>> bits), rest⟩ := by
  cases bits with
  | zero => cases positive
  | succ bits =>
      refine spells_byte _ _ _ _ rest ?_
      rw [low_first_of_nat, ← List.cons_append, ← lowBits, ← low_bits_add, Nat.add_sub_cancel' within]

theorem spells_digits (count value bits : Nat) (rest : Bytes) (positive : 0 < bits)
    (within : bits ≤ 8) :
    Spells ⟨[], littleEndianDigits (count + 1) value ++ rest⟩ (lowBits (8 * count + bits) value)
      ⟨lowBits (8 - bits) (value >>> (8 * count + bits)), rest⟩ := by
  induction count generalizing value with
  | zero =>
      simp only [Nat.mul_zero, Nat.zero_add]
      exact spells_of_nat value bits rest positive within
  | succ count ih =>
      have first := spells_of_nat value 8 (littleEndianDigits (count + 1) (value / 256) ++ rest)
        (by decide) (Nat.le_refl 8)
      have high : value / 256 = value >>> 8 := (Nat.shiftRight_eq_div_pow value 8).symm
      rw [show 8 * (count + 1) + bits = 8 + (8 * count + bits) by omega, low_bits_add,
        Nat.shiftRight_add, ← high]
      exact spells_append first (ih (value / 256))

def extend (source : BitSource) (suffix : Bytes) : BitSource :=
  ⟨source.pending, source.rest ++ suffix⟩

theorem next_extend {source next : BitSource} {bit : Bool} (suffix : Bytes)
    (read : source.next? = some (bit, next)) :
    (source.extend suffix).next? = some (bit, next.extend suffix) := by
  obtain ⟨pending, rest⟩ := source
  cases pending with
  | cons head tail =>
      cases read
      rfl
  | nil =>
      cases rest with
      | nil => cases read
      | cons byte rest =>
          cases read
          rfl

theorem left_extend (source : BitSource) (suffix : Bytes) :
    (source.extend suffix).left = source.left + 8 * suffix.length := by
  simp only [left, extend, List.length_append]
  omega

end BitSource

namespace BitReader

open BitSource (Spells)

theorem run_bind {α β : Type} {reader : BitReader α} {source middle : BitSource} {value : α}
    (next : α → BitReader β) (first : reader.run source = .finished value middle) :
    (reader >>= next).run source = (next value).run middle := by
  induction reader generalizing source with
  | done => cases first; rfl
  | refuse => cases first
  | ask question ih =>
      simp only [run] at first
      change (ask fun bit => (question bit).bind next).run source = _
      simp only [run]
      split at first
      · cases first
      · exact ih _ first

theorem run_bit {source last : BitSource} {value : Bool} (spelled : Spells source [value] last) :
    bit.run source = .finished value last := by
  cases spelled with
  | cons _ next _ _ _ taken rest =>
      cases rest
      simp only [bit, run, taken]

theorem mod_shift_left_add (value first second : Nat) :
    value % (1 <<< first) + (1 <<< first) * ((value >>> first) % (1 <<< second)) =
      value % (1 <<< (first + second)) := by
  rw [Nat.shiftLeft_add, Nat.shiftLeft_eq (1 <<< first), Nat.one_shiftLeft first,
    Nat.shiftRight_eq_div_pow, Nat.one_shiftLeft second, Nat.mod_mul]

theorem run_number_from {count value : Nat} {source last : BitSource} (weight sum : Nat)
    (spelled : Spells source (lowBits count value) last) :
    (numberFrom weight sum count).run source =
      .finished (sum + weight * (value % (1 <<< count))) last := by
  induction count generalizing source value weight sum with
  | zero =>
      cases spelled
      have zero : value % (1 <<< 0) = 0 := Nat.mod_one value
      rw [zero]
      rfl
  | succ count ih =>
      cases spelled with
      | cons _ next _ _ _ taken rest =>
          have parity : (value.testBit 0).toNat = value % 2 := by
            rw [Nat.toNat_testBit, Nat.pow_zero, Nat.div_one]
          have parts : value % 2 + 2 * (value / 2 % (1 <<< count)) = value % (1 <<< (count + 1)) := by
            rw [Nat.add_comm count]
            exact mod_shift_left_add value 1 count
          have whole : sum + value % 2 * weight + 2 * weight * (value / 2 % (1 <<< count)) =
              sum + weight * (value % (1 <<< (count + 1))) := by
            rw [Nat.add_assoc, Nat.mul_comm (value % 2), Nat.mul_comm 2, Nat.mul_assoc,
              ← Nat.mul_add, parts]
          simp only [numberFrom, run, taken]
          rw [ih (2 * weight) _ rest, parity, whole]

theorem run_number {count value : Nat} {source last : BitSource}
    (spelled : Spells source (lowBits count value) last) :
    (number count).run source = .finished (value % (1 <<< count)) last := by
  have read := run_number_from 1 0 spelled
  rwa [Nat.one_mul, Nat.zero_add] at read

namespace Outcome

variable {α β : Type} {suffix : Bytes} {short long : Outcome α}

-- The outcome on a source and the one on the same source with more bytes behind it.
inductive Extends (suffix : Bytes) : Outcome α → Outcome α → Prop where
  | finished (value : α) (source : BitSource) :
      Extends suffix (.finished value source) (.finished value (source.extend suffix))
  | refused : Extends suffix .refused .refused
  | starved (long : Outcome α) : Extends suffix .starved long

theorem extends_finished {value : α} {source : BitSource} (outcomes : Extends suffix short long)
    (finished : short = .finished value source) : long = .finished value (source.extend suffix) := by
  cases outcomes with
  | finished => cases finished; rfl
  | refused => cases finished
  | starved => cases finished

theorem extends_refused (outcomes : Extends suffix short long) (refused : short = .refused) :
    long = .refused := by
  cases outcomes with
  | finished => cases refused
  | refused => rfl
  | starved => cases refused

theorem extends_map (f : α → β) (outcomes : Extends suffix short long) :
    Extends suffix (short.map f) (long.map f) := by
  cases outcomes with
  | finished value source => exact .finished (f value) source
  | refused => exact .refused
  | starved => exact .starved _

theorem extends_bind {next : α → BitSource → Outcome β} (outcomes : Extends suffix short long)
    (further : ∀ value source,
      Extends suffix (next value source) (next value (source.extend suffix))) :
    Extends suffix (short.bind next) (long.bind next) := by
  cases outcomes with
  | finished value source => exact further value source
  | refused => exact .refused
  | starved => exact .starved _

end Outcome

theorem run_extends {α : Type} (suffix : Bytes) (reader : BitReader α) (source : BitSource) :
    Outcome.Extends suffix (reader.run source) (reader.run (source.extend suffix)) := by
  induction reader generalizing source with
  | done value => exact .finished value source
  | refuse => exact .refused
  | ask next ih =>
      cases read : source.next? with
      | none =>
          have starved : (ask next).run source = .starved := by simp only [run, read]
          rw [starved]
          exact .starved _
      | some taken =>
          obtain ⟨bit, rest⟩ := taken
          simp only [run, read, BitSource.next_extend suffix read]
          exact ih bit rest

end BitReader

end TaggedBlock
