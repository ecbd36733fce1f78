import TaggedBlock.Bytes
import TaggedBlock.Lzma.Error
import TaggedBlock.Lzma.Probability

set_option autoImplicit false

namespace TaggedBlock.Lzma

structure RangeDecoder where
  range : Nat
  code : Nat
  rest : Bytes
  lower : 0x1000000 ≤ range
  upper : range < 0x100000000

namespace RangeDecoder

-- Starts on the input: its first byte is not looked at, the next four are the code.
def start? (input : Bytes) : Option RangeDecoder :=
  match input with
  | _ :: first :: second :: third :: fourth :: rest =>
    some ⟨0xffffffff, bigEndian [first, second, third, fourth], rest, by decide, by decide⟩
  | _ => none

def left (decoder : RangeDecoder) : Nat := 0x100000000 * decoder.rest.length + decoder.range

theorem widened_lower {range : Nat} (lower : 0x10000 ≤ range) : 0x1000000 ≤ range * 256 := by omega

theorem widened_upper {range : Nat} (small : ¬0x1000000 ≤ range) : range * 256 < 0x100000000 := by
  omega

def narrow (range code : Nat) (rest : Bytes) (lower : 0x10000 ≤ range)
    (upper : range < 0x100000000) : Except Error RangeDecoder :=
  if wide : 0x1000000 ≤ range then .ok ⟨range, code, rest, wide, upper⟩
  else
    match rest with
    | [] => .error .inputEnded
    | byte :: rest =>
      .ok ⟨range * 256, (code * 256 + byte.toNat) % 0x100000000, rest, widened_lower lower,
        widened_upper wide⟩

theorem left_narrow {range code : Nat} {rest : Bytes} {lower : 0x10000 ≤ range}
    {upper : range < 0x100000000} {decoder : RangeDecoder}
    (narrowed : narrow range code rest lower upper = .ok decoder) :
    decoder.left ≤ 0x100000000 * rest.length + range := by
  unfold narrow at narrowed
  split at narrowed
  · cases narrowed; exact Nat.le_refl _
  · split at narrowed
    · cases narrowed
    · cases narrowed
      simp only [left, List.length_cons]
      omega

def bound (decoder : RangeDecoder) (probability : Probability) : Nat :=
  decoder.range / 2048 * probability.value

theorem bound_lower (decoder : RangeDecoder) (probability : Probability) :
    0x10000 ≤ decoder.bound probability := by
  have share : 0x1000000 / 2048 ≤ decoder.range / 2048 := Nat.div_le_div_right decoder.lower
  calc 0x10000 ≤ 0x1000000 / 2048 * 31 := by decide
    _ ≤ decoder.range / 2048 * probability.value := Nat.mul_le_mul share probability.lower

theorem bound_upper (decoder : RangeDecoder) (probability : Probability) :
    decoder.bound probability + 0x10000 ≤ decoder.range := by
  have share : 0x1000000 / 2048 ≤ decoder.range / 2048 := Nat.div_le_div_right decoder.lower
  have parts : decoder.bound probability ≤ decoder.range / 2048 * 2017 :=
    Nat.mul_le_mul_left _ probability.upper
  have whole : decoder.range / 2048 * 2048 ≤ decoder.range := Nat.div_mul_le_self _ _
  omega

def adaptive (decoder : RangeDecoder) (probability : Probability) :
    Except Error (Bool × RangeDecoder) :=
  have low := decoder.bound_lower probability
  have high := decoder.bound_upper probability
  have top := decoder.upper
  if decoder.code < decoder.bound probability then
    (narrow (decoder.bound probability) decoder.code decoder.rest low (by omega)).map (false, ·)
  else
    (narrow (decoder.range - decoder.bound probability)
      (decoder.code - decoder.bound probability) decoder.rest (by omega) (by omega)).map (true, ·)

def direct (decoder : RangeDecoder) : Except Error (Bool × RangeDecoder) :=
  have low := decoder.lower
  have top := decoder.upper
  if decoder.code < decoder.range / 2 then
    (narrow (decoder.range / 2) decoder.code decoder.rest (by omega) (by omega)).map (false, ·)
  else
    (narrow (decoder.range / 2) (decoder.code - decoder.range / 2) decoder.rest (by omega)
      (by omega)).map (true, ·)

theorem left_adaptive {decoder next : RangeDecoder} {probability : Probability} {bit : Bool}
    (read : decoder.adaptive probability = .ok (bit, next)) : next.left < decoder.left := by
  have low := decoder.bound_lower probability
  have high := decoder.bound_upper probability
  simp only [adaptive, Except.map] at read
  split at read
  all_goals
    split at read
    · cases read
    · rename_i narrowed
      cases read
      have less := left_narrow narrowed
      simp only [left] at less ⊢
      omega

theorem left_direct {decoder next : RangeDecoder} {bit : Bool}
    (read : decoder.direct = .ok (bit, next)) : next.left < decoder.left := by
  have low := decoder.lower
  simp only [direct, Except.map] at read
  split at read
  all_goals
    split at read
    · cases read
    · rename_i narrowed
      cases read
      have less := left_narrow narrowed
      simp only [left] at less ⊢
      omega

end RangeDecoder

end TaggedBlock.Lzma
