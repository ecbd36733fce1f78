import TaggedBlock.Lzma.Decision

set_option autoImplicit false

namespace TaggedBlock.Lzma

structure RangeEncoder where
  -- The settled bytes, the latest first.
  settled : Bytes
  low : Nat
  range : Nat

namespace RangeEncoder

-- A zero byte comes first, and a carry never passes it.
def start : RangeEncoder := ⟨[0], 0, 0xffffffff⟩

def carry : Bytes → Bytes
  | [] => []
  | byte :: higher => if byte = 255 then 0 :: carry higher else (byte + 1) :: higher

def narrow (settled : Bytes) (low range : Nat) : RangeEncoder :=
  let settled := if low < 0x100000000 then settled else carry settled
  let low := low % 0x100000000
  if 0x1000000 ≤ range then ⟨settled, low, range⟩
  else ⟨UInt8.ofNat (low / 0x1000000) :: settled, low % 0x1000000 * 256, range * 256⟩

def adaptive (encoder : RangeEncoder) (probability : Probability) (bit : Bool) : RangeEncoder :=
  let bound := encoder.range / 2048 * probability.value
  if bit then narrow encoder.settled (encoder.low + bound) (encoder.range - bound)
  else narrow encoder.settled encoder.low bound

def direct (encoder : RangeEncoder) (bit : Bool) : RangeEncoder :=
  let half := encoder.range / 2
  if bit then narrow encoder.settled (encoder.low + half) half
  else narrow encoder.settled encoder.low half

def finish (encoder : RangeEncoder) : Bytes :=
  encoder.settled.reverse ++ (littleEndianDigits 4 encoder.low).reverse

end RangeEncoder

def Decision.write {α : Type} :
    Decision α → List Bool → Model → RangeEncoder → Model × RangeEncoder
  | .adaptive context next, bit :: answers, model, encoder =>
    let encoder := encoder.adaptive (model.estimate context) bit
    (next bit).write answers (model.observe context bit) encoder
  | .direct next, bit :: answers, model, encoder =>
    (next bit).write answers model (encoder.direct bit)
  | _, _, model, encoder => (model, encoder)

def Decision.answer? {α : Type} : Decision α → List Bool → Option α
  | .done value, [] => some value
  | .adaptive _ next, bit :: answers => (next bit).answer? answers
  | .direct next, bit :: answers => (next bit).answer? answers
  | _, _ => none

end TaggedBlock.Lzma
