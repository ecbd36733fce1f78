import TaggedBlock.Lzma.RangeDecoder

set_option autoImplicit false

namespace TaggedBlock.Lzma

inductive Decision (α : Type) where
  | done (value : α)
  | adaptive (context : Nat) (next : Bool → Decision α)
  | direct (next : Bool → Decision α)

namespace Decision

def bind {α β : Type} : Decision α → (α → Decision β) → Decision β
  | .done value, continue' => continue' value
  | .adaptive context next, continue' => .adaptive context fun bit => (next bit).bind continue'
  | .direct next, continue' => .direct fun bit => (next bit).bind continue'

instance : Monad Decision where
  pure := .done
  bind := bind

def read {α : Type} :
    Decision α → Model → RangeDecoder → Except Error (α × Model × RangeDecoder)
  | .done value, model, decoder => .ok (value, model, decoder)
  | .adaptive context next, model, decoder =>
    match decoder.adaptive (model.estimate context) with
    | .error error => .error error
    | .ok (bit, decoder) => (next bit).read (model.observe context bit) decoder
  | .direct next, model, decoder =>
    match decoder.direct with
    | .error error => .error error
    | .ok (bit, decoder) => (next bit).read model decoder

theorem left_read {α : Type} {decision : Decision α} {model finalModel : Model}
    {decoder final : RangeDecoder} {value : α}
    (result : decision.read model decoder = .ok (value, finalModel, final)) :
    final.left ≤ decoder.left := by
  induction decision generalizing model decoder with
  | done => cases result; exact Nat.le_refl _
  | adaptive context next ih =>
    simp only [read] at result
    split at result
    · cases result
    · rename_i first
      exact Nat.le_trans (ih _ result) (Nat.le_of_lt (RangeDecoder.left_adaptive first))
  | direct next ih =>
    simp only [read] at result
    split at result
    · cases result
    · rename_i first
      exact Nat.le_trans (ih _ result) (Nat.le_of_lt (RangeDecoder.left_direct first))

theorem left_read_adaptive {α : Type} {context : Nat} {next : Bool → Decision α}
    {model finalModel : Model} {decoder final : RangeDecoder} {value : α}
    (result : (adaptive context next).read model decoder = .ok (value, finalModel, final)) :
    final.left < decoder.left := by
  simp only [read] at result
  split at result
  · cases result
  · rename_i first
    exact Nat.lt_of_le_of_lt (left_read result) (RangeDecoder.left_adaptive first)

def bitTree (base : Nat) : (bits node : Nat) → Decision Nat
  | 0, node => .done node
  | bits + 1, node =>
    .adaptive (base + node) fun bit => bitTree base bits (2 * node + bit.toNat)

def reverseTree (base : Nat) : (bits node weight sum : Nat) → Decision Nat
  | 0, _, _, sum => .done sum
  | bits + 1, node, weight, sum =>
    .adaptive (base + node) fun bit =>
      reverseTree base bits (2 * node + bit.toNat) (2 * weight) (sum + bit.toNat * weight)

def directBits : (bits value : Nat) → Decision Nat
  | 0, value => .done value
  | bits + 1, value => .direct fun bit => directBits bits (2 * value + bit.toNat)

-- The bits of a byte beside a byte that it may repeat: as long as they agree, the contexts
-- depend on the bit of the other byte.
def besideTree (base other : Nat) : (bits node : Nat) → Decision Nat
  | 0, node => .done node
  | bits + 1, node =>
    let expected := (other >>> bits) % 2
    .adaptive (base + 256 * (1 + expected) + node) fun bit =>
      if bit.toNat = expected then besideTree base other bits (2 * node + bit.toNat)
      else bitTree base bits (2 * node + bit.toNat)

end Decision

end TaggedBlock.Lzma
