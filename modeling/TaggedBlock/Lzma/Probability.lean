set_option autoImplicit false

namespace TaggedBlock.Lzma

-- The estimated chance, in parts of 2048, that the next bit of a context is zero.
structure Probability where
  value : Nat
  lower : 31 ≤ value
  upper : value ≤ 2017
deriving DecidableEq

namespace Probability

def even : Probability := ⟨1024, by decide, by decide⟩

-- Moves the estimate a thirty-second of the way toward the bit that came.
def adapt (probability : Probability) (bit : Bool) : Probability :=
  have lower := probability.lower
  have upper := probability.upper
  if bit then ⟨probability.value - probability.value / 32, by omega, by omega⟩
  else ⟨probability.value + (2048 - probability.value) / 32, by omega, by omega⟩

end Probability

abbrev Model := Array Probability

namespace Model

def fresh (contexts : Nat) : Model := Array.replicate contexts .even

def estimate (model : Model) (context : Nat) : Probability := model[context]?.getD .even

def observe (model : Model) (context : Nat) (bit : Bool) : Model :=
  model.setIfInBounds context ((model.estimate context).adapt bit)

end Model

end TaggedBlock.Lzma
