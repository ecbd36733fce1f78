set_option autoImplicit false

namespace TaggedBlock

structure Step where
  base : Nat
  bits : Nat
deriving DecidableEq, Repr

def ladder (start : Nat) : List Nat → List Step
  | [] => []
  | bits :: higher => ⟨start, bits⟩ :: ladder (start + (1 <<< bits)) higher

end TaggedBlock
