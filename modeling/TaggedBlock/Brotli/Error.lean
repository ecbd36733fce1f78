set_option autoImplicit false

namespace TaggedBlock.Brotli

inductive Error where
  | truncated
  | invalid
  | trailing (bytes : Nat)
deriving DecidableEq, Repr

def Error.message : Error → String
  | .truncated => "truncated stream"
  | .invalid => "invalid stream"
  | .trailing bytes => toString bytes ++ " trailing byte(s) after end of stream"

end TaggedBlock.Brotli
