set_option autoImplicit false

namespace TaggedBlock.Lz4

inductive Error where
  | missingSize
  | expectedByte
  | literalBeyondInput
  | outputTooSmall (capacity expected : Nat)
  | zeroOffset
  | offsetBeyond
  | sizeMismatch (produced declared : Nat)
deriving DecidableEq, Repr

def Error.message : Error → String
  | .missingSize => "missing size prefix"
  | .expectedByte => "expected another byte, found none"
  | .literalBeyondInput => "literal is out of bounds of the input"
  | .outputTooSmall capacity expected =>
    "provided output is too small for the decompressed data, actual " ++ toString capacity ++
      ", expected " ++ toString expected
  | .zeroOffset => "0 is not a valid match offset"
  | .offsetBeyond => "the offset to copy is not contained in the decompressed buffer"
  | .sizeMismatch produced declared =>
    "decoded " ++ toString produced ++ " bytes but size prefix declares " ++ toString declared

end TaggedBlock.Lz4
