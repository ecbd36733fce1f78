set_option autoImplicit false

namespace TaggedBlock.Snappy

def longest : Nat := 4294967295

inductive Error where
  | empty
  | invalidHeader
  | tooLong (size : Nat)
  | literalBeyond (length remainingSource remainingOutput : Nat)
  | copyUnread (needed remainingSource : Nat)
  | offsetBeyond (offset position : Nat)
  | copyBeyond (length remainingOutput : Nat)
  | sizeMismatch (declared produced : Nat)
deriving DecidableEq, Repr

def Error.message : Error → String
  | .empty => "snappy: corrupt input (empty)"
  | .invalidHeader => "snappy: corrupt input (invalid header)"
  | .tooLong size =>
    "snappy: input buffer (size = " ++ toString size ++ ") is larger than allowed (size = " ++
      toString longest ++ ")"
  | .literalBeyond length remainingSource remainingOutput =>
    "snappy: corrupt input (expected literal read of length " ++ toString length ++
      "; remaining src: " ++ toString remainingSource ++ "; remaining dst: " ++
      toString remainingOutput ++ ")"
  | .copyUnread needed remainingSource =>
    "snappy: corrupt input (expected copy read of length " ++ toString needed ++
      "; remaining src: " ++ toString remainingSource ++ ")"
  | .offsetBeyond offset position =>
    "snappy: corrupt input (expected valid offset but got offset " ++ toString offset ++
      "; dst position: " ++ toString position ++ ")"
  | .copyBeyond length remainingOutput =>
    "snappy: corrupt input (expected copy write of length " ++ toString length ++
      "; remaining dst: " ++ toString remainingOutput ++ ")"
  | .sizeMismatch declared produced =>
    "snappy: corrupt input (header mismatch; expected " ++ toString declared ++
      " decompressed bytes but got " ++ toString produced ++ ")"

end TaggedBlock.Snappy
