set_option autoImplicit false

namespace TaggedBlock.Lzma

inductive Error where
  | invalidProperties (properties : Nat)
  | headerTooShort
  | streamTooShort
  | inputEnded
  | beyondDictionary (distance dictionary : Nat)
  | beyondOutput (distance produced : Nat)
  | dataAfterEnd
  | sizeMismatch (expected produced : Nat)
deriving DecidableEq, Repr

def Error.message : Error → String
  | .invalidProperties properties =>
    "lzma error: LZMA header invalid properties: " ++ toString properties ++ " must be < 225"
  | .headerTooShort => "header too short: failed to fill whole buffer"
  | .streamTooShort => "lzma error: LZMA stream too short: failed to fill whole buffer"
  | .inputEnded => "io error: failed to fill whole buffer"
  | .beyondDictionary distance dictionary =>
    "lzma error: LZ distance " ++ toString distance ++ " is beyond dictionary size " ++
      toString dictionary
  | .beyondOutput distance produced =>
    "lzma error: LZ distance " ++ toString distance ++ " is beyond output size " ++
      toString produced
  | .dataAfterEnd => "lzma error: Found end-of-stream marker but more bytes are available"
  | .sizeMismatch expected produced =>
    "lzma error: Expected unpacked size of " ++ toString expected ++ " but decompressed to " ++
      toString produced

end TaggedBlock.Lzma
