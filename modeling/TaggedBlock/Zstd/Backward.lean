import TaggedBlock.Bytes

set_option autoImplicit false

namespace TaggedBlock.Zstd

def highFirst (byte : UInt8) : List Bool := [7, 6, 5, 4, 3, 2, 1, 0].map byte.toNat.testBit

def backwardBits? (stream : Bytes) : Option (List Bool) :=
  match stream.reverse with
  | [] => none
  | last :: earlier =>
    match (highFirst last).dropWhile (! ·) with
    | [] => none
    | _ :: bits => some (bits ++ earlier.flatMap highFirst)

def takeBelow? (high : Nat) : (count : Nat) → List Bool → Option (Nat × List Bool)
  | 0, bits => some (high, bits)
  | _ + 1, [] => none
  | count + 1, bit :: bits => takeBelow? (2 * high + bit.toNat) count bits

def takeNumber? (count : Nat) (bits : List Bool) : Option (Nat × List Bool) :=
  takeBelow? 0 count bits

end TaggedBlock.Zstd
