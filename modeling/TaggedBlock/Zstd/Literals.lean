import TaggedBlock.Zstd.Huffman

set_option autoImplicit false

namespace TaggedBlock.Zstd.Literals

def plainCount? (form : Nat) (source : Bytes) : Option (Nat × Bytes) :=
  let length := if form = 1 then 2 else if form = 3 then 3 else 1
  (splitBytes? length source).map fun (header, rest) =>
    (littleEndian header / (if length = 1 then 8 else 16), rest)

def codedCounts? (form : Nat) (source : Bytes) : Option (Nat × Nat × Bytes) :=
  let length := max 3 (form + 2)
  let bits := 4 * length - 2
  (splitBytes? length source).map fun (header, rest) =>
    let counts := littleEndian header / 16
    (counts % (1 <<< bits), counts >>> bits, rest)

def leastForFour : Nat := 6

def fourStreams? (tree : PrefixTree) (count : Nat) (source : Bytes) : Option (Array UInt8) := do
  let (first, source) ← splitBytes? 2 source
  let (second, source) ← splitBytes? 2 source
  let (third, source) ← splitBytes? 2 source
  let (first, source) ← splitBytes? (littleEndian first) source
  let (second, source) ← splitBytes? (littleEndian second) source
  let (third, fourth) ← splitBytes? (littleEndian third) source
  let part := (count + 3) / 4
  let out ← Huffman.decode? tree part first #[]
  let out ← Huffman.decode? tree part second out
  let out ← Huffman.decode? tree part third out
  Huffman.decode? tree (count - 3 * part) fourth out

def streams? (form : Nat) (tree : PrefixTree) (count : Nat) (source : Bytes) :
    Option (Array UInt8) :=
  if form = 0 then Huffman.decode? tree count source #[]
  else if leastForFour ≤ count then fourStreams? tree count source
  else none

def read? (greatest : Nat) (earlier : Option PrefixTree) (source : Bytes) :
    Option (Bytes × Option PrefixTree × Bytes) :=
  match source with
  | [] => none
  | head :: _ =>
    let kind := head.toNat % 4
    let form := head.toNat / 4 % 4
    if kind < 2 then do
      let (count, rest) ← plainCount? form source
      guard (count ≤ greatest)
      if kind = 0 then
        let (literals, rest) ← splitBytes? count rest
        return (literals, earlier, rest)
      else
        let (byte, rest) ← splitBytes? 1 rest
        return (byte.flatMap (List.replicate count ·), earlier, rest)
    else do
      let (count, size, rest) ← codedCounts? form source
      guard (count ≤ greatest)
      let (coded, rest) ← splitBytes? size rest
      let (tree, streams) ← if kind = 2 then Huffman.read? coded else earlier.map (·, coded)
      let literals ← streams? form tree count streams
      return (literals.toList, some tree, rest)

end TaggedBlock.Zstd.Literals
