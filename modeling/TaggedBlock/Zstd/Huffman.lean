import TaggedBlock.PrefixTree
import TaggedBlock.Zstd.Fse

set_option autoImplicit false

namespace TaggedBlock.Zstd.Huffman

def longestCode : Nat := 12

def share (weight : Nat) : Nat := if weight = 0 then 0 else 1 <<< (weight - 1)

def ofWeights? (weights : List Nat) : Option PrefixTree :=
  let sum := weights.foldl (fun sum weight => sum + share weight) 0
  let log := Nat.log2 sum + 1
  let left := (1 <<< log) - sum
  let last := Nat.log2 left + 1
  let all := weights ++ [last]
  let least := all.count 1
  if weights.all (· ≤ longestCode) && sum != 0 && log ≤ longestCode && share last == left &&
      2 ≤ least && least % 2 == 0 then
    let leaves := (List.range log).flatMap fun below =>
      all.zipIdx.filterMap fun (weight, symbol) =>
        if weight = below + 1 then some (PrefixTree.Leaf.mk (log - below) symbol) else none
    PrefixTree.ofLeaves? longestCode leaves
  else none

-- Weights from a stream in which two states take turns. It ends where the state whose turn it is
-- would need more bits than are left; the other one has the last word. At most `room` weights
-- come.
def weightsFrom? (table : Fse.Table) : (room state other : Nat) → List Bool → Option (List Nat)
  | 0, _, _, _ => none
  | room + 1, state, other, bits =>
    match table.step? state bits with
    | some (next, bits) =>
      (weightsFrom? table room other next bits).map ((table.cell state).symbol :: ·)
    | none =>
      if room = 0 then none else some [(table.cell state).symbol, (table.cell other).symbol]

def mostWeights : Nat := 255

def codedWeights? (description : Bytes) : Option (List Nat) := do
  let (table, stream) ← Fse.Table.read? 6 (mostWeights + 1) description
  let bits ← backwardBits? stream
  let (state, bits) ← table.start? bits
  let (other, bits) ← table.start? bits
  weightsFrom? table mostWeights state other bits

-- From this size byte on, the weights are written as they are, two in a byte.
def plainFrom : Nat := 128

def plainWeights (count : Nat) (description : Bytes) : List Nat :=
  (description.flatMap fun byte => [byte.toNat / 16, byte.toNat % 16]).take count

def read? (source : Bytes) : Option (PrefixTree × Bytes) :=
  match source with
  | [] => none
  | size :: source =>
    let size := size.toNat
    if plainFrom ≤ size then do
      let count := size - plainFrom + 1
      let (description, rest) ← splitBytes? ((count + 1) / 2) source
      let tree ← ofWeights? (plainWeights count description)
      return (tree, rest)
    else do
      let (description, rest) ← splitBytes? size source
      let weights ← codedWeights? description
      let tree ← ofWeights? weights
      return (tree, rest)

def takeSymbols? (tree : PrefixTree) :
    (count : Nat) → List Bool → Array UInt8 → Option (Array UInt8 × List Bool)
  | 0, bits, out => some (out, bits)
  | count + 1, bits, out =>
    match tree.take? bits with
    | none => none
    | some (symbol, bits) => takeSymbols? tree count bits (out.push (UInt8.ofNat symbol))

def decode? (tree : PrefixTree) (count : Nat) (stream : Bytes) (out : Array UInt8) :
    Option (Array UInt8) :=
  match backwardBits? stream with
  | none => none
  | some bits =>
    match takeSymbols? tree count bits out with
    | some (out, []) => some out
    | _ => none

end TaggedBlock.Zstd.Huffman
