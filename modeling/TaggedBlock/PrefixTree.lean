import TaggedBlock.BitReader

set_option autoImplicit false

namespace TaggedBlock

inductive PrefixTree where
  | leaf (symbol : Nat)
  | fork (zero one : PrefixTree)
deriving DecidableEq, Repr

namespace PrefixTree

structure Leaf where
  depth : Nat
  symbol : Nat
deriving DecidableEq, Repr

-- Builds a tree whose root is at `depth` from the first leaves; no leaf may lie more than `room`
-- below it.
def build? : (room depth : Nat) → List Leaf → Option (PrefixTree × List Leaf)
  | _, _, [] => none
  | 0, depth, first :: leaves =>
    if first.depth = depth then some (.leaf first.symbol, leaves) else none
  | room + 1, depth, first :: leaves =>
    if first.depth = depth then some (.leaf first.symbol, leaves)
    else
      match build? room (depth + 1) (first :: leaves) with
      | none => none
      | some (zero, leaves) =>
        (build? room (depth + 1) leaves).map fun (one, leaves) => (.fork zero one, leaves)

def ofLeaves? (deepest : Nat) (leaves : List Leaf) : Option PrefixTree :=
  match build? deepest 0 leaves with
  | some (tree, []) => some tree
  | _ => none

def symbols : PrefixTree → List Nat
  | .leaf symbol => [symbol]
  | .fork zero one => zero.symbols ++ one.symbols

def take? : PrefixTree → List Bool → Option (Nat × List Bool)
  | .leaf symbol, bits => some (symbol, bits)
  | .fork _ _, [] => none
  | .fork zero one, bit :: bits => if bit then one.take? bits else zero.take? bits

def reader : PrefixTree → BitReader Nat
  | .leaf symbol => .done symbol
  | .fork zero one => .ask fun bit => if bit then one.reader else zero.reader

end PrefixTree

end TaggedBlock
