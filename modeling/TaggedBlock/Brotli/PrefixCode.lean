import TaggedBlock.PrefixTree

set_option autoImplicit false

namespace TaggedBlock.Brotli

open BitReader

namespace PrefixCode

def longestCode : Nat := 15

def ofLengths? (lengths : List Nat) : Option PrefixTree :=
  PrefixTree.ofLeaves? longestCode <| (List.range longestCode).flatMap fun below =>
    lengths.zipIdx.filterMap fun (length, symbol) =>
      if length = below + 1 then some (PrefixTree.Leaf.mk length symbol) else none

def fork (first second : Nat) : PrefixTree :=
  .fork (.leaf (min first second)) (.leaf (max first second))

def ofNames (names : List Nat) (rising : Bool) : Option PrefixTree :=
  match names with
  | [first] => some (.leaf first)
  | [first, second] => some (fork first second)
  | [first, second, third] => some (.fork (.leaf first) (fork second third))
  | [first, second, third, fourth] =>
    if rising then some (.fork (.leaf first) (.fork (.leaf second) (fork third fourth)))
    else
      match names.mergeSort with
      | [least, second, third, greatest] => some (.fork (fork least second) (fork third greatest))
      | _ => none
  | _ => none

def nameBits (alphabet : Nat) : Nat := if alphabet ≤ 1 then 0 else Nat.log2 (alphabet - 1) + 1

def name (alphabet limit : Nat) : BitReader Nat := do
  let symbol ← number (nameBits alphabet)
  require (symbol < limit)
  return symbol

def readNamed (alphabet limit : Nat) : BitReader PrefixTree := do
  let more ← number 2
  let names ← times (name alphabet limit) (more + 1)
  require (decide names.Nodup)
  let rising ← if more = 3 then bit else pure false
  match ofNames names rising with
  | some tree => return tree
  | none => .refuse

def metaLength : PrefixTree :=
  .fork (.fork (.leaf 0) (.leaf 3))
    (.fork (.leaf 4) (.fork (.leaf 2) (.fork (.leaf 1) (.leaf 5))))

def metaOrder : List Nat := [1, 2, 3, 4, 0, 5, 17, 6, 16, 7, 8, 9, 10, 11, 12, 13, 14, 15]

def readMeta (lengths : Array Nat) : List Nat → (space : Nat) → BitReader (Array Nat × Nat)
  | [], space => .done (lengths, space)
  | symbol :: symbols, space => do
    let length ← metaLength.reader
    if length = 0 then readMeta lengths symbols space
    else
      let lengths := lengths.setIfInBounds symbol length
      let share := 1 <<< (5 - length)
      if space = share then return (lengths, 0)
      require (share < space)
      readMeta lengths symbols (space - share)

def readLengthCode (skip : Nat) : BitReader PrefixTree := do
  let (lengths, space) ← readMeta (Array.replicate 18 0) (metaOrder.drop skip) 32
  let present := lengths.toList.zipIdx.filter (·.1 != 0)
  match present with
  | [(_, symbol)] => return .leaf symbol
  | _ =>
    require (space == 0)
    match ofLengths? lengths.toList with
    | some tree => return tree
    | none => .refuse

def repeatLatest : Nat := 16

structure Run where
  latest : Nat
  repeated : Nat
  count : Nat
  space : Int

namespace Run

def start : Run := ⟨8, 0, 0, 0x8000⟩

def share (length : Nat) : Nat := if length = 0 then 0 else 1 <<< (15 - length)

def single (run : Run) (length : Nat) : Run :=
  { run with
    latest := if length = 0 then run.latest else length
    count := 0
    space := run.space - share length }

-- A repeat symbol right after another for the same length multiplies what that one said. The
-- first part is how many lengths this one adds.
def extend (run : Run) (symbol extra : Nat) : Nat × Run :=
  let length := if symbol = repeatLatest then run.latest else 0
  let earlier := if run.repeated = length then run.count else 0
  let scaled := if earlier = 0 then 0 else (earlier - 2) * if symbol = repeatLatest then 4 else 8
  let count := scaled + extra + 3
  let added := count - earlier
  (added, { run with repeated := length, count, space := run.space - share length * added })

end Run

-- Lengths of codes until no space is left, for at most `room` more symbols; the next `pending` are
-- those of the latest repeat. What came before is in `before`, the latest first.
def readLengths (code : PrefixTree) (before : List Nat) : (room pending : Nat) → Run →
    BitReader (List Nat)
  | 0, _, run => if run.space = 0 then .done before.reverse else .refuse
  | room + 1, pending + 1, run => readLengths code (run.repeated :: before) room pending run
  | room + 1, 0, run =>
    if run.space = 0 then .done before.reverse
    else do
      let symbol ← code.reader
      if symbol < repeatLatest then readLengths code (symbol :: before) room 0 (run.single symbol)
      else
        let extra ← number (if symbol = repeatLatest then 2 else 3)
        let (added, run) := run.extend symbol extra
        require (added ≤ room + 1)
        readLengths code (run.repeated :: before) room (added - 1) run

def readLengthsOf (limit skip : Nat) : BitReader PrefixTree := do
  let code ← readLengthCode skip
  let lengths ← readLengths code [] limit 0 .start
  match ofLengths? lengths with
  | some tree => return tree
  | none => .refuse

def named : Nat := 1

def readBelow (alphabet limit : Nat) : BitReader PrefixTree := do
  let kind ← number 2
  if kind = named then readNamed alphabet limit else readLengthsOf limit kind

def read (alphabet : Nat) : BitReader PrefixTree := readBelow alphabet alphabet

end PrefixCode

end TaggedBlock.Brotli
