import TaggedBlock.BitReader
import TaggedBlock.Zstd.Backward

set_option autoImplicit false

namespace TaggedBlock.Zstd.Fse

structure Cell where
  symbol : Nat
  -- How many bits choose the next state.
  bits : Nat
  base : Nat
deriving DecidableEq, Repr

structure Table where
  log : Nat
  cells : Array Cell
deriving DecidableEq, Repr

namespace Table

def cell (table : Table) (state : Nat) : Cell := table.cells[state]?.getD ⟨0, 0, 0⟩

def single (symbol : Nat) : Table := ⟨0, #[⟨symbol, 0, 0⟩]⟩

def start? (table : Table) (bits : List Bool) : Option (Nat × List Bool) :=
  takeNumber? table.log bits

def step? (table : Table) (state : Nat) (bits : List Bool) : Option (Nat × List Bool) :=
  let cell := table.cell state
  (takeNumber? cell.bits bits).map fun (low, bits) => (cell.base + low, bits)

end Table

-- Symbols of the least share, which is written as -1, own one cell each, from the last one down.
def rareSymbols (counts : List Int) : List Nat :=
  counts.zipIdx.filterMap fun (count, symbol) => if count = -1 then some symbol else none

def commonSymbols (counts : List Int) : List Nat :=
  counts.zipIdx.flatMap fun (count, symbol) => List.replicate count.toNat symbol

def dealtCells (size rare : Nat) : List Nat :=
  ((List.range size).map fun turn => turn * (size / 2 + size / 8 + 3) % size).filter
    (· < size - rare)

def deal (size : Nat) (counts : List Int) : Array Nat :=
  let rare := rareSymbols counts
  let pairs := (dealtCells size rare.length).zip (commonSymbols counts) ++
    (List.range rare.length).zipWith (fun turn symbol => (size - 1 - turn, symbol)) rare
  pairs.foldl (fun cells (cell, symbol) => cells.setIfInBounds cell symbol)
    (Array.replicate size 0)

-- Numbers the cells of each symbol from its share up; the number tells which states may follow.
def connect (log : Nat) : List Nat → (numbers : Array Nat) → List Cell
  | [], _ => []
  | symbol :: symbols, numbers =>
    let number := numbers[symbol]?.getD 1
    let bits := log - Nat.log2 number
    ⟨symbol, bits, (number <<< bits) - (1 <<< log)⟩ ::
      connect log symbols (numbers.setIfInBounds symbol (number + 1))

def Table.ofCounts (log : Nat) (counts : List Int) : Table :=
  let numbers := counts.map Int.natAbs
  ⟨log, (connect log (deal (1 <<< log) counts).toList numbers.toArray).toArray⟩

open BitReader

def readCount (left : Nat) : BitReader Int := do
  let bits := Nat.log2 (left + 1)
  let half := 1 <<< bits
  let spare := 2 * half - 1 - (left + 1)
  let low ← number bits
  if low < spare then return low - 1
  let high ← bit
  let value := low + if high then half else 0
  return (if value < half then value else value - spare : Nat) - 1

def readAbsent : (room : Nat) → BitReader Nat
  | 0 => .refuse
  | room + 1 => do
    let part ← number 2
    if part < 3 then return part
    let more ← readAbsent room
    return 3 + more

def readCounts : (room absent left : Nat) → BitReader (List Int)
  | _, _, 0 => .done []
  | 0, _, _ + 1 => .refuse
  | room + 1, absent + 1, left + 1 => do
    let counts ← readCounts room absent (left + 1)
    return 0 :: counts
  | room + 1, 0, left + 1 => do
    let count ← readCount (left + 1)
    let absent ← if count = 0 then readAbsent room else pure 0
    let counts ← readCounts room absent (left + 1 - count.natAbs)
    return count :: counts

def leastLog : Nat := 5

def readTable (greatestLog symbols : Nat) : BitReader Table := do
  let extra ← number 4
  let log := leastLog + extra
  require (log ≤ greatestLog)
  let counts ← readCounts symbols 0 (1 <<< log)
  return .ofCounts log counts

def Table.read? (greatestLog symbols : Nat) (source : Bytes) : Option (Table × Bytes) :=
  match (readTable greatestLog symbols).run (.ofBytes source) with
  | .finished table source => some (table, source.rest)
  | _ => none

end TaggedBlock.Zstd.Fse
