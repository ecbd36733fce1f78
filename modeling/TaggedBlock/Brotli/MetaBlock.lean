import TaggedBlock.Brotli.Context
import TaggedBlock.Ladder

set_option autoImplicit false

namespace TaggedBlock.Brotli

open BitReader

inductive Content where
  | nothing
  | metadata (length : Nat)
  | stored (length : Nat)
  | coded (length : Nat)
deriving DecidableEq, Repr

structure Header where
  isLast : Bool
  content : Content
deriving DecidableEq, Repr

namespace Header

-- A number of `parts` parts of `bits` bits, the lowest first, added to `sum`. A last part of zero
-- could be left out, so it is refused unless there are only `fewest` parts.
def readParts (bits fewest weight sum : Nat) : (index parts : Nat) → BitReader Nat
  | _, 0 => .done sum
  | index, parts + 1 => do
    let part ← number bits
    require (part != 0 || parts != 0 || index < fewest)
    readParts bits fewest (weight <<< bits) (sum + part * weight) (index + 1) parts

def readMetadata : BitReader Content := do
  let reserved ← bit
  require (!reserved)
  let parts ← number 2
  let below ← readParts 8 1 1 0 0 parts
  return .metadata (if parts = 0 then 0 else below + 1)

def readContent (isLast : Bool) : BitReader Content := do
  let parts ← number 2
  if parts = 3 then readMetadata
  else
    let below ← readParts 4 4 1 0 0 (parts + 4)
    if isLast then return .coded (below + 1)
    if ← bit then return .stored (below + 1) else return .coded (below + 1)

def read : BitReader Header := do
  let isLast ← bit
  if isLast then
    if ← bit then return ⟨true, .nothing⟩
  let content ← readContent isLast
  return ⟨isLast, content⟩

theorem left_read {source final : BitSource} {header : Header}
    (result : read.run source = .finished header final) : final.left < source.left :=
  left_run_ask result

end Header

def readStep (steps : Array Step) (symbol : Nat) : BitReader Nat := do
  match steps[symbol]? with
  | none => .refuse
  | some step =>
    let above ← number step.bits
    return step.base + above

structure Blocks where
  types : Nat
  typeCode : PrefixTree
  countCode : PrefixTree
  current : Nat
  previous : Nat
  left : Nat

namespace Blocks

def countSteps : Array Step :=
  (ladder 1 [2, 2, 2, 2, 3, 3, 3, 3, 4, 4, 4, 4, 5, 5, 5, 5, 6, 6, 7, 8, 9, 10, 11, 12, 13,
    24]).toArray

def read : BitReader Blocks := do
  let types ← readCount
  if types = 1 then return ⟨1, .leaf 0, .leaf 0, 0, 1, 0⟩
  let typeCode ← PrefixCode.read (types + 2)
  let countCode ← PrefixCode.read countSteps.size
  let first ← countCode.reader
  let count ← readStep countSteps first
  return ⟨types, typeCode, countCode, 0, 1, count⟩

def typeOf (blocks : Blocks) (symbol : Nat) : Nat :=
  match symbol with
  | 0 => blocks.previous
  | 1 => if blocks.current + 1 < blocks.types then blocks.current + 1 else 0
  | _ => symbol - 2

-- Makes room for one more symbol, in the next block if the current one is full. Blocks of a
-- single type never end.
def advance (blocks : Blocks) : BitReader Blocks := do
  if blocks.types = 1 then return blocks
  if blocks.left = 0 then
    let symbol ← blocks.typeCode.reader
    let length ← blocks.countCode.reader
    let count ← readStep countSteps length
    return { blocks with
      current := blocks.typeOf symbol, previous := blocks.current, left := count - 1 }
  else return { blocks with left := blocks.left - 1 }

end Blocks

structure Coding where
  modes : Array ContextMode
  literalMap : Array Nat
  distanceMap : Array Nat
  literalCodes : Array PrefixTree
  commandCodes : Array PrefixTree
  distanceCodes : Array PrefixTree
  postfixBits : Nat
  direct : Nat

structure Cursor where
  literals : Blocks
  commands : Blocks
  distances : Blocks

def Cursor.left (cursor : Cursor) : Nat :=
  cursor.literals.left + cursor.commands.left + cursor.distances.left

namespace Coding

def commandSymbols : Nat := 704

def recentSymbols : Nat := 16

def farthest : Nat := 0x7ffffffc

-- How many of the distances that are known by their leading bits, two for each number of bits, are
-- never beyond the farthest.
def nearSteps (direct postfixBits distanceBits : Nat) : Nat :=
  (List.range (2 * distanceBits)).countP fun step =>
    direct + ((((3 + step % 2) <<< (step / 2 + 1)) - 4) <<< postfixBits) ≤ farthest

def read (distanceBits : Nat) : BitReader (Coding × Cursor) := do
  let literals ← Blocks.read
  let commands ← Blocks.read
  let distances ← Blocks.read
  let postfixBits ← number 2
  let high ← number 4
  let direct := high <<< postfixBits
  let modes ← times (number 2) literals.types
  let (literalCount, literalMap) ← ContextMap.read (literals.types * literalContexts)
  let (distanceCount, distanceMap) ← ContextMap.read (distances.types * distanceContexts)
  let literalCodes ← times (PrefixCode.read 256) literalCount
  let commandCodes ← times (PrefixCode.read commandSymbols) commands.types
  let symbols := fun (steps : Nat) => recentSymbols + direct + (steps <<< postfixBits)
  let distanceCode := PrefixCode.readBelow (symbols (2 * distanceBits))
    (symbols (nearSteps direct postfixBits distanceBits))
  let distanceCodes ← times distanceCode distanceCount
  return (
    { modes := (modes.map ContextMode.ofNumber).toArray
      literalMap, distanceMap
      literalCodes := literalCodes.toArray
      commandCodes := commandCodes.toArray
      distanceCodes := distanceCodes.toArray
      postfixBits, direct },
    ⟨literals, commands, distances⟩)

end Coding

end TaggedBlock.Brotli
