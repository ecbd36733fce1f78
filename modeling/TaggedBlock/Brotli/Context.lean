import TaggedBlock.Brotli.PrefixCode

set_option autoImplicit false

namespace TaggedBlock.Brotli

open BitReader

inductive ContextMode where
  | low
  | high
  | text
  | signed
deriving DecidableEq, Repr

namespace ContextMode

def ofNumber : Nat → ContextMode
  | 0 => .low
  | 1 => .high
  | 2 => .text
  | _ => .signed

def lastClasses : Array Nat := #[
  0, 0, 0, 0, 0, 0, 0, 0, 0, 4, 4, 0, 0, 4, 0, 0,
  0, 0, 0, 0, 0, 0, 0, 0, 0, 0, 0, 0, 0, 0, 0, 0,
  8, 12, 16, 12, 12, 20, 12, 16, 24, 28, 12, 12, 32, 12, 36, 12,
  44, 44, 44, 44, 44, 44, 44, 44, 44, 44, 32, 32, 24, 40, 28, 12,
  12, 48, 52, 52, 52, 48, 52, 52, 52, 48, 52, 52, 52, 52, 52, 48,
  52, 52, 52, 52, 52, 48, 52, 52, 52, 52, 52, 24, 12, 28, 12, 12,
  12, 56, 60, 60, 60, 56, 60, 60, 60, 56, 60, 60, 60, 60, 60, 56,
  60, 60, 60, 60, 60, 56, 60, 60, 60, 60, 60, 24, 12, 28, 12, 0]

def lastClass (byte : Nat) : Nat :=
  if byte < 128 then lastClasses[byte]?.getD 0
  else if byte < 192 then byte % 2
  else 2 + byte % 2

def beforeClass (byte : Nat) : Nat :=
  if byte ≤ 32 then 0
  else if byte < 48 then 1
  else if byte < 58 then 2
  else if byte < 65 then 1
  else if byte < 91 then 2
  else if byte < 97 then 1
  else if byte < 123 then 3
  else if byte < 127 then 1
  else if byte < 224 then 0
  else 2

def signedClass (byte : Nat) : Nat :=
  if byte = 0 then 0
  else if byte < 16 then 1
  else if byte < 64 then 2
  else if byte < 128 then 3
  else if byte < 192 then 4
  else if byte < 240 then 5
  else if byte < 255 then 6
  else 7

def context (mode : ContextMode) (last before : UInt8) : Nat :=
  let last := last.toNat
  let before := before.toNat
  match mode with
  | .low => last % 64
  | .high => last / 4
  | .text => lastClass last ||| beforeClass before
  | .signed => 8 * signedClass last + signedClass before

end ContextMode

def literalContexts : Nat := 64

def distanceContexts : Nat := 4

def distanceContext (length : Nat) : Nat := min length 5 - 2

def readCount : BitReader Nat := do
  if ← bit then
    let bits ← number 3
    let low ← number bits
    return (1 <<< bits) + low + 1
  else return 1

namespace ContextMap

def readEntries (code : PrefixTree) (longestRun : Nat) (before : List Nat) :
    (room pending : Nat) → BitReader (List Nat)
  | 0, _ => .done before.reverse
  | room + 1, pending + 1 => readEntries code longestRun (0 :: before) room pending
  | room + 1, 0 => do
    let symbol ← code.reader
    if symbol = 0 then readEntries code longestRun (0 :: before) room 0
    else if symbol ≤ longestRun then
      let low ← number symbol
      let run := (1 <<< symbol) + low
      require (run ≤ room + 1)
      readEntries code longestRun (0 :: before) room (run - 1)
    else readEntries code longestRun ((symbol - longestRun) :: before) room 0

def moveToFront (values : List Nat) : List Nat → List Nat
  | [] => []
  | place :: places =>
    let value := values[place]?.getD 0
    value :: moveToFront (value :: values.eraseIdx place) places

def read (size : Nat) : BitReader (Nat × Array Nat) := do
  let codes ← readCount
  if codes = 1 then return (1, Array.replicate size 0)
  let longestRun ← do
    if ← bit then
      let below ← number 4
      pure (below + 1)
    else pure 0
  let code ← PrefixCode.read (codes + longestRun)
  let entries ← readEntries code longestRun [] size 0
  let moves ← bit
  let entries := if moves then moveToFront (List.range 256) entries else entries
  return (codes, entries.toArray)

end ContextMap

end TaggedBlock.Brotli
