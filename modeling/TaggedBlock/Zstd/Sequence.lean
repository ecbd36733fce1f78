import TaggedBlock.Ladder
import TaggedBlock.Zstd.Fse
import TaggedBlock.Zstd.Ring

set_option autoImplicit false

namespace TaggedBlock.Zstd

structure Recent where
  first : Nat
  second : Nat
  third : Nat
deriving DecidableEq, Repr

namespace Recent

def start : Recent := ⟨1, 4, 8⟩

-- Brings the distance of that index to the front. The last index stands for one less than the
-- latest distance.
def toFront (recent : Recent) : (index : Nat) → Recent
  | 0 => recent
  | 1 => ⟨recent.second, recent.first, recent.third⟩
  | 2 => ⟨recent.third, recent.first, recent.second⟩
  | _ => ⟨recent.first - 1, recent.first, recent.second⟩

def push (recent : Recent) (distance : Nat) : Recent := ⟨distance, recent.first, recent.second⟩

-- The distances after one that is written as `value`. Without literals in front, the latest
-- distance would continue the copy before, so the indices begin with the next one.
def after (recent : Recent) (value : Nat) (literals : Nat) : Recent :=
  if 3 < value then recent.push (value - 3)
  else recent.toFront (value - if literals = 0 then 0 else 1)

end Recent

namespace Sequence

def literalSteps : Array Step :=
  (ladder 0 (List.replicate 16 0 ++ [1, 1, 1, 1, 2, 2, 3, 3, 4, 6, 7, 8, 9, 10, 11, 12, 13, 14, 15,
    16])).toArray

def copySteps : Array Step :=
  (ladder 3 (List.replicate 32 0 ++ [1, 1, 1, 1, 2, 2, 3, 3, 4, 4, 5, 7, 8, 9, 10, 11, 12, 13, 14,
    15, 16])).toArray

def distanceSteps : Array Step := (ladder 1 (List.range 32)).toArray

structure Alphabet where
  steps : Array Step
  usual : Fse.Table
  greatestLog : Nat

def literalAlphabet : Alphabet where
  steps := literalSteps
  usual := .ofCounts 6 ([4, 3] ++ List.replicate 11 2 ++ [1, 1, 1] ++ List.replicate 9 2 ++
    [3, 2] ++ List.replicate 5 1 ++ List.replicate 4 (-1))
  greatestLog := 9

def distanceAlphabet : Alphabet where
  steps := distanceSteps
  usual := .ofCounts 5 (List.replicate 6 1 ++ [2, 2, 2] ++ List.replicate 15 1 ++
    List.replicate 5 (-1))
  greatestLog := 8

def copyAlphabet : Alphabet where
  steps := copySteps
  usual := .ofCounts 6 ([1, 4, 3] ++ List.replicate 6 2 ++ List.replicate 37 1 ++
    List.replicate 7 (-1))
  greatestLog := 9

def Alphabet.readTable? (alphabet : Alphabet) (mode : Nat) (earlier : Option Fse.Table)
    (source : Bytes) : Option (Fse.Table × Bytes) :=
  match mode with
  | 0 => some (alphabet.usual, source)
  | 1 =>
    match source with
    | symbol :: rest =>
      if symbol.toNat < alphabet.steps.size then some (.single symbol.toNat, rest) else none
    | [] => none
  | 2 => Fse.Table.read? alphabet.greatestLog alphabet.steps.size source
  | _ => earlier.map (·, source)

structure Tables where
  literal : Fse.Table
  distance : Fse.Table
  copy : Fse.Table
deriving DecidableEq, Repr

def readTables? (earlier : Option Tables) (source : Bytes) : Option (Tables × Bytes) :=
  match source with
  | [] => none
  | modes :: source => do
    let modes := modes.toNat
    guard (modes % 4 = 0)
    let (literal, source) ←
      literalAlphabet.readTable? (modes / 64) (earlier.map (·.literal)) source
    let (distance, source) ←
      distanceAlphabet.readTable? (modes / 16 % 4) (earlier.map (·.distance)) source
    let (copy, source) ← copyAlphabet.readTable? (modes / 4 % 4) (earlier.map (·.copy)) source
    return (⟨literal, distance, copy⟩, source)

def readCount? (source : Bytes) : Option (Nat × Bytes) :=
  match source with
  | [] => none
  | first :: source =>
    let first := first.toNat
    if first < 128 then some (first, source)
    else if first < 255 then
      match source with
      | second :: rest => some ((first - 128) * 256 + second.toNat, rest)
      | [] => none
    else (splitBytes? 2 source).map fun (count, rest) => (littleEndian count + 0x7f00, rest)

structure States where
  literal : Nat
  distance : Nat
  copy : Nat

def States.start? (tables : Tables) (bits : List Bool) : Option (States × List Bool) := do
  let (literal, bits) ← tables.literal.start? bits
  let (distance, bits) ← tables.distance.start? bits
  let (copy, bits) ← tables.copy.start? bits
  return (⟨literal, distance, copy⟩, bits)

def States.step? (tables : Tables) (states : States) (bits : List Bool) :
    Option (States × List Bool) := do
  let (literal, bits) ← tables.literal.step? states.literal bits
  let (copy, bits) ← tables.copy.step? states.copy bits
  let (distance, bits) ← tables.distance.step? states.distance bits
  return (⟨literal, distance, copy⟩, bits)

def value? (steps : Array Step) (table : Fse.Table) (state : Nat) (bits : List Bool) :
    Option (Nat × List Bool) := do
  let step ← steps[(table.cell state).symbol]?
  let (above, bits) ← takeNumber? step.bits bits
  return (step.base + above, bits)

structure Progress where
  literals : Bytes
  recent : Recent
  out : Array UInt8

def Progress.follow? (progress : Progress) (ring : Ring) (literals length distance : Nat) :
    Option Progress := do
  let recent := progress.recent.after distance literals
  let (fresh, rest) ← splitBytes? literals progress.literals
  let out ← ring.copy? (progress.out ++ fresh) recent.first length
  return ⟨rest, recent, out⟩

def run? (tables : Tables) (ring : Ring) : (count : Nat) → States → List Bool → Progress →
    Option (Progress × List Bool)
  | 0, _, bits, progress => some (progress, bits)
  | count + 1, states, bits, progress => do
    let (distance, bits) ← value? distanceSteps tables.distance states.distance bits
    let (length, bits) ← value? copySteps tables.copy states.copy bits
    let (literals, bits) ← value? literalSteps tables.literal states.literal bits
    let progress ← progress.follow? ring literals length distance
    if count = 0 then return (progress, bits)
    let (states, bits) ← states.step? tables bits
    run? tables ring count states bits progress

end Sequence

end TaggedBlock.Zstd
