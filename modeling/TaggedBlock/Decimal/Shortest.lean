set_option autoImplicit false

namespace TaggedBlock.Decimal

-- A positive number `mantissa * 2 ^ exponent` with its neighbours' midpoints in quarters of a
-- unit of the mantissa.
structure Binary where
  mantissa : Nat
  exponent : Int
  closeBelow : Bool
deriving DecidableEq, Repr

def Binary.ofBits (bits : UInt64) : Binary :=
  let fraction := bits.toNat % 0x10000000000000
  let field : Nat := (bits.toNat >>> 52) % 0x800
  if field = 0 then ⟨fraction, -1074, false⟩
  else ⟨fraction + 0x10000000000000, (field : Int) - 1075, fraction = 0 && field > 1⟩

-- Whether `count * 10 ^ grid` reads back as the number; the midpoints do if the mantissa is
-- even.
def Binary.readsBack (binary : Binary) (count : Nat) (grid : Int) : Bool :=
  let power := binary.exponent - 2
  let scale := Nat.pow 10 (-grid).toNat <<< power.toNat
  let candidate := (count * Nat.pow 10 grid.toNat) <<< (-power).toNat
  let low := (4 * binary.mantissa - if binary.closeBelow then 1 else 2) * scale
  let high := (4 * binary.mantissa + 2) * scale
  if binary.mantissa % 2 = 0 then low ≤ candidate && candidate ≤ high
  else low < candidate && candidate < high

def Binary.divide (binary : Binary) (grid : Int) : Nat × Bool :=
  let top := (binary.mantissa * Nat.pow 10 (-grid).toNat) <<< binary.exponent.toNat
  let bottom := Nat.pow 10 grid.toNat <<< (-binary.exponent).toNat
  (top / bottom, 2 * (top % bottom) < bottom)

def Binary.onGrid? (binary : Binary) (grid : Int) : Option Nat :=
  let (below, nearBelow) := binary.divide grid
  match binary.readsBack below grid && below != 0, binary.readsBack (below + 1) grid with
  | true, true => some (if nearBelow then below else below + 1)
  | true, false => some below
  | false, true => some (below + 1)
  | false, false => none

def Binary.shortestFrom (binary : Binary) : (steps : Nat) → (grid : Int) → Nat × Int
  | 0, grid => ((binary.divide grid).1, grid)
  | steps + 1, grid =>
    match binary.onGrid? grid with
    | some count => (count, grid)
    | none => binary.shortestFrom steps (grid - 1)

def Binary.shortest (binary : Binary) : Nat × Int := binary.shortestFrom 633 308

structure Style where
  positionalFrom : Int
  positionalTo : Int

def writeExponent (exponent : Int) : String :=
  let digits := toString exponent.natAbs
  (if exponent < 0 then "e-" else "e+") ++ (if digits.length < 2 then "0" ++ digits else digits)

def write (style : Style) (count : Nat) (grid : Int) : String :=
  let digits := (toString count).toList
  let places := digits.length
  let first : Int := grid + places - 1
  if style.positionalFrom ≤ first ∧ first ≤ style.positionalTo then
    if 0 ≤ grid then String.ofList (digits ++ List.replicate grid.toNat '0' ++ ['.', '0'])
    else if 0 ≤ first then
      String.ofList (digits.take (first.toNat + 1) ++ '.' :: digits.drop (first.toNat + 1))
    else String.ofList ('0' :: '.' :: List.replicate (-first - 1).toNat '0' ++ digits)
  else
    let fraction := digits.drop 1
    String.ofList (digits.take 1 ++ if fraction.isEmpty then [] else '.' :: fraction) ++
      writeExponent first

def ofFloat (style : Style) (value : Float) : String :=
  let bits := value.toBits
  let sign := if bits.toNat < 0x8000000000000000 then "" else "-"
  let binary := Binary.ofBits bits
  if binary.mantissa = 0 then sign ++ "0.0"
  else
    let (count, grid) := binary.shortest
    sign ++ write style count grid

end TaggedBlock.Decimal
