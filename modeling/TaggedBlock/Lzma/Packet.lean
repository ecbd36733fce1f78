import TaggedBlock.Lzma.Decision

set_option autoImplicit false

namespace TaggedBlock.Lzma

inductive Packet where
  | literal (byte : UInt8)
  | again
  | recent (index length : Nat)
  | copy (distance length : Nat)
  | stop
deriving DecidableEq, Repr

structure Parameters where
  literalBits : Nat
  placeBits : Nat
  packetBits : Nat
deriving DecidableEq, Repr

def Parameters.number (parameters : Parameters) : Nat :=
  parameters.literalBits + 9 * (parameters.placeBits + 5 * parameters.packetBits)

def Parameters.ofNumber (number : Nat) : Parameters := ⟨number % 9, number / 9 % 5, number / 45⟩

namespace Context

def lengthSize : Nat := 2 + 16 * 8 + 16 * 8 + 256

def isCopy (state place : Nat) : Nat := 16 * state + place
def isRecent (state : Nat) : Nat := 192 + state
def isOlder (state : Nat) : Nat := 204 + state
def isThirdOrFourth (state : Nat) : Nat := 216 + state
def isFourth (state : Nat) : Nat := 228 + state
def isLongAgain (state place : Nat) : Nat := 240 + 16 * state + place
def distanceSlot (lengthClass : Nat) : Nat := 432 + 64 * lengthClass
def distanceTail : Nat := 688
def distanceAlign : Nat := 803
def copyLength : Nat := 819
def recentLength : Nat := copyLength + lengthSize
def literal (table : Nat) : Nat := recentLength + lengthSize + 768 * table

end Context

def Parameters.contexts (parameters : Parameters) : Nat :=
  Context.literal (1 <<< (parameters.literalBits + parameters.placeBits))

namespace Packet

open Decision

def shortestCopy : Nat := 2

def lengthBeyond (base place : Nat) : Decision Nat :=
  .adaptive base fun long =>
    if long then
      .adaptive (base + 1) fun longer =>
        if longer then do
          let node ← bitTree (base + 258) 8 1
          return node - 256 + 16
        else do
          let node ← bitTree (base + 130 + 8 * place) 3 1
          return node - 8 + 8
    else do
      let node ← bitTree (base + 2 + 8 * place) 3 1
      return node - 8

-- A distance less one: a slot, then the bits below the top two in one of three ways.
def distanceBelow (beyond : Nat) : Decision Nat := do
  let node ← bitTree (Context.distanceSlot (min beyond 3)) 6 1
  let slot := node - 64
  if slot < 4 then return slot
  let bits := slot / 2 - 1
  let top := (2 + slot % 2) <<< bits
  if slot < 14 then
    let low ← reverseTree (Context.distanceTail + top - slot) bits 1 1 0
    return top + low
  let middle ← directBits (bits - 4) 0
  let low ← reverseTree Context.distanceAlign 4 1 1 0
  return top + 16 * middle + low

def stopDistance : Nat := 0xffffffff

def literalQuestions (parameters : Parameters) (place : Nat) (previous : UInt8)
    (beside : Option UInt8) : Decision Packet :=
  let table := ((place % (1 <<< parameters.placeBits)) <<< parameters.literalBits) +
    (previous.toNat >>> (8 - parameters.literalBits))
  let base := Context.literal table
  let bits :=
    match beside with
    | some other => besideTree base other.toNat 8 1
    | none => bitTree base 8 1
  bits.bind fun node => .done (.literal (UInt8.ofNat (node - 256)))

def recentQuestions (place index : Nat) : Decision Packet := do
  let beyond ← lengthBeyond Context.recentLength place
  return .recent index (shortestCopy + beyond)

def copyQuestions (place : Nat) : Decision Packet := do
  let beyond ← lengthBeyond Context.copyLength place
  let below ← distanceBelow beyond
  if below = stopDistance then return .stop
  return .copy (below + 1) (shortestCopy + beyond)

def questions (parameters : Parameters) (state place : Nat) (previous : UInt8)
    (beside : Option UInt8) : Decision Packet :=
  let low := place % (1 <<< parameters.packetBits)
  .adaptive (Context.isCopy state low) fun copied =>
    if copied then
      .adaptive (Context.isRecent state) fun known =>
        if known then
          .adaptive (Context.isOlder state) fun older =>
            if older then
              .adaptive (Context.isThirdOrFourth state) fun late =>
                if late then
                  .adaptive (Context.isFourth state) fun last =>
                    recentQuestions low (if last then 3 else 2)
                else recentQuestions low 1
            else
              .adaptive (Context.isLongAgain state low) fun long =>
                if long then recentQuestions low 0 else .done .again
        else copyQuestions low
    else literalQuestions parameters place previous beside

end Packet

end TaggedBlock.Lzma
