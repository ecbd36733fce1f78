import TaggedBlock.Lzma.Packet
import TaggedBlock.Lzma.RangeEncoder

set_option autoImplicit false

namespace TaggedBlock.Lzma

structure Header where
  parameters : Parameters
  dictionary : Nat
  size : Option Nat
deriving DecidableEq, Repr

namespace Header

def choices : Nat := 225

def smallestDictionary : Nat := 4096

def unknownSize : Nat := 0xffffffffffffffff

def parse (payload : Bytes) : Except Error (Header × Bytes) :=
  match payload with
  | [] => .error .headerTooShort
  | properties :: rest =>
    if properties.toNat < choices then
      match splitBytes? 4 rest with
      | none => .error .headerTooShort
      | some (dictionary, rest) =>
        match splitBytes? 8 rest with
        | none => .error .headerTooShort
        | some (size, rest) =>
          let written := littleEndian size
          .ok (⟨.ofNumber properties.toNat, max (littleEndian dictionary) smallestDictionary,
            if written = unknownSize then none else some written⟩, rest)
    else .error (.invalidProperties properties.toNat)

def plain : Header := ⟨⟨3, 0, 2⟩, 0x800000, none⟩

def render (header : Header) : Bytes :=
  UInt8.ofNat header.parameters.number :: littleEndianDigits 4 header.dictionary ++
    littleEndianDigits 8 (header.size.getD unknownSize)

end Header

-- What the next packet's meaning depends on besides the output: a summary of the latest kinds of
-- packet and the last four distances.
structure History where
  state : Nat
  first : Nat
  second : Nat
  third : Nat
  fourth : Nat
deriving DecidableEq, Repr

namespace History

def start : History := ⟨0, 1, 1, 1, 1⟩

def firstCopyState : Nat := 7

def afterLiteral (history : History) : History :=
  { history with
    state :=
      if history.state < 4 then 0
      else if history.state < 10 then history.state - 3
      else history.state - 6 }

def afterAgain (history : History) : History :=
  { history with state := if history.state < firstCopyState then 9 else 11 }

def afterRecent (history : History) (index : Nat) : History :=
  let state := if history.state < firstCopyState then 8 else 11
  match index with
  | 0 => { history with state }
  | 1 => { history with state, first := history.second, second := history.first }
  | 2 =>
    { history with state, first := history.third, second := history.first, third := history.second }
  | _ =>
    { state, first := history.fourth, second := history.first, third := history.second,
      fourth := history.third }

def afterCopy (history : History) (distance : Nat) : History :=
  { state := if history.state < firstCopyState then 7 else 10
    first := distance, second := history.first, third := history.second, fourth := history.third }

end History

def appendCopy (dictionary : Nat) (out : Array UInt8) (distance length : Nat) :
    Except Error (Array UInt8) :=
  if distance ≤ dictionary then
    if within : 0 < distance ∧ distance ≤ out.size then .ok (copyBack out distance length within)
    else .error (.beyondOutput distance out.size)
  else .error (.beyondDictionary distance dictionary)

-- The byte at the latest distance, which a literal right after a copy is likely to differ from.
def besideByte (history : History) (out : Array UInt8) : Option UInt8 :=
  if History.firstCopyState ≤ history.state then out[out.size - history.first]? else none

def Header.complete (header : Header) (decoder : RangeDecoder) (produced : Nat) : Bool :=
  match header.size with
  | some size => size ≤ produced
  | none => decoder.code == 0 && decoder.rest.isEmpty

def readPackets (header : Header) (history : History) (model : Model) (decoder : RangeDecoder)
    (out : Array UInt8) : Except Error (Array UInt8) :=
  if header.complete decoder out.size then .ok out
  else
    match _ : (Packet.questions header.parameters history.state out.size
        (out[out.size - 1]?.getD 0) (besideByte history out)).read model decoder with
    | .error error => .error error
    | .ok (.literal byte, model, decoder) =>
      readPackets header history.afterLiteral model decoder (out.push byte)
    | .ok (.again, model, decoder) =>
      match appendCopy header.dictionary out history.first 1 with
      | .error error => .error error
      | .ok out => readPackets header history.afterAgain model decoder out
    | .ok (.recent index length, model, decoder) =>
      let history := history.afterRecent index
      match appendCopy header.dictionary out history.first length with
      | .error error => .error error
      | .ok out => readPackets header history model decoder out
    | .ok (.copy distance length, model, decoder) =>
      match appendCopy header.dictionary out distance length with
      | .error error => .error error
      | .ok out => readPackets header (history.afterCopy distance) model decoder out
    | .ok (.stop, _, decoder) =>
      if decoder.code = 0 ∧ decoder.rest.isEmpty then .ok out else .error .dataAfterEnd
termination_by decoder.left
decreasing_by
  all_goals exact Decision.left_read_adaptive ‹_›

def decode (payload : Bytes) : Except Error Bytes :=
  match Header.parse payload with
  | .error error => .error error
  | .ok (header, rest) =>
    match RangeDecoder.start? rest with
    | none => .error .streamTooShort
    | some decoder =>
      match readPackets header .start (Model.fresh header.parameters.contexts) decoder #[] with
      | .error error => .error error
      | .ok out =>
        match header.size with
        | none => .ok out.toList
        | some size =>
          if out.size = size then .ok out.toList else .error (.sizeMismatch size out.size)

def literalAnswers (byte : UInt8) : List Bool :=
  false :: [7, 6, 5, 4, 3, 2, 1, 0].map byte.toNat.testBit

def stopAnswers : List Bool :=
  [true, false] ++ List.replicate 4 false ++ List.replicate 36 true

def writePackets (raw : Bytes) (place : Nat) (previous : UInt8) (model : Model)
    (encoder : RangeEncoder) : RangeEncoder :=
  let questions := Packet.questions Header.plain.parameters 0 place previous none
  match raw with
  | [] => (questions.write stopAnswers model encoder).2
  | byte :: raw =>
    let (model, encoder) := questions.write (literalAnswers byte) model encoder
    writePackets raw (place + 1) byte model encoder

def encode (raw : Bytes) : Bytes :=
  Header.plain.render ++
    (writePackets raw 0 0 (Model.fresh Header.plain.parameters.contexts) .start).finish

end TaggedBlock.Lzma
