import TaggedBlock.Lzma
import TaggedBlock.Proofs.Bytes
import TaggedBlock.Proofs.Lzma.RangeCoder

set_option autoImplicit false

namespace TaggedBlock.Lzma

def Packet.apply (dictionary : Nat) (history : History) (out : Array UInt8) :
    Packet → Except Error (Option (History × Array UInt8))
  | .literal byte => .ok (some (history.afterLiteral, out.push byte))
  | .again => (appendCopy dictionary out history.first 1).map fun out => some (history.afterAgain, out)
  | .recent index length =>
    (appendCopy dictionary out (history.afterRecent index).first length).map fun out =>
      some (history.afterRecent index, out)
  | .copy distance length =>
    (appendCopy dictionary out distance length).map fun out =>
      some (history.afterCopy distance, out)
  | .stop => .ok none

theorem Header.complete_unknown (header : Header) (unknown : header.size = none)
    (decoder : RangeDecoder) (produced : Nat) :
    header.complete decoder produced = true ↔ decoder.Spent := by
  rw [complete, unknown, Bool.and_eq_true, beq_iff_eq, List.isEmpty_iff, RangeDecoder.Spent]

structure Reading where
  history : History
  model : Model
  decoder : RangeDecoder
  out : Array UInt8

inductive Step where
  | stopped (out : Array UInt8)
  | failed (error : Error)
  | next (reading : Reading)

namespace Reading

def first (header : Header) (decoder : RangeDecoder) : Reading :=
  ⟨.start, Model.fresh header.parameters.contexts, decoder, #[]⟩

def isComplete (header : Header) (reading : Reading) : Bool :=
  header.complete reading.decoder reading.out.size

def questions (header : Header) (reading : Reading) : Decision Packet :=
  Packet.questions header.parameters reading.history.state reading.out.size
    (reading.out[reading.out.size - 1]?.getD 0) (besideByte reading.history reading.out)

def take (header : Header) (reading : Reading) (packet : Packet) (model : Model)
    (decoder : RangeDecoder) : Step :=
  match packet.apply header.dictionary reading.history reading.out with
  | .error error => .failed error
  | .ok (some (history, out)) => .next ⟨history, model, decoder, out⟩
  | .ok none =>
    if decoder.code = 0 ∧ decoder.rest.isEmpty then .stopped reading.out else .failed .dataAfterEnd

def advance (header : Header) (reading : Reading) : Step :=
  if reading.isComplete header then .stopped reading.out
  else
    match (reading.questions header).read reading.model reading.decoder with
    | .error error => .failed error
    | .ok (packet, model, decoder) => reading.take header packet model decoder

def finish (header : Header) (reading : Reading) : Except Error (Array UInt8) :=
  readPackets header reading.history reading.model reading.decoder reading.out

theorem finish_advance (header : Header) (reading : Reading) :
    reading.finish header =
      match reading.advance header with
      | .stopped out => .ok out
      | .failed error => .error error
      | .next reading => reading.finish header := by
  rw [finish, readPackets]
  by_cases complete : header.complete reading.decoder reading.out.size
  · rw [if_pos complete, advance, isComplete, if_pos complete]
  · rw [if_neg complete, advance, isComplete, if_neg complete]
    split
    all_goals
      rename_i read
      change (reading.questions header).read reading.model reading.decoder = _ at read
      rw [read]
    · rfl
    · simp only [take, Packet.apply]
      cases appendCopy header.dictionary reading.out reading.history.first 1 with
      | error => rfl
      | ok => rfl
    · rename_i index length _ _
      simp only [take, Packet.apply]
      cases appendCopy header.dictionary reading.out (reading.history.afterRecent index).first
        length with
      | error => rfl
      | ok => rfl
    · rename_i distance length _ _
      simp only [take, Packet.apply]
      cases appendCopy header.dictionary reading.out distance length with
      | error => rfl
      | ok => rfl
    · rename_i decoder
      simp only [take, Packet.apply]
      by_cases used : decoder.code = 0 ∧ decoder.rest.isEmpty
      · rw [if_pos used, if_pos used]
      · rw [if_neg used, if_neg used]

section Advance

variable {header : Header} {reading : Reading} {decoder : RangeDecoder} {model : Model}

theorem advance_read {packet : Packet} (incomplete : reading.isComplete header = false)
    (read : (reading.questions header).read reading.model reading.decoder =
      .ok (packet, model, decoder)) :
    reading.advance header = reading.take header packet model decoder := by
  rw [advance, incomplete, read]
  rfl

theorem advance_unread {error : Error} (incomplete : reading.isComplete header = false)
    (read : (reading.questions header).read reading.model reading.decoder = .error error) :
    reading.advance header = .failed error := by
  rw [advance, incomplete, read]
  rfl

end Advance

theorem finish_complete {header : Header} {reading : Reading}
    (complete : reading.isComplete header = true) : reading.finish header = .ok reading.out := by
  rw [finish_advance, advance, if_pos complete]

theorem finish_spent {header : Header} {reading : Reading} (unknown : header.size = none)
    (spent : reading.decoder.Spent) : reading.finish header = .ok reading.out :=
  finish_complete ((header.complete_unknown unknown _ _).mpr spent)

theorem incomplete_of_unspent {header : Header} {reading : Reading} (unknown : header.size = none)
    (unspent : ¬ reading.decoder.Spent) : reading.isComplete header = false :=
  Bool.eq_false_iff.mpr (mt (header.complete_unknown unknown _ _).mp unspent)

theorem advance_eq_next {header : Header} {reading next : Reading}
    (step : reading.advance header = .next next) :
    reading.isComplete header = false ∧
      ∃ packet, (reading.questions header).read reading.model reading.decoder =
          .ok (packet, next.model, next.decoder) ∧
        packet.apply header.dictionary reading.history reading.out =
          .ok (some (next.history, next.out)) := by
  rw [advance] at step
  split at step
  · cases step
  · rename_i incomplete
    refine ⟨Bool.eq_false_iff.mpr incomplete, ?_⟩
    split at step
    · cases step
    · rename_i packet model decoder read
      rw [take] at step
      split at step
      · cases step
      · rename_i history out applied
        cases step
        exact ⟨packet, read, applied⟩
      · split at step
        · cases step
        · cases step

theorem left_advance {header : Header} {reading next : Reading}
    (step : reading.advance header = .next next) : next.decoder.left < reading.decoder.left := by
  obtain ⟨-, packet, read, -⟩ := advance_eq_next step
  exact Decision.left_read_adaptive read

-- Every step takes input, so what holds if it holds after the next step holds of all readings.
theorem induction_advance (header : Header) {motive : Reading → Prop}
    (step : ∀ reading : Reading,
      (∀ next, reading.advance header = .next next → motive next) → motive reading)
    (reading : Reading) : motive reading :=
  step reading fun next _ => induction_advance header step next
termination_by reading.decoder.left
decreasing_by exact left_advance ‹_›

theorem prefix_copy_back (out : Array UInt8) (distance length : Nat)
    (within : 0 < distance ∧ distance ≤ out.size) :
    out.toList <+: (copyBack out distance length within).toList := by
  induction length generalizing out with
  | zero => exact List.prefix_refl _
  | succ length ih =>
      have inBounds : out.size - distance < out.size := by omega
      have pushed : out.toList <+: (out.push out[out.size - distance]).toList := by
        rw [Array.toList_push]
        exact List.prefix_append _ _
      exact pushed.trans (ih _ _)

theorem prefix_append_copy {dictionary distance length : Nat} {out grown : Array UInt8}
    (copied : appendCopy dictionary out distance length = .ok grown) :
    out.toList <+: grown.toList := by
  rw [appendCopy] at copied
  split at copied
  · split at copied
    · cases copied
      exact prefix_copy_back _ _ _ _
    · cases copied
  · cases copied

theorem prefix_apply {packet : Packet} {dictionary : Nat} {history next : History}
    {out grown : Array UInt8}
    (applied : packet.apply dictionary history out = .ok (some (next, grown))) :
    out.toList <+: grown.toList := by
  have copied : ∀ {distance length : Nat} {after : History},
      (appendCopy dictionary out distance length).map (fun out => some (after, out)) =
        .ok (some (next, grown)) → out.toList <+: grown.toList := by
    intro distance length after mapped
    cases copy : appendCopy dictionary out distance length with
    | error error =>
        rw [copy] at mapped
        cases mapped
    | ok more =>
        rw [copy] at mapped
        cases mapped
        exact prefix_append_copy copy
  cases packet with
  | literal byte =>
      cases applied
      rw [Array.toList_push]
      exact List.prefix_append _ _
  | again => exact copied applied
  | recent index length => exact copied applied
  | copy distance length => exact copied applied
  | stop => cases applied

theorem prefix_advance {header : Header} {reading next : Reading}
    (step : reading.advance header = .next next) : reading.out.toList <+: next.out.toList := by
  obtain ⟨-, packet, -, applied⟩ := advance_eq_next step
  exact prefix_apply applied

theorem stopped_out {header : Header} {reading : Reading} {out : Array UInt8}
    (step : reading.advance header = .stopped out) : out = reading.out := by
  rw [advance] at step
  split at step
  · cases step
    rfl
  · split at step
    · cases step
    · rw [take] at step
      split at step
      · cases step
      · cases step
      · split at step
        · cases step
          rfl
        · cases step

theorem prefix_finish {header : Header} (reading : Reading) {out : Array UInt8}
    (finished : reading.finish header = .ok out) : reading.out.toList <+: out.toList := by
  induction reading using induction_advance header with
  | step reading ih =>
      rw [finish_advance] at finished
      split at finished
      · rename_i stop step
        cases finished
        cases stopped_out step
        exact List.prefix_refl _
      · cases finished
      · rename_i next step
        exact (prefix_advance step).trans (ih next step finished)

end Reading

theorem Header.parse_plain (rest : Bytes) : parse (plain.render ++ rest) = .ok (plain, rest) := by
  have dictionary := little_endian_little_endian_digits 4 plain.dictionary (by decide)
  have size := little_endian_little_endian_digits 8 unknownSize (by decide)
  have small : (UInt8.ofNat plain.parameters.number).toNat < choices := by decide
  rw [render, List.cons_append, List.cons_append, List.append_assoc, parse]
  simp only [if_pos small, split_bytes_digits, dictionary]
  change Except.ok (Header.mk _ _ (if littleEndian (littleEndianDigits 8 unknownSize) = _ then _
    else _), _) = _
  rw [if_pos size]
  rfl

def conclude (header : Header) (run : Except Error (Array UInt8)) : Except Error Bytes :=
  match run with
  | .error error => .error error
  | .ok out =>
    match header.size with
    | none => .ok out.toList
    | some size =>
      if out.size = size then .ok out.toList else .error (.sizeMismatch size out.size)

theorem decode_started {payload rest : Bytes} {header : Header} {decoder : RangeDecoder}
    (parsed : Header.parse payload = .ok (header, rest))
    (started : RangeDecoder.start? rest = some decoder) :
    decode payload = conclude header ((Reading.first header decoder).finish header) := by
  rw [decode, parsed]
  simp only [started]
  rfl

theorem decode_unknown {payload rest : Bytes} {header : Header} {decoder : RangeDecoder}
    (parsed : Header.parse payload = .ok (header, rest))
    (started : RangeDecoder.start? rest = some decoder) (unknown : header.size = none) :
    decode payload = ((Reading.first header decoder).finish header).map Array.toList := by
  rw [decode_started parsed started]
  cases (Reading.first header decoder).finish header with
  | error error => rfl
  | ok out =>
      simp only [conclude, unknown]
      rfl

inductive Passes (header : Header) : Reading → Reading → Prop where
  | here (reading : Reading) : Passes header reading reading
  | further (reading next last : Reading) (step : reading.advance header = .next next)
      (rest : Passes header next last) : Passes header reading last

def Boundary (payload : Bytes) (header : Header) (reading : Reading) : Prop :=
  ∃ rest decoder, Header.parse payload = .ok (header, rest) ∧
    RangeDecoder.start? rest = some decoder ∧ Passes header (.first header decoder) reading

theorem boundary_iff {payload rest : Bytes} {header : Header} {decoder : RangeDecoder}
    (parsed : Header.parse payload = .ok (header, rest))
    (started : RangeDecoder.start? rest = some decoder) (reading : Reading) :
    Boundary payload header reading ↔ Passes header (.first header decoder) reading := by
  refine ⟨?_, fun passes => ⟨rest, decoder, parsed, started, passes⟩⟩
  rintro ⟨other, begun, found, begins, passes⟩
  cases found.symm.trans parsed
  cases begins.symm.trans started
  exact passes

end TaggedBlock.Lzma
