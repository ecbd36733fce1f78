import TaggedBlock.Proofs.BitReader
import TaggedBlock.Proofs.Lzma.Run

set_option autoImplicit false

namespace TaggedBlock.Lzma

def highFirst : (count value : Nat) → List Bool
  | 0, _ => []
  | count + 1, value => value.testBit count :: highFirst count value

namespace Decision

theorem answer_bind {α β : Type} {decision : Decision α} {first : List Bool} {value : α}
    (second : List Bool) (next : α → Decision β) (answer : decision.answer? first = some value) :
    (decision.bind next).answer? (first ++ second) = (next value).answer? second := by
  induction decision generalizing first with
  | done =>
      cases first with
      | nil => cases answer; rfl
      | cons => cases answer
  | adaptive context question ih =>
      cases first with
      | nil => cases answer
      | cons bit first => exact ih bit answer
  | direct question ih =>
      cases first with
      | nil => cases answer
      | cons bit first => exact ih bit answer

theorem answer_bit_tree (base count node value : Nat) :
    (bitTree base count node).answer? (highFirst count value) =
      some (node * 1 <<< count + value % (1 <<< count)) := by
  induction count generalizing node with
  | zero =>
      rw [bitTree, highFirst, answer?, Nat.shiftLeft_zero, Nat.mod_one, Nat.mul_one, Nat.add_zero]
  | succ count ih =>
      have bit : value >>> count % (1 <<< 1) = (value.testBit count).toNat := by
        rw [Nat.toNat_testBit, Nat.shiftRight_eq_div_pow]
        rfl
      have double : node * (1 <<< count) <<< 1 = 2 * node * 1 <<< count := by
        rw [Nat.shiftLeft_eq _ 1, Nat.mul_comm 2 node, Nat.mul_assoc, Nat.pow_one,
          Nat.mul_comm (1 <<< count)]
      rw [bitTree, highFirst, answer?, ih, ← BitReader.mod_shift_left_add, bit, Nat.shiftLeft_add,
        double, Nat.add_mul, Nat.mul_comm (Bool.toNat _), Nat.add_assoc, Nat.add_comm (value % _)]

end Decision

namespace Packet

theorem answer_literal (place : Nat) (previous byte : UInt8) :
    (questions Header.plain.parameters 0 place previous none).answer? (literalAnswers byte) =
      some (.literal byte) := by
  have bits := Decision.answer_bit_tree (Context.literal
    ((place % (1 <<< Header.plain.parameters.placeBits)) <<< Header.plain.parameters.literalBits +
      (previous.toNat >>> (8 - Header.plain.parameters.literalBits)))) 8 1 byte.toNat
  have answer := Decision.answer_bind []
    (fun node => Decision.done (Packet.literal (UInt8.ofNat (node - 256)))) bits
  have value : 1 * 1 <<< 8 + byte.toNat % (1 <<< 8) - 256 = byte.toNat := by
    have bound := byte.toNat_lt
    change 1 * 256 + byte.toNat % 256 - 256 = _
    omega
  rw [value, UInt8.ofNat_toNat, List.append_nil] at answer
  exact answer

theorem answer_stop (place : Nat) (previous : UInt8) :
    (questions Header.plain.parameters 0 place previous none).answer? stopAnswers = some .stop := rfl

end Packet

namespace RangeDecoder

theorem spent_of_follows {decoder : RangeDecoder} {encoder : RangeEncoder}
    (sound : encoder.Sound) (follows : decoder.Follows encoder.span encoder.finish) :
    decoder.Spent := by
  have code := follows.code
  rw [RangeEncoder.front_finish sound, RangeEncoder.span] at code
  refine ⟨?_, ?_⟩
  · simp only at code
    omega
  · rw [follows.rest]
    exact List.drop_eq_nil_of_le (Nat.le_of_eq encoder.length_finish)

end RangeDecoder

namespace Reading

def amid (model : Model) (decoder : RangeDecoder) (out : Array UInt8) : Reading :=
  ⟨.start, model, decoder, out⟩

def last (out : Array UInt8) : UInt8 := out[out.size - 1]?.getD 0

def Ends (model : Model) (raw : Bytes) (out : Array UInt8) (decoder : RangeDecoder) : Prop :=
  (amid model decoder out).finish .plain = .ok (out ++ raw) ∧
    ∀ later, Passes .plain (amid model decoder out) later → later.isComplete .plain = false

theorem amid_advance {model after : Model} {out : Array UInt8} {decoder final : RangeDecoder}
    {packet : Packet} (unspent : ¬ decoder.Spent)
    (read : (Packet.questions Header.plain.parameters 0 out.size (last out) none).read model
      decoder = .ok (packet, after, final)) :
    (amid model decoder out).isComplete .plain = false ∧
      (amid model decoder out).advance .plain =
        (amid model decoder out).take .plain packet after final := by
  have incomplete : (amid model decoder out).isComplete .plain = false :=
    incomplete_of_unspent rfl unspent
  exact ⟨incomplete, advance_read incomplete read⟩

theorem ends_stop {model after : Model} {out : Array UInt8} {decoder final : RangeDecoder}
    (unspent : ¬ decoder.Spent)
    (read : (Packet.questions Header.plain.parameters 0 out.size (last out) none).read model
      decoder = .ok (.stop, after, final))
    (spent : final.Spent) : Ends model [] out decoder := by
  obtain ⟨incomplete, step⟩ := amid_advance unspent read
  have used : final.code = 0 ∧ final.rest.isEmpty := ⟨spent.1, List.isEmpty_iff.mpr spent.2⟩
  have stopped : (amid model decoder out).advance .plain = .stopped out := by
    rw [step, take]
    simp only [Packet.apply, if_pos used]
    rfl
  refine ⟨?_, ?_⟩
  · rw [finish_advance, stopped]
    rfl
  · intro later passes
    cases passes with
    | here => exact incomplete
    | further _ next _ onward => cases stopped.symm.trans onward

theorem ends_literal {model after : Model} {out : Array UInt8} {decoder final : RangeDecoder}
    {byte : UInt8} {raw : Bytes}
    (read : (Packet.questions Header.plain.parameters 0 out.size (last out) none).read model
      decoder = .ok (.literal byte, after, final))
    (ends : Ends after raw (out.push byte) final) : Ends model (byte :: raw) out decoder := by
  have unspent : ¬ decoder.Spent := by
    intro spent
    have still := (Header.complete_unknown .plain rfl final (out.push byte).size).mpr
      (Decision.spent_read spent read)
    cases still.symm.trans (ends.2 _ (.here _))
  obtain ⟨incomplete, step⟩ := amid_advance unspent read
  have next : (amid model decoder out).advance .plain = .next (amid after final (out.push byte)) :=
    step
  refine ⟨?_, ?_⟩
  · rw [finish_advance, next]
    exact ends.1
  · intro later passes
    cases passes with
    | here => exact incomplete
    | further _ middle _ onward rest =>
        cases next.symm.trans onward
        exact ends.2 later rest

end Reading

theorem last_push (out : Array UInt8) (byte : UInt8) : Reading.last (out.push byte) = byte := by
  rw [Reading.last, Array.size_push, Nat.add_sub_cancel, Array.getElem?_push_size]
  rfl

theorem write_packets_cons (byte : UInt8) (raw : Bytes) (place : Nat) (previous : UInt8)
    (model : Model) (encoder : RangeEncoder) :
    writePackets (byte :: raw) place previous model encoder =
      writePackets raw (place + 1) byte
        ((Packet.questions Header.plain.parameters 0 place previous none).write
          (literalAnswers byte) model encoder).1
        ((Packet.questions Header.plain.parameters 0 place previous none).write
          (literalAnswers byte) model encoder).2 := by
  rw [writePackets]

theorem write_packets_leads (raw : Bytes) (out : Array UInt8) (model : Model)
    {encoder : RangeEncoder} (sound : encoder.Sound) :
    encoder.Leads (writePackets raw out.size (Reading.last out) model encoder) fun decoder final =>
      final.Spent → Reading.Ends model raw out decoder := by
  -- The reader's output is what the encoder has dealt with, so both ask in the same contexts.
  induction raw generalizing out model encoder with
  | nil =>
      have stop := Decision.write_leads_unspent (Packet.answer_stop out.size (Reading.last out)) model sound
      exact RangeEncoder.leads_mono stop fun decoder final read spent =>
        Reading.ends_stop read.2 read.1 spent
  | cons byte raw ih =>
      have first := Decision.write_leads (Packet.answer_literal out.size (Reading.last out) byte)
        model sound
      have others := ih (out.push byte) ((Packet.questions Header.plain.parameters 0 out.size
        (Reading.last out) none).write (literalAnswers byte) model encoder).1 first.1
      rw [last_push, Array.size_push] at others
      rw [write_packets_cons]
      exact RangeEncoder.leads_trans first others fun decoder middle final read ends spent =>
        Reading.ends_literal read (ends spent)

theorem decode_encode (raw : Bytes) :
    decode (encode raw) = .ok raw ∧
      ∀ header reading, Boundary (encode raw) header reading →
        reading.isComplete header = false := by
  have leads := write_packets_leads raw #[] (Model.fresh Header.plain.parameters.contexts)
    RangeEncoder.sound_start
  have size : (#[] : Array UInt8).size = 0 := rfl
  have last : Reading.last #[] = 0 := rfl
  rw [size, last] at leads
  obtain ⟨sound, reads⟩ := leads
  obtain ⟨holds, reads⟩ := reads _ (RangeEncoder.holds_finish sound)
  obtain ⟨decoder, started, follows⟩ := start_follows holds
  obtain ⟨final, ends, following⟩ := reads decoder follows
  obtain ⟨finished, boundaries⟩ := ends (RangeDecoder.spent_of_follows sound following)
  have first : Reading.first .plain decoder =
      .amid (Model.fresh Header.plain.parameters.contexts) decoder #[] := rfl
  refine ⟨?_, ?_⟩
  · rw [encode, decode_started (Header.parse_plain _) started, first, finished]
    simp only [conclude, Header.plain, Array.toList_appendList, List.nil_append]
  · rintro header reading ⟨rest, other, parsed, begun, passes⟩
    rw [encode, Header.parse_plain] at parsed
    cases parsed
    cases started.symm.trans begun
    exact boundaries reading passes

end TaggedBlock.Lzma
