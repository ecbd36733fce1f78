import TaggedBlock.Proofs.Bytes
import TaggedBlock.Proofs.Lzma.Run
import TaggedBlock.Proofs.Results

set_option autoImplicit false

namespace TaggedBlock.Lzma

namespace RangeDecoder

def extend (decoder : RangeDecoder) (missing : Bytes) : RangeDecoder :=
  ⟨decoder.range, decoder.code, decoder.rest ++ missing, decoder.lower, decoder.upper⟩

section Narrow

variable {range code : Nat} {rest missing : Bytes} {lower : 0x10000 ≤ range}
  {upper : range < 0x100000000}

theorem narrow_extend {decoder : RangeDecoder}
    (narrowed : narrow range code rest lower upper = .ok decoder) :
    narrow range code (rest ++ missing) lower upper = .ok (decoder.extend missing) := by
  rw [narrow] at narrowed ⊢
  split
  · rename_i wide
    rw [dif_pos wide] at narrowed
    cases narrowed
    rfl
  · rename_i small
    rw [dif_neg small] at narrowed
    cases rest with
    | nil => cases narrowed
    | cons byte rest =>
        cases narrowed
        rfl

theorem narrow_short {error : Error} {decoder : RangeDecoder}
    (failed : narrow range code rest lower upper = .error error)
    (narrowed : narrow range code (rest ++ missing) lower upper = .ok decoder) :
    decoder.rest.length < missing.length := by
  rw [narrow] at failed narrowed
  split at failed
  · cases failed
  · rename_i small
    rw [dif_neg small] at narrowed
    cases rest with
    | nil =>
        cases missing with
        | nil => cases narrowed
        | cons byte missing =>
            cases narrowed
            exact Nat.lt_succ_self _
    | cons byte rest => cases failed

end Narrow

section Choose

variable {decoder next : RangeDecoder} {shares : Shares} {bit : Bool} {missing : Bytes}

theorem choose_side (decoder : RangeDecoder) (shares : Shares) :
    ∃ bit range code, ∃ (lower : 0x10000 ≤ range) (upper : range < 0x100000000), ∀ rest,
      choose ⟨decoder.range, decoder.code, rest, decoder.lower, decoder.upper⟩ shares =
        (narrow range code rest lower upper).map (bit, ·) := by
  have sum := shares.upper
  by_cases side : decoder.code < shares.zero
  · refine ⟨false, shares.zero, decoder.code, shares.zeroLower, by omega, fun rest => ?_⟩
    rw [choose, if_pos side]
  · refine ⟨true, shares.one, decoder.code - shares.zero, shares.oneLower, by omega,
      fun rest => ?_⟩
    rw [choose, if_neg side]

theorem choose_extend (missing : Bytes) (chosen : decoder.choose shares = .ok (bit, next)) :
    (decoder.extend missing).choose shares = .ok (bit, next.extend missing) := by
  obtain ⟨side, range, code, lower, upper, choice⟩ := decoder.choose_side shares
  obtain ⟨inner, narrowed, same⟩ := map_eq_ok_iff.mp ((choice decoder.rest).symm.trans chosen)
  cases same
  exact (choice (decoder.rest ++ missing)).trans
    (congrArg (Except.map (bit, ·)) (narrow_extend narrowed))

theorem choose_short {error : Error} (failed : decoder.choose shares = .error error)
    (chosen : (decoder.extend missing).choose shares = .ok (bit, next)) :
    next.rest.length < missing.length := by
  obtain ⟨side, range, code, lower, upper, choice⟩ := decoder.choose_side shares
  have short := map_eq_error_iff.mp ((choice decoder.rest).symm.trans failed)
  obtain ⟨inner, narrowed, same⟩ := map_eq_ok_iff.mp ((choice (decoder.rest ++ missing)).symm.trans chosen)
  cases same
  exact narrow_short short narrowed

end Choose

theorem rest_of_left {before after : RangeDecoder} (taken : after.left ≤ before.left) :
    after.rest.length ≤ before.rest.length := by
  have upper := before.upper
  simp only [left] at taken
  omega

end RangeDecoder

section Read

variable {α : Type} {decision : Decision α} {model after : Model} {decoder final : RangeDecoder}
  {value : α} {missing : Bytes}

theorem read_extend (missing : Bytes)
    (read : decision.read model decoder = .ok (value, after, final)) :
    decision.read model (decoder.extend missing) = .ok (value, after, final.extend missing) := by
  induction decision, model, decoder using Decision.induction_read with
  | done =>
      cases read
      rfl
  | question decision model decoder shares next after reads ih =>
      rw [reads decoder rfl] at read
      rw [reads (decoder.extend missing) rfl]
      cases chosen : decoder.choose shares with
      | error error =>
          rw [chosen] at read
          cases read
      | ok taken =>
          rw [chosen] at read
          rw [RangeDecoder.choose_extend missing chosen]
          exact ih _ _ read

theorem read_short {error : Error} (failed : decision.read model decoder = .error error)
    (read : decision.read model (decoder.extend missing) = .ok (value, after, final)) :
    final.rest.length < missing.length := by
  induction decision, model, decoder using Decision.induction_read with
  | done => cases failed
  | question decision model decoder shares next after reads ih =>
      rw [reads decoder rfl] at failed
      rw [reads (decoder.extend missing) rfl] at read
      cases chosen : decoder.choose shares with
      | error lost =>
          cases extended : (decoder.extend missing).choose shares with
          | error error =>
              rw [extended] at read
              cases read
          | ok taken =>
              rw [extended] at read
              have short := RangeDecoder.choose_short chosen extended
              have later := RangeDecoder.rest_of_left (Decision.left_read read)
              exact Nat.lt_of_le_of_lt later short
      | ok taken =>
          rw [chosen] at failed
          rw [RangeDecoder.choose_extend missing chosen] at read
          exact ih _ _ failed read

end Read

namespace Reading

def extend (reading : Reading) (missing : Bytes) : Reading :=
  ⟨reading.history, reading.model, reading.decoder.extend missing, reading.out⟩

-- A cut right here goes unnoticed: the code is zero, and all that is left is what is missing.
def Silent (missing : Bytes) (reading : Reading) : Prop :=
  reading.decoder.code = 0 ∧ reading.decoder.rest = missing

theorem silent_extend {reading : Reading} {missing : Bytes} :
    (reading.extend missing).Silent missing ↔ reading.decoder.Spent := by
  simp only [Silent, extend, RangeDecoder.extend, RangeDecoder.Spent, List.append_left_eq_self]

section Advance

variable {header : Header} {reading next : Reading} {missing : Bytes}

theorem extend_incomplete (unknown : header.size = none) (filled : missing ≠ []) :
    (reading.extend missing).isComplete header = false := by
  exact incomplete_of_unspent unknown fun spent => filled (List.append_eq_nil_iff.mp spent.2).2

theorem advance_extend (incomplete : (reading.extend missing).isComplete header = false)
    (step : reading.advance header = .next next) :
    (reading.extend missing).advance header = .next (next.extend missing) := by
  obtain ⟨-, packet, read, applied⟩ := advance_eq_next step
  rw [advance_read incomplete (read_extend missing read), take]
  simp only [extend, applied]

end Advance

theorem rest_passes {header : Header} {reading later : Reading}
    (passes : Passes header reading later) :
    later.decoder.rest.length ≤ reading.decoder.rest.length := by
  induction passes with
  | here => exact Nat.le_refl _
  | further reading next last step rest ih =>
      have taken := Nat.le_of_lt (left_advance step)
      exact Nat.le_trans ih (RangeDecoder.rest_of_left taken)

theorem prefix_passes {header : Header} {reading later : Reading}
    (passes : Passes header reading later) : reading.out.toList <+: later.out.toList := by
  induction passes with
  | here => exact List.prefix_refl _
  | further reading next last step rest ih => exact (prefix_advance step).trans ih

theorem finish_passes {header : Header} {reading later : Reading}
    (passes : Passes header reading later) : reading.finish header = later.finish header := by
  induction passes with
  | here => rfl
  | further reading next last step rest ih =>
      rw [finish_advance, step]
      exact ih

section Cut

variable {header : Header} {reading : Reading} {missing : Bytes} {final : Array UInt8}

-- The mark at the end cannot be what stops the cut run: with something behind it, it is no end.
theorem cut_halted (unknown : header.size = none) (filled : missing ≠ [])
    (unspent : ¬ reading.decoder.Spent)
    (halted : ∀ next, reading.advance header ≠ .next next)
    (finished : (reading.extend missing).finish header = .ok final) :
    (∃ error, reading.finish header = .error error) ∧
      ∀ other, Passes header (reading.extend missing) other → ¬ other.Silent missing := by
  have incomplete := incomplete_of_unspent unknown unspent
  cases read : (reading.questions header).read reading.model reading.decoder with
  | error error =>
      refine ⟨⟨error, ?_⟩, ?_⟩
      · rw [finish_advance, advance_unread incomplete read]
      · intro other passes
        cases passes with
        | here => exact mt silent_extend.mp unspent
        | further _ next _ step rest =>
            obtain ⟨-, packet, long, -⟩ := advance_eq_next step
            have short := read_short read long
            have later := rest_passes rest
            intro silent
            rw [silent.2] at later
            omega
  | ok result =>
      obtain ⟨packet, model, decoder⟩ := result
      have step := advance_read incomplete read
      have extended := advance_read (extend_incomplete unknown filled) (read_extend missing read)
      rw [finish_advance, extended, take] at finished
      rw [take] at step
      cases applied : packet.apply header.dictionary reading.history reading.out with
      | error error =>
          simp only [extend, applied] at finished
          cases finished
      | ok effect =>
          cases effect with
          | some effect =>
              rw [applied] at step
              cases halted _ step
          | none =>
              have left : ¬ ((decoder.extend missing).code = 0 ∧
                  (decoder.extend missing).rest.isEmpty) := fun spent =>
                filled (List.append_eq_nil_iff.mp (List.isEmpty_iff.mp spent.2)).2
              simp only [extend, applied, if_neg left] at finished
              cases finished

theorem cut_cases (unknown : header.size = none) (filled : missing ≠ [])
    (finished : (reading.extend missing).finish header = .ok final) :
    (∃ early, Passes header (reading.extend missing) early ∧ early.Silent missing ∧
      reading.finish header = .ok early.out ∧
      ∀ other, Passes header (reading.extend missing) other → other.Silent missing →
        early.out.toList <+: other.out.toList) ∨
    (∃ error, reading.finish header = .error error) ∧
      ∀ other, Passes header (reading.extend missing) other → ¬ other.Silent missing := by
  induction reading using induction_advance header with
  | step reading ih =>
      -- The cut run is over unnoticed, or it takes the same packet as the whole run, or it halts.
      by_cases spent : reading.decoder.Spent
      · exact .inl ⟨reading.extend missing, .here _, silent_extend.mpr spent,
          finish_spent unknown spent, fun other passes _ => prefix_passes passes⟩
      · cases step : reading.advance header with
        | next next =>
            have extended := advance_extend (extend_incomplete unknown filled) step
            have onward : ∀ other, Passes header (reading.extend missing) other →
                other.Silent missing → Passes header (next.extend missing) other := by
              intro other passes silent
              cases passes with
              | here => cases spent (silent_extend.mp silent)
              | further _ _ _ taken rest =>
                  cases extended.symm.trans taken
                  exact rest
            rw [finish_advance, extended] at finished
            rw [finish_advance, step]
            rcases ih next step finished with ⟨early, passes, silent, stopped, first⟩ | ⟨failed, none⟩
            · exact .inl ⟨early, .further _ _ _ extended passes, silent, stopped,
                fun other passes silent => first other (onward other passes silent) silent⟩
            · exact .inr ⟨failed, fun other passes silent =>
                none other (onward other passes silent) silent⟩
        | stopped out =>
            have halted : ∀ next, reading.advance header ≠ .next next := fun next onward => by
              cases step.symm.trans onward
            exact .inr (cut_halted unknown filled spent halted finished)
        | failed error =>
            have halted : ∀ next, reading.advance header ≠ .next next := fun next onward => by
              cases step.symm.trans onward
            exact .inr (cut_halted unknown filled spent halted finished)

end Cut

end Reading

section Payload

variable {cut missing rest after : Bytes} {header : Header}

theorem split_bytes_short {count : Nat} {taken : Bytes} (failed : splitBytes? count cut = none)
    (split : splitBytes? count (cut ++ missing) = some (taken, rest)) :
    rest.length < missing.length := by
  obtain ⟨whole, size⟩ := split_bytes_eq_some split
  have few : ¬ (cut.take count).length = count := by
    intro enough
    rw [splitBytes?, if_pos enough] at failed
    cases failed
  have lengths := congrArg List.length whole
  rw [List.length_append, List.length_append] at lengths
  rw [List.length_take] at few
  omega

theorem Header.parse_extend (missing : Bytes) (parsed : parse cut = .ok (header, rest)) :
    parse (cut ++ missing) = .ok (header, rest ++ missing) := by
  cases cut with
  | nil => cases parsed
  | cons properties cut =>
      rw [List.cons_append]
      rw [parse] at parsed ⊢
      split at parsed
      · rename_i small
        rw [if_pos small]
        split at parsed
        · cases parsed
        · rename_i dictionary
          rw [split_bytes_extend missing dictionary]
          simp only
          split at parsed
          · cases parsed
          · rename_i size
            rw [split_bytes_extend missing size]
            cases parsed
            rfl
      · cases parsed

theorem Header.parse_cons {properties : UInt8}
    (parsed : parse (properties :: cut) = .ok (header, rest)) :
    properties.toNat < choices ∧ ∃ dictionary size middle,
      splitBytes? 4 cut = some (dictionary, middle) ∧ splitBytes? 8 middle = some (size, rest) := by
  rw [parse] at parsed
  split at parsed
  · rename_i small
    split at parsed
    · cases parsed
    · rename_i dictionary middle first
      split at parsed
      · cases parsed
      · rename_i size rest second
        cases parsed
        exact ⟨small, dictionary, size, middle, first, second⟩
  · cases parsed

theorem Header.parse_short {error : Error} (failed : parse cut = .error error)
    (parsed : parse (cut ++ missing) = .ok (header, rest)) : rest.length < missing.length := by
  cases cut with
  | nil =>
      cases missing with
      | nil => cases parsed
      | cons properties missing =>
          obtain ⟨-, dictionary, size, middle, first, second⟩ := parse_cons parsed
          have shorter := length_split_bytes first
          have shortest := length_split_bytes second
          rw [List.length_cons]
          omega
  | cons properties cut =>
      obtain ⟨small, dictionary, size, middle, first, second⟩ := parse_cons parsed
      have shorter := length_split_bytes second
      rw [parse, if_pos small] at failed
      split at failed
      · rename_i lost
        have short := split_bytes_short lost first
        omega
      · rename_i found
        split at failed
        · rename_i lost
          cases (split_bytes_extend missing found).symm.trans first
          exact split_bytes_short lost second
        · cases failed

theorem start_extend {decoder : RangeDecoder} (missing : Bytes)
    (started : RangeDecoder.start? rest = some decoder) :
    RangeDecoder.start? (rest ++ missing) = some (decoder.extend missing) := by
  unfold RangeDecoder.start? at started
  split at started
  · cases started
    rfl
  · cases started

theorem start_short {decoder : RangeDecoder} (failed : RangeDecoder.start? rest = none)
    (started : RangeDecoder.start? (rest ++ missing) = some decoder) :
    decoder.rest.length < missing.length := by
  have short : rest.length < 5 := by
    rcases rest with _ | ⟨_, _ | ⟨_, _ | ⟨_, _ | ⟨_, _ | ⟨_, rest⟩⟩⟩⟩⟩
    case cons.cons.cons.cons.cons => cases failed
    all_goals
      simp only [List.length_cons, List.length_nil]
      decide
  unfold RangeDecoder.start? at started
  split at started
  · rename_i whole
    cases started
    have lengths := congrArg List.length whole
    simp only [List.length_append, List.length_cons] at lengths ⊢
    omega
  · cases started

end Payload

theorem decode_cut_start {cut missing rest : Bytes} {header : Header} {decoder : RangeDecoder}
    (parsed : Header.parse (cut ++ missing) = .ok (header, rest))
    (started : RangeDecoder.start? rest = some decoder) :
    ((∃ error, decode cut = .error error) ∧ decoder.rest.length < missing.length) ∨
      ∃ left first, Header.parse cut = .ok (header, left) ∧
        RangeDecoder.start? left = some first ∧ decoder = first.extend missing := by
  cases whole : Header.parse cut with
  | error error =>
      have short := Header.parse_short whole parsed
      have taken : decoder.rest.length ≤ rest.length := by
        unfold RangeDecoder.start? at started
        split at started
        · cases started
          simp only [List.length_cons]
          omega
        · cases started
      refine .inl ⟨⟨error, ?_⟩, Nat.lt_of_le_of_lt taken short⟩
      rw [decode, whole]
  | ok result =>
      obtain ⟨other, left⟩ := result
      cases (Header.parse_extend missing whole).symm.trans parsed
      cases begun : RangeDecoder.start? left with
      | none =>
          refine .inl ⟨⟨.streamTooShort, ?_⟩, start_short begun started⟩
          rw [decode, whole]
          simp only [begun]
      | some first =>
          cases (start_extend missing begun).symm.trans started
          exact .inr ⟨left, first, rfl, begun, rfl⟩

-- A cut shows as an error or changes nothing, just if every reading where it goes unnoticed has
-- the whole text out already.
theorem decode_cut_iff {cut missing raw rest : Bytes} {header : Header}
    (parsed : Header.parse (cut ++ missing) = .ok (header, rest)) (unknown : header.size = none)
    (filled : missing ≠ []) (decoded : decode (cut ++ missing) = .ok raw) :
    ((∃ error, decode cut = .error error) ∨ decode cut = .ok raw) ↔
      ∀ reading, Boundary (cut ++ missing) header reading → reading.Silent missing →
        reading.out.toList = raw := by
  cases started : RangeDecoder.start? rest with
  | none =>
      rw [decode, parsed] at decoded
      simp only [started] at decoded
      cases decoded
  | some decoder =>
      rw [decode_unknown parsed started unknown] at decoded
      obtain ⟨out, finished, text⟩ := map_eq_ok_iff.mp decoded
      simp only [boundary_iff parsed started]
      rcases decode_cut_start parsed started with ⟨failed, short⟩ | ⟨left, first, begun, begins, rfl⟩
      · refine iff_of_true (.inl failed) fun reading passes silent => ?_
        have later := Reading.rest_passes passes
        rw [silent.2] at later
        exact absurd short (Nat.not_lt.mpr later)
      · change ((Reading.first header first).extend missing).finish header = .ok out at finished
        change _ ↔ ∀ reading, Passes header ((Reading.first header first).extend missing) reading → _
        rw [decode_unknown begun begins unknown]
        rcases Reading.cut_cases unknown filled finished with
          ⟨early, passes, silent, stopped, foremost⟩ | ⟨⟨error, failed⟩, none⟩
        · rw [stopped]
          refine ⟨?_, fun all => .inr (congrArg Except.ok (all early passes silent))⟩
          -- Every silent reading lies between the first one and the end of the whole run.
          rintro (⟨_, failed⟩ | same) reading onward quiet
          · cases failed
          · cases same
            have sooner := foremost reading onward quiet
            have later := Reading.prefix_finish reading
              ((Reading.finish_passes onward).symm.trans finished)
            rw [text] at later
            exact later.eq_of_length_le sooner.length_le
        · refine iff_of_true (.inl ⟨error, ?_⟩) fun reading passes silent =>
            absurd silent (none reading passes)
          rw [failed]
          rfl

namespace Model

theorem estimate_fresh (contexts context : Nat) :
    (fresh contexts).estimate context = .even := by
  rw [estimate, fresh, Array.getElem?_replicate]
  split
  · rfl
  · rfl

theorem estimate_observe (model : Model) {context other : Nat} (bit : Bool)
    (apart : context ≠ other) :
    (model.observe context bit).estimate other = model.estimate other := by
  rw [estimate, observe, Array.getElem?_setIfInBounds_ne apart, estimate]

end Model

inductive Zeros : Nat → RangeDecoder → RangeDecoder → Prop where
  | none (decoder : RangeDecoder) : Zeros 0 decoder decoder
  | more (count : Nat) (decoder middle last : RangeDecoder)
      (first : decoder.adaptive .even = .ok (false, middle)) (rest : Zeros count middle last) :
      Zeros (count + 1) decoder last

theorem read_bit_tree_zeros {base bits node : Nat} {model : Model} {decoder final : RangeDecoder}
    (zeros : Zeros bits decoder final) (positive : 0 < node)
    (even : ∀ context, base + node ≤ context → model.estimate context = .even) :
    ∃ after, (Decision.bitTree base bits node).read model decoder =
      .ok (node <<< bits, after, final) := by
  induction zeros generalizing node model with
  | none decoder => exact ⟨model, rfl⟩
  | more count decoder middle last first rest ih =>
      have later : ∀ context, base + 2 * node ≤ context →
          (model.observe (base + node) false).estimate context = .even := by
        intro context above
        rw [model.estimate_observe false (by omega), even context (by omega)]
      obtain ⟨after, read⟩ := ih (by omega) later
      refine ⟨after, ?_⟩
      rw [Decision.bitTree, Decision.read, even _ (Nat.le_refl _), first]
      simp only [Bool.toNat_false, Nat.add_zero]
      rw [read, Nat.shiftLeft_succ_inside]

theorem Decision.read_bind {α β : Type} {decision : Decision α} {model middle : Model}
    {decoder between : RangeDecoder} {value : α} (next : α → Decision β)
    (read : decision.read model decoder = .ok (value, middle, between)) :
    (decision.bind next).read model decoder = (next value).read middle between := by
  induction decision generalizing model decoder with
  | done => cases read; rfl
  | adaptive context question ih =>
      rw [Decision.read] at read
      rw [Decision.bind, Decision.read]
      split at read
      · cases read
      · exact ih _ read
  | direct question ih =>
      rw [Decision.read] at read
      rw [Decision.bind, Decision.read]
      split at read
      · cases read
      · exact ih _ read

theorem read_literal_zero {decoder final : RangeDecoder} (zeros : Zeros 9 decoder final)
    (contexts : Nat) :
    ∃ after, (Packet.questions Header.plain.parameters 0 0 0 none).read (Model.fresh contexts)
      decoder = .ok (.literal 0, after, final) := by
  cases zeros with
  | more _ _ middle _ first rest =>
      have even : ∀ context, Context.literal 0 + 1 ≤ context →
          ((Model.fresh contexts).observe 0 false).estimate context = .even := by
        intro context above
        rw [Model.estimate_observe _ false (by omega), Model.estimate_fresh]
      obtain ⟨after, read⟩ := read_bit_tree_zeros rest (by decide) even
      refine ⟨after, ?_⟩
      rw [Packet.questions, Decision.read, Model.estimate_fresh, first]
      simp only [Bool.false_eq_true, if_false]
      rw [Packet.literalQuestions]
      have whole := Decision.read_bind
        (fun node => Decision.done (Packet.literal (UInt8.ofNat (node - 256)))) read
      have table : (0 % 1 <<< Header.plain.parameters.placeBits) <<<
          Header.plain.parameters.literalBits +
            (0 : UInt8).toNat >>> (8 - Header.plain.parameters.literalBits) = 0 := rfl
      have context : Context.isCopy 0 (0 % 1 <<< Header.plain.parameters.packetBits) = 0 := rfl
      rw [table, context]
      exact whole

namespace RangeDecoder

theorem even_lower (decoder : RangeDecoder) : 0x10000 ≤ decoder.range / 2048 * 1024 := by
  have lower := decoder.lower
  omega

theorem even_upper (decoder : RangeDecoder) : decoder.range / 2048 * 1024 < 0x100000000 := by
  have upper := decoder.upper
  omega

theorem adaptive_even {decoder next : RangeDecoder} (code : decoder.code = 0)
    (narrowed : narrow (decoder.range / 2048 * 1024) 0 decoder.rest decoder.even_lower
      decoder.even_upper = .ok next) :
    decoder.adaptive .even = .ok (false, next) := by
  have side : decoder.code < decoder.bound .even := by
    rw [code]
    exact Nat.lt_of_lt_of_le (by decide) decoder.even_lower
  rw [← code] at narrowed
  rw [adaptive, if_pos side]
  exact congrArg (Except.map (false, ·)) narrowed

variable {range : Nat} {lower : 0x10000 ≤ range} {upper : range < 0x100000000}

theorem narrow_wide {rest : Bytes} (wide : 0x1000000 ≤ range) :
    narrow range 0 rest lower upper = .ok ⟨range, 0, rest, wide, upper⟩ := by
  rw [narrow, dif_pos wide]

theorem narrow_small {rest : Bytes} (small : ¬ 0x1000000 ≤ range) :
    narrow range 0 (0 :: rest) lower upper =
      .ok ⟨range * 256, 0, rest, widened_lower lower, widened_upper small⟩ := by
  rw [narrow, dif_neg small]
  rfl

end RangeDecoder

-- Nine even bits take the range below 2^24 once, and with that a byte of input.
theorem zeros_start :
    ∃ decoder final, RangeDecoder.start? (List.replicate 5 0 ++ [0]) = some decoder ∧
      ¬ decoder.Spent ∧ Zeros 9 decoder final ∧ final.Spent := by
  refine ⟨_, ⟨0x7ffe0000, 0, [], by decide, by decide⟩, rfl, ?_, ?_, rfl, rfl⟩
  · rintro ⟨-, rest⟩
    cases rest
  · iterate 7
      refine .more _ _ _ _ (RangeDecoder.adaptive_even rfl (RangeDecoder.narrow_wide (by decide))) ?_
    refine .more _ _ _ _ (RangeDecoder.adaptive_even rfl (RangeDecoder.narrow_small (by decide))) ?_
    refine .more _ _ _ _ (RangeDecoder.adaptive_even rfl (RangeDecoder.narrow_wide (by decide))) ?_
    exact .none _

def zeroFile (count : Nat) : Bytes := Header.plain.render ++ List.replicate count 0

theorem decode_zero_file : decode (zeroFile 5) = .ok [] := by
  obtain ⟨decoder, started, spent⟩ : ∃ decoder,
      RangeDecoder.start? (List.replicate 5 0) = some decoder ∧ decoder.Spent :=
    ⟨_, rfl, rfl, rfl⟩
  rw [zeroFile, decode_unknown (Header.parse_plain _) started rfl,
    Reading.finish_spent rfl spent]
  rfl

theorem parse_zero_file :
    Header.parse (zeroFile 5 ++ [0]) = .ok (.plain, List.replicate 5 0 ++ [0]) := by
  rw [zeroFile, List.append_assoc, Header.parse_plain]

theorem Reading.advance_zeros {header : Header} {decoder final : RangeDecoder}
    (usual : header.parameters = Header.plain.parameters) (zeros : Zeros 9 decoder final)
    (incomplete : (Reading.first header decoder).isComplete header = false) :
    ∃ after, (Reading.first header decoder).advance header =
      .next ⟨.start, after, final, #[0]⟩ := by
  obtain ⟨after, read⟩ := read_literal_zero zeros header.parameters.contexts
  have asked : (Reading.first header decoder).questions header =
      Packet.questions Header.plain.parameters 0 0 0 none := by
    rw [← usual]
    rfl
  rw [← asked] at read
  exact ⟨after, Reading.advance_read incomplete read⟩

theorem decode_zero_file_append : decode (zeroFile 5 ++ [0]) = .ok [0] := by
  obtain ⟨decoder, final, started, unspent, zeros, spent⟩ := zeros_start
  have incomplete : (Reading.first .plain decoder).isComplete .plain = false :=
    Reading.incomplete_of_unspent rfl unspent
  obtain ⟨after, step⟩ := Reading.advance_zeros rfl zeros incomplete
  have ended : Reading.finish .plain ⟨.start, after, final, #[0]⟩ = .ok #[0] :=
    Reading.finish_spent rfl spent
  have finished : (Reading.first .plain decoder).finish .plain = .ok #[0] := by
    rw [Reading.finish_advance, step]
    exact ended
  rw [decode_unknown parse_zero_file started rfl, finished]
  rfl

end TaggedBlock.Lzma
