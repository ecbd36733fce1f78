import TaggedBlock.Proofs.Lzma.Run
import TaggedBlock.Proofs.Results

set_option autoImplicit false

namespace TaggedBlock.Lzma

/-- The decoder on machine words: estimates of 16 bits, a range and a code of 32 bits. Nothing about
them keeps the arithmetic from wrapping. -/
structure Words where
  estimates : Array UInt16
  range : UInt32
  code : UInt32
  rest : Bytes

namespace Words

def even : UInt16 := 0x400

def estimate (words : Words) (context : Nat) : UInt16 := words.estimates[context]?.getD even

def adapt (estimate : UInt16) (bit : Bool) : UInt16 :=
  if bit then estimate - estimate >>> 5 else estimate + (0x800 - estimate) >>> 5

def observe (words : Words) (context : Nat) (bit : Bool) : Array UInt16 :=
  words.estimates.setIfInBounds context (adapt (words.estimate context) bit)

-- After a bit: one byte comes in if the range has become too small, and then it is not looked at
-- again.
def normalize (words : Words) : Except Error Words :=
  if words.range < 0x1000000 then
    match words.rest with
    | [] => .error .inputEnded
    | byte :: rest =>
      .ok ⟨words.estimates, words.range <<< 8, (words.code <<< 8) + byte.toUInt32, rest⟩
  else .ok words

def adaptive (words : Words) (context : Nat) : Except Error (Bool × Words) :=
  let bound := (words.range >>> 11) * (words.estimate context).toUInt32
  if words.code < bound then
    (normalize ⟨words.observe context false, bound, words.code, words.rest⟩).map (false, ·)
  else
    (normalize ⟨words.observe context true, words.range - bound, words.code - bound,
      words.rest⟩).map (true, ·)

def direct (words : Words) : Except Error (Bool × Words) :=
  let half := words.range >>> 1
  if words.code < half then
    (normalize ⟨words.estimates, half, words.code, words.rest⟩).map (false, ·)
  else (normalize ⟨words.estimates, half, words.code - half, words.rest⟩).map (true, ·)

def start? (contexts : Nat) (input : Bytes) : Option Words :=
  match input with
  | _ :: first :: second :: third :: fourth :: rest =>
    some ⟨Array.replicate contexts even, 0xffffffff,
      UInt32.ofNat (bigEndian [first, second, third, fourth]), rest⟩
  | _ => none

def isSpent (words : Words) : Bool := words.code == 0 && words.rest.isEmpty

end Words

-- The words after each bit of a decision, and what the bits came to.
def Decision.trace {α : Type} : Decision α → Words → List Words × Except Error (α × Words)
  | .done value, words => ([], .ok (value, words))
  | .adaptive context next, words =>
    match words.adaptive context with
    | .error error => ([], .error error)
    | .ok (bit, words) => ((next bit).trace words).map (words :: ·) id
  | .direct next, words =>
    match words.direct with
    | .error error => ([], .error error)
    | .ok (bit, words) => ((next bit).trace words).map (words :: ·) id

-- A run of the loop: the words after each bit, the packets, and what it came to unless the budget
-- was used up before that.
structure Trace (α : Type) where
  bits : List Words
  packets : List Packet
  outcome : Option (Except Error α)

-- What stands between two packets.
structure Machine where
  history : History
  words : Words
  out : Array UInt8

namespace Machine

def isComplete (header : Header) (machine : Machine) : Bool :=
  match header.size with
  | some size => size ≤ machine.out.size
  | none => machine.words.isSpent

def questions (header : Header) (machine : Machine) : Decision Packet :=
  Packet.questions header.parameters machine.history.state machine.out.size
    (machine.out[machine.out.size - 1]?.getD 0) (besideByte machine.history machine.out)

-- The loop over packets, of which it takes as many as the budget allows.
def run (header : Header) : Nat → Machine → Trace (Array UInt8)
  | 0, _ => ⟨[], [], none⟩
  | budget + 1, machine =>
    if machine.isComplete header then ⟨[], [], some (.ok machine.out)⟩
    else
      match (machine.questions header).trace machine.words with
      | (bits, .error error) => ⟨bits, [], some (.error error)⟩
      | (bits, .ok (packet, words)) =>
        match packet.apply header.dictionary machine.history machine.out with
        | .error error => ⟨bits, [packet], some (.error error)⟩
        | .ok none =>
          ⟨bits, [packet],
            some (if words.isSpent then .ok machine.out else .error .dataAfterEnd)⟩
        | .ok (some (history, out)) =>
          let later := run header budget ⟨history, words, out⟩
          ⟨bits ++ later.bits, packet :: later.packets, later.outcome⟩

end Machine

-- All of a file, with the words before the first bit in front.
def trace (budget : Nat) (payload : Bytes) : Trace Bytes :=
  match Header.parse payload with
  | .error error => ⟨[], [], some (.error error)⟩
  | .ok (header, rest) =>
    match Words.start? header.parameters.contexts rest with
    | none => ⟨[], [], some (.error .streamTooShort)⟩
    | some words =>
      let run := Machine.run header budget ⟨.start, words, #[]⟩
      ⟨words :: run.bits, run.packets, run.outcome.map (conclude header)⟩

-- The same failure, or values that are related.
inductive Agree {ε α β : Type} (related : α → β → Prop) : Except ε α → Except ε β → Prop where
  | failed (error : ε) : Agree related (.error error) (.error error)
  | done (first : α) (second : β) (relates : related first second) :
      Agree related (.ok first) (.ok second)

theorem Agree.map {ε α β γ δ : Type} {related : α → β → Prop} {onward : γ → δ → Prop}
    {f : α → γ} {g : β → δ} {first : Except ε α} {second : Except ε β}
    (agree : Agree related first second)
    (step : ∀ one other, related one other → onward (f one) (g other)) :
    Agree onward (first.map f) (second.map g) := by
  cases agree with
  | failed error => exact .failed error
  | done one other relates => exact .done _ _ (step one other relates)

theorem Agree.cases {ε α β : Type} {related : α → β → Prop} {first : Except ε α}
    {second : Except ε β} (agree : Agree related first second) :
    (∃ error, first = .error error ∧ second = .error error) ∨
      ∃ one other, first = .ok one ∧ second = .ok other ∧ related one other := by
  cases agree with
  | failed error => exact Or.inl ⟨error, rfl, rfl⟩
  | done one other relates => exact Or.inr ⟨one, other, rfl, rfl, relates⟩

namespace Words

-- The words hold the numbers of the decoder that carries its bounds.
structure Mirrors (words : Words) (model : Model) (decoder : RangeDecoder) : Prop where
  estimates : words.estimates.map UInt16.toNat = model.map Probability.value
  range : words.range.toNat = decoder.range
  code : words.code.toNat = decoder.code
  rest : words.rest = decoder.rest

section Mirrors

variable {words : Words} {model : Model} {decoder : RangeDecoder}

theorem toNat_estimate (estimates : words.estimates.map UInt16.toNat = model.map Probability.value)
    (context : Nat) : (words.estimate context).toNat = (model.estimate context).value := by
  have same := congrArg (fun numbers => numbers[context]?) estimates
  simp only [Array.getElem?_map] at same
  rw [estimate, Model.estimate]
  cases found : words.estimates[context]? with
  | none =>
      rw [found, Option.map_none, eq_comm, Option.map_eq_none_iff] at same
      rw [same]
      rfl
  | some number =>
      rw [found, Option.map_some, eq_comm, Option.map_eq_some_iff] at same
      obtain ⟨probability, held, value⟩ := same
      rw [held]
      exact value.symm

theorem toNat_adapt {estimate : UInt16} {probability : Probability}
    (same : estimate.toNat = probability.value) (bit : Bool) :
    (adapt estimate bit).toNat = (probability.adapt bit).value := by
  have lower := probability.lower
  have upper := probability.upper
  have shifted : (estimate >>> 5).toNat = estimate.toNat / 32 := by
    rw [UInt16.toNat_shiftRight, Nat.shiftRight_eq_div_pow]
    rfl
  cases bit with
  | true =>
      have less : estimate >>> 5 ≤ estimate := by
        rw [UInt16.le_iff_toNat_le, shifted]
        omega
      rw [adapt, if_pos rfl, UInt16.toNat_sub_of_le _ _ less, shifted, same]
      rfl
  | false =>
      have within : estimate ≤ 0x800 := by
        rw [UInt16.le_iff_toNat_le, same]
        change probability.value ≤ 2048
        omega
      have above : (0x800 - estimate).toNat = 2048 - probability.value := by
        rw [UInt16.toNat_sub_of_le _ _ within, same]
        rfl
      rw [adapt, if_neg Bool.false_ne_true, UInt16.toNat_add, UInt16.toNat_shiftRight, above,
        Nat.shiftRight_eq_div_pow, same]
      change (probability.value + (2048 - probability.value) / 32) % 65536 =
        probability.value + (2048 - probability.value) / 32
      omega

theorem map_observe (estimates : words.estimates.map UInt16.toNat = model.map Probability.value)
    (context : Nat) (bit : Bool) :
    (words.observe context bit).map UInt16.toNat =
      (model.observe context bit).map Probability.value := by
  rw [observe, Model.observe, Array.map_setIfInBounds, Array.map_setIfInBounds, estimates,
    toNat_adapt (toNat_estimate estimates context) bit]

theorem normalize_mirrors {numbers : Array UInt16} {range code : UInt32} {rest : Bytes}
    {length value : Nat} {lower : 0x10000 ≤ length} {upper : length < 0x100000000}
    (estimates : numbers.map UInt16.toNat = model.map Probability.value)
    (sameRange : range.toNat = length) (sameCode : code.toNat = value) :
    Agree (fun words decoder => words.Mirrors model decoder)
      (normalize ⟨numbers, range, code, rest⟩)
      (RangeDecoder.narrow length value rest lower upper) := by
  subst sameRange sameCode
  have small : range < 0x1000000 ↔ ¬ 0x1000000 ≤ range.toNat := by
    rw [UInt32.lt_iff_toNat_lt, Nat.not_le]
    rfl
  rw [normalize, RangeDecoder.narrow]
  by_cases wide : 0x1000000 ≤ range.toNat
  · rw [if_neg (fun below => small.mp below wide), dif_pos wide]
    exact .done _ _ ⟨estimates, rfl, rfl, rfl⟩
  · rw [if_pos (small.mpr wide), dif_neg wide]
    cases rest with
    | nil => exact .failed _
    | cons byte rest =>
        refine .done _ _ ⟨estimates, ?_, ?_, rfl⟩
        · rw [UInt32.toNat_shiftLeft, Nat.shiftLeft_eq]
          change range.toNat * 256 % 4294967296 = range.toNat * 256
          omega
        · rw [UInt32.toNat_add, UInt32.toNat_shiftLeft, Nat.shiftLeft_eq, UInt8.toNat_toUInt32]
          change (code.toNat * 256 % 4294967296 + byte.toNat) % 4294967296 =
            (code.toNat * 256 + byte.toNat) % 4294967296
          omega

theorem adaptive_mirrors (mirrors : words.Mirrors model decoder) (context : Nat) :
    Agree (fun first second => first.1 = second.1 ∧
        first.2.Mirrors (model.observe context first.1) second.2)
      (words.adaptive context) (decoder.adaptive (model.estimate context)) := by
  obtain ⟨estimates, range, code, rest⟩ := mirrors
  have low := decoder.bound_lower (model.estimate context)
  have high := decoder.bound_upper (model.estimate context)
  have top := decoder.upper
  have bound : ((words.range >>> 11) * (words.estimate context).toUInt32).toNat =
      decoder.bound (model.estimate context) := by
    rw [UInt32.toNat_mul, UInt32.toNat_shiftRight, UInt16.toNat_toUInt32,
      toNat_estimate estimates, range, Nat.shiftRight_eq_div_pow]
    change decoder.bound (model.estimate context) % 4294967296 = _
    omega
  rw [adaptive, RangeDecoder.adaptive]
  simp only [UInt32.lt_iff_toNat_lt, bound, code, rest]
  by_cases below : decoder.code < decoder.bound (model.estimate context)
  · rw [if_pos below, if_pos below]
    exact (normalize_mirrors (map_observe estimates context false) bound code).map
      fun _ _ same => ⟨rfl, same⟩
  · rw [if_neg below, if_neg below]
    refine (normalize_mirrors (map_observe estimates context true) ?_ ?_).map
      fun _ _ same => ⟨rfl, same⟩
    · rw [UInt32.toNat_sub_of_le _ _ (UInt32.le_iff_toNat_le.mpr (by omega)), range, bound]
    · rw [UInt32.toNat_sub_of_le _ _ (UInt32.le_iff_toNat_le.mpr (by omega)), code, bound]

theorem direct_mirrors (mirrors : words.Mirrors model decoder) :
    Agree (fun first second => first.1 = second.1 ∧ first.2.Mirrors model second.2)
      words.direct decoder.direct := by
  obtain ⟨estimates, range, code, rest⟩ := mirrors
  have half : (words.range >>> 1).toNat = decoder.range / 2 := by
    rw [UInt32.toNat_shiftRight, range, Nat.shiftRight_eq_div_pow]
    rfl
  rw [direct, RangeDecoder.direct]
  simp only [UInt32.lt_iff_toNat_lt, half, code, rest]
  by_cases below : decoder.code < decoder.range / 2
  · rw [if_pos below, if_pos below]
    exact (normalize_mirrors estimates half code).map fun _ _ same => ⟨rfl, same⟩
  · rw [if_neg below, if_neg below]
    refine (normalize_mirrors estimates half ?_).map fun _ _ same => ⟨rfl, same⟩
    rw [UInt32.toNat_sub_of_le _ _ (UInt32.le_iff_toNat_le.mpr (by omega)), code, half]

end Mirrors

theorem isSpent_mirrors {words : Words} {model : Model} {decoder : RangeDecoder}
    (mirrors : words.Mirrors model decoder) :
    words.isSpent = (decoder.code == 0 && decoder.rest.isEmpty) := by
  have zero : (words.code == 0) = (decoder.code == 0) := by
    rw [Bool.eq_iff_iff, beq_iff_eq, beq_iff_eq, ← mirrors.code, ← UInt32.toNat_inj]
    rfl
  rw [isSpent, zero, mirrors.rest]

end Words

namespace Words

-- One bit taken on the words and by the decoder that carries its bounds, side by side.
inductive Beside (before after : Words) : Prop where
  | adaptive (model : Model) (decoder next : RangeDecoder) (context : Nat) (bit : Bool)
      (first : before.Mirrors model decoder)
      (read : decoder.adaptive (model.estimate context) = .ok (bit, next))
      (second : after.Mirrors (model.observe context bit) next)
  | direct (model : Model) (decoder next : RangeDecoder) (bit : Bool)
      (first : before.Mirrors model decoder) (read : decoder.direct = .ok (bit, next))
      (second : after.Mirrors model next)

-- The words after each bit, from the first words to the last.
inductive Path : Words → List Words → Words → Prop where
  | here (words : Words) : Path words [] words
  | bit (before after last : Words) (bits : List Words) (beside : Beside before after)
      (rest : Path after bits last) : Path before (after :: bits) last

theorem Path.append {first middle last : Words} {bits more : List Words}
    (path : Path first bits middle) (onward : Path middle more last) :
    Path first (bits ++ more) last := by
  induction path with
  | here => exact onward
  | bit before after last bits beside _ ih => exact .bit before after _ _ beside (ih onward)

end Words

-- A trace of a decision beside its reading by the bounded decoder.
def Traced {α : Type} (words : Words) (trace : List Words × Except Error (α × Words))
    (read : Except Error (α × Model × RangeDecoder)) : Prop :=
  ∃ last, Words.Path words trace.1 last ∧
    Agree (fun first second => first.1 = second.1 ∧ first.2 = last ∧
      last.Mirrors second.2.1 second.2.2) trace.2 read

section Traced

variable {α : Type} {words after : Words} {model : Model} {decoder : RangeDecoder}

theorem traced_error (words : Words) (error : Error) :
    Traced (α := α) words ([], .error error) (.error error) :=
  ⟨words, .here words, .failed error⟩

theorem traced_cons {trace : List Words × Except Error (α × Words)}
    {read : Except Error (α × Model × RangeDecoder)} (beside : words.Beside after)
    (traced : Traced after trace read) : Traced words (trace.map (after :: ·) id) read := by
  obtain ⟨last, path, agree⟩ := traced
  exact ⟨last, .bit words after last _ beside path, agree⟩

theorem Decision.traced (decision : Decision α) (mirrors : words.Mirrors model decoder) :
    Traced words (decision.trace words) (decision.read model decoder) := by
  induction decision generalizing words model decoder with
  | done value => exact ⟨words, .here words, .done _ _ ⟨rfl, rfl, mirrors⟩⟩
  | adaptive context next ih =>
      rw [trace, read]
      rcases (Words.adaptive_mirrors mirrors context).cases with
        ⟨error, first, second⟩ | ⟨⟨bit, after⟩, ⟨_, left⟩, first, second, rfl, mirrored⟩
      · rw [first, second]
        exact traced_error words error
      · rw [first, second]
        have beside := Words.Beside.adaptive _ _ _ context bit mirrors second mirrored
        exact traced_cons beside (ih bit mirrored)
  | direct next ih =>
      rw [trace, read]
      rcases (Words.direct_mirrors mirrors).cases with
        ⟨error, first, second⟩ | ⟨⟨bit, after⟩, ⟨_, left⟩, first, second, rfl, mirrored⟩
      · rw [first, second]
        exact traced_error words error
      · rw [first, second]
        have beside := Words.Beside.direct _ _ _ bit mirrors second mirrored
        exact traced_cons beside (ih bit mirrored)

-- The first question of a packet is one more bit.
theorem Decision.bits_of_adaptive {context : Nat} {next : Bool → Decision α} {answer : α × Words}
    (answered : ((adaptive context next).trace words).2 = .ok answer) :
    1 ≤ ((adaptive context next).trace words).1.length := by
  rw [trace] at answered ⊢
  cases read : words.adaptive context with
  | error error =>
      rw [read] at answered
      cases answered
  | ok taken => exact Nat.le_add_left 1 _

end Traced

-- A run within its budget beside the answer of the bounded decoder.
structure Trace.Follows {α : Type} (trace : Trace α) (budget : Nat) (words : Words)
    (answer : Except Error α) : Prop where
  path : ∃ last, Words.Path words trace.bits last
  packets : trace.packets.length ≤ trace.bits.length
  outcome : trace.outcome = some answer ∨ trace.outcome = none ∧ trace.packets.length = budget

namespace Machine

variable {words : Words} {model : Model} {decoder : RangeDecoder}

theorem isComplete_mirrors (header : Header) (history : History)
    (mirrors : words.Mirrors model decoder) (out : Array UInt8) :
    isComplete header ⟨history, words, out⟩ =
      Reading.isComplete header ⟨history, model, decoder, out⟩ := by
  rw [isComplete, Reading.isComplete, Header.complete]
  cases header.size with
  | none => exact Words.isSpent_mirrors mirrors
  | some size => rfl

theorem run_follows (header : Header) (budget : Nat) (history : History)
    (mirrors : words.Mirrors model decoder) (out : Array UInt8) :
    (run header budget ⟨history, words, out⟩).Follows budget words
      (Reading.finish header ⟨history, model, decoder, out⟩) := by
  induction budget generalizing history words model decoder out with
  | zero => exact ⟨⟨words, .here words⟩, Nat.le_refl _, Or.inr ⟨rfl, rfl⟩⟩
  | succ budget ih =>
      have same := isComplete_mirrors header history mirrors out
      rw [run, same]
      by_cases complete : Reading.isComplete header ⟨history, model, decoder, out⟩ = true
      · rw [if_pos complete, Reading.finish_complete complete]
        exact ⟨⟨words, .here words⟩, Nat.le_refl _, Or.inl rfl⟩
      · rw [if_neg complete, Reading.finish_advance, Reading.advance, if_neg complete]
        have traced := (Reading.questions header ⟨history, model, decoder, out⟩).traced mirrors
        have asks {answer : Packet × Words}
            (answered : ((questions header ⟨history, words, out⟩).trace words).2 = .ok answer) :
            1 ≤ ((questions header ⟨history, words, out⟩).trace words).1.length :=
          Decision.bits_of_adaptive answered
        change Traced words ((questions header ⟨history, words, out⟩).trace words) _ at traced
        generalize (questions header ⟨history, words, out⟩).trace words = trace at traced asks ⊢
        obtain ⟨bits, result⟩ := trace
        obtain ⟨last, path, agree⟩ := traced
        rcases agree.cases with ⟨error, rfl, read⟩ |
          ⟨⟨packet, after⟩, ⟨_, observed, next⟩, rfl, read, rfl, rfl, mirrored⟩
        · rw [read]
          exact ⟨⟨last, path⟩, Nat.zero_le _, Or.inl rfl⟩
        · rw [read]
          have bit : 1 ≤ bits.length := asks rfl
          simp only [Reading.take]
          cases packet.apply header.dictionary history out with
          | error error => exact ⟨⟨_, path⟩, bit, Or.inl rfl⟩
          | ok grown =>
              cases grown with
              | none =>
                  refine ⟨⟨_, path⟩, bit, Or.inl ?_⟩
                  simp only [Words.isSpent_mirrors mirrored, Bool.and_eq_true, beq_iff_eq]
                  split
                  · rfl
                  · rfl
              | some grown =>
                  obtain ⟨⟨final, onward⟩, packets, outcome⟩ := ih grown.1 mirrored grown.2
                  refine ⟨⟨final, path.append onward⟩, ?_, ?_⟩
                  · rw [List.length_cons, List.length_append, Nat.add_comm]
                    exact Nat.add_le_add bit packets
                  · exact outcome.imp id fun unfinished =>
                      ⟨unfinished.1, congrArg (· + 1) unfinished.2⟩

end Machine

end TaggedBlock.Lzma
