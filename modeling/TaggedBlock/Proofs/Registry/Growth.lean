import TaggedBlock.Batch
import TaggedBlock.Proofs.Registry.Asking

set_option autoImplicit false

namespace TaggedBlock.Registry

-- What a question about one algorithm gives before a registry has grown and after: the same if the
-- algorithm had its codec before, and an error for as long as it has none.
structure Settled {α : Type} (base grown : Registry) (algorithm : Algorithm)
    (ask : Registry → Except Error α) (answer : Codec → Except Error α) : Prop where
  kept : base.contains algorithm = true → ask grown = ask base
  unknown : grown.contains algorithm = false →
    ask base = .error (.unknownAlgorithm algorithm) ∧
      ask grown = .error (.unknownAlgorithm algorithm)
  added : base.contains algorithm = false → grown.contains algorithm = true →
    ask base = .error (.unknownAlgorithm algorithm) ∧
      ∃ codec, grown.resolve algorithm = .ok codec ∧ ask grown = answer codec

theorem Extends.free {base grown : Registry} {algorithm : Algorithm} (grows : base.Extends grown)
    (free : grown.slots algorithm = none) : base.slots algorithm = none := by
  cases before : base.slots algorithm with
  | none => rfl
  | some codec => cases free.symm.trans (grows algorithm codec before)

theorem AsksFor.settled {α : Type} {ask : Registry → Except Error α}
    {answer : Codec → Except Error α} {algorithm : Algorithm} (asks : AsksFor algorithm ask answer)
    {base grown : Registry} (grows : base.Extends grown) :
    Settled base grown algorithm ask answer where
  kept known := by
    obtain ⟨codec, slot⟩ := (contains_iff base algorithm).mp known
    rw [asks.of_known slot, asks.of_known (grows algorithm codec slot)]
  unknown missing := by
    have free := (contains_eq_false_iff grown algorithm).mp missing
    exact ⟨asks.of_free (grows.free free), asks.of_free free⟩
  added missing known := by
    have free := (contains_eq_false_iff base algorithm).mp missing
    obtain ⟨codec, slot⟩ := (contains_iff grown algorithm).mp known
    exact ⟨asks.of_free free, codec, (resolve_eq_ok_iff grown algorithm codec).mpr slot,
      asks.of_known slot⟩

theorem side_by_side_congr {ε α β : Type} {work other : α → Except ε β} {elements : List α}
    (same : ∀ element ∈ elements, work element = other element) :
    sideBySide work elements = sideBySide other elements := by
  have tasks : elements.map (fun element => Task.spawn fun _ => work element) =
      elements.map fun element => Task.spawn fun _ => other element := by
    refine List.map_congr_left fun element member => ?_
    rw [same element member]
  rw [sideBySide, sideBySide, tasks]

theorem asks_for_wrap_all (algorithm : Algorithm) (chunks : List Bytes) :
    AsksFor algorithm (·.wrapAll algorithm chunks)
      fun codec => sideBySide (fun raw => writtenBy algorithm raw codec) chunks := by
  intro registry
  simp only [wrapAll]
  cases resolved : registry.resolve algorithm with
  | error error => rfl
  | ok codec =>
      have slot := (resolve_eq_ok_iff registry algorithm codec).mp resolved
      exact side_by_side_congr fun raw _ => (asks_for_wrap algorithm raw).of_known slot

section Growth

variable {base grown : Registry} {calls more : List (Algorithm × Codec)}

theorem extends_of_runs (built : empty.registerAll calls = .ok base)
    (extended : empty.registerAll (calls ++ more) = .ok grown) : base.Extends grown := by
  obtain ⟨middle, first, second⟩ := register_all_append extended
  cases built.symm.trans first
  exact extends_register_all second

theorem unwrap_all_of_extends (grows : base.Extends grown) {blocks : List Bytes}
    (known : ∀ tag payload, tag :: payload ∈ blocks → base.contains ⟨tag⟩ = true) :
    grown.unwrapAll blocks = base.unwrapAll blocks := by
  refine side_by_side_congr fun block member => ?_
  cases block with
  | nil => rfl
  | cons tag payload =>
      exact ((asks_for_unwrap ⟨tag⟩ payload).settled grows).kept (known tag payload member)

theorem reads_verbatim_of_extends (grows : base.Extends grown) {tag : UInt8}
    (payload : Bytes) (known : base.contains ⟨tag⟩ = true) :
    grown.readsVerbatim (tag :: payload) = base.readsVerbatim (tag :: payload) := by
  obtain ⟨codec, slot⟩ := (contains_iff base ⟨tag⟩).mp known
  simp only [readsVerbatim, Block.parse, slot, grows ⟨tag⟩ codec slot]

theorem settled_by_earlier_calls (built : empty.registerAll calls = .ok base)
    (extended : empty.registerAll (calls ++ more) = .ok grown) :
    (∀ tag payload,
      Settled base grown ⟨tag⟩ (·.unwrap (tag :: payload)) (readBy ⟨tag⟩ payload)) ∧
    (∀ tag payload, base.contains ⟨tag⟩ = true →
      grown.readsVerbatim (tag :: payload) = base.readsVerbatim (tag :: payload)) ∧
    (∀ algorithm raw,
      Settled base grown algorithm (·.wrap algorithm raw) (writtenBy algorithm raw)) ∧
    (∀ blocks, (∀ tag payload, tag :: payload ∈ blocks → base.contains ⟨tag⟩ = true) →
      grown.unwrapAll blocks = base.unwrapAll blocks) ∧
    ∀ algorithm chunks, Settled base grown algorithm (·.wrapAll algorithm chunks) fun codec =>
      sideBySide (fun raw => writtenBy algorithm raw codec) chunks := by
  have grows := extends_of_runs built extended
  refine ⟨?_, ?_, ?_, ?_, ?_⟩
  · exact fun tag payload => (asks_for_unwrap ⟨tag⟩ payload).settled grows
  · exact fun tag payload known => reads_verbatim_of_extends grows payload known
  · exact fun algorithm raw => (asks_for_wrap algorithm raw).settled grows
  · exact fun blocks known => unwrap_all_of_extends grows known
  · exact fun algorithm chunks => (asks_for_wrap_all algorithm chunks).settled grows

def reversing : CustomCodec :=
  ⟨"reversing", fun raw => .ok raw.reverse, fun payload => .ok payload.reverse⟩

def refusing : CustomCodec :=
  ⟨"refusing", fun _ => .error ⟨.compression, "refusing", "never"⟩,
    fun _ => .error ⟨.decompression, "refusing", "never"⟩⟩

theorem settled_by_earlier_calls_customized :
    ∃ base grown, empty.registerAll [(⟨7⟩, .custom reversing)] = .ok base ∧
      empty.registerAll ([(⟨7⟩, .custom reversing)] ++ [(⟨255⟩, .custom refusing)]) = .ok grown ∧
      base.unwrap [7, 1, 2] = .ok [2, 1] ∧ grown.unwrap [7, 1, 2] = base.unwrap [7, 1, 2] ∧
      base.unwrap [255, 1] = .error (.unknownAlgorithm ⟨255⟩) ∧
      (∃ codec, grown.resolve ⟨255⟩ = .ok codec ∧ grown.unwrap [255, 1] = readBy ⟨255⟩ [1] codec) ∧
      base.wrap ⟨9⟩ [1] = .error (.unknownAlgorithm ⟨9⟩) ∧
      grown.wrap ⟨9⟩ [1] = .error (.unknownAlgorithm ⟨9⟩) ∧
      grown.unwrapAll [[7, 1, 2], [], [0, 3]] = base.unwrapAll [[7, 1, 2], [], [0, 3]] ∧
      grown.wrapAll ⟨7⟩ [[1], [2, 3]] = base.wrapAll ⟨7⟩ [[1], [2, 3]] := by
  have first : ∃ base, empty.registerAll [(⟨7⟩, .custom reversing)] = .ok base := ⟨_, rfl⟩
  have second : ∃ grown,
      empty.registerAll ([(⟨7⟩, .custom reversing)] ++ [(⟨255⟩, .custom refusing)]) = .ok grown :=
    ⟨_, rfl⟩
  obtain ⟨base, built⟩ := first
  obtain ⟨grown, extended⟩ := second
  obtain ⟨unwraps, -, wraps, unwrapsAll, wrapsAll⟩ := settled_by_earlier_calls built extended
  have slot : base.slots ⟨7⟩ = some (.custom reversing) := slots_of_called built (by simp)
  have seven : base.contains ⟨7⟩ = true := (contains_iff_called built ⟨7⟩).mpr (by simp)
  have before : base.contains ⟨255⟩ = false :=
    (contains_eq_false_iff base ⟨255⟩).mpr (slots_of_not_called built (by simp))
  have behind : grown.contains ⟨255⟩ = true := (contains_iff_called extended ⟨255⟩).mpr (by simp)
  have never : grown.contains ⟨9⟩ = false :=
    (contains_eq_false_iff grown ⟨9⟩).mpr (slots_of_not_called extended (by simp))
  obtain ⟨missing, found⟩ := (unwraps 255 [1]).added before behind
  obtain ⟨unknown, unknownLater⟩ := (wraps ⟨9⟩ [1]).unknown never
  refine ⟨base, grown, built, extended, ?_, (unwraps 7 [1, 2]).kept seven, missing, found,
    unknown, unknownLater, ?_, (wrapsAll ⟨7⟩ [[1], [2, 3]]).kept seven⟩
  · exact (asks_for_unwrap ⟨7⟩ [1, 2]).of_known slot
  · refine unwrapsAll _ fun tag payload member => (contains_iff_called built ⟨tag⟩).mpr ?_
    simp only [List.mem_cons, List.cons.injEq, List.not_mem_nil, reduceCtorEq, false_or, or_false]
      at member
    rcases member with ⟨rfl, -⟩ | ⟨rfl, -⟩
    · exact Or.inr (by simp)
    · exact Or.inl rfl

end Growth

end TaggedBlock.Registry
