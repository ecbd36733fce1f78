import TaggedBlock.Block
import TaggedBlock.Proofs.Registry
import TaggedBlock.Proofs.Results

set_option autoImplicit false

namespace TaggedBlock.Registry

section Asking

variable {α : Type} {ask : Registry → Except Error α} {answer : Codec → Except Error α}
  {algorithm : Algorithm}

-- The question is answered by the codec of the algorithm alone, or not at all.
def AsksFor (algorithm : Algorithm) (ask : Registry → Except Error α)
    (answer : Codec → Except Error α) : Prop :=
  ∀ registry : Registry, ask registry = (registry.resolve algorithm).bind answer

theorem AsksFor.of_known (asks : AsksFor algorithm ask answer) {registry : Registry}
    {codec : Codec} (slot : registry.slots algorithm = some codec) :
    ask registry = answer codec := by
  rw [asks, (resolve_eq_ok_iff registry algorithm codec).mpr slot]
  rfl

theorem AsksFor.of_free (asks : AsksFor algorithm ask answer) {registry : Registry}
    (free : registry.slots algorithm = none) :
    ask registry = .error (.unknownAlgorithm algorithm) := by
  rw [asks, resolve_of_free free]
  rfl

end Asking

def writtenBy (algorithm : Algorithm) (raw : Bytes) (codec : Codec) : Except Error Bytes :=
  ((codec.encode raw).map (algorithm.id :: ·)).mapError (.encodeFailed algorithm)

def readBy (algorithm : Algorithm) (payload : Bytes) (codec : Codec) : Except Error Bytes :=
  (codec.decode payload).mapError (.corruptPayload algorithm)

theorem asks_for_unwrap (algorithm : Algorithm) (payload : Bytes) :
    AsksFor algorithm (·.unwrap (algorithm.id :: payload)) (readBy algorithm payload) := by
  intro registry
  simp only [unwrap, Block.parse]
  cases registry.resolve algorithm with
  | error error => rfl
  | ok codec =>
      simp only [Except.bind, readBy]
      cases codec.decode payload with
      | error source => rfl
      | ok raw => rfl

theorem asks_for_wrap (algorithm : Algorithm) (raw : Bytes) :
    AsksFor algorithm (·.wrap algorithm raw) (writtenBy algorithm raw) := by
  intro registry
  simp only [wrap]
  cases registry.resolve algorithm with
  | error error => rfl
  | ok codec =>
      simp only [Except.bind, writtenBy]
      cases codec.encode raw with
      | error source => rfl
      | ok payload => rfl

theorem unwrap_eq_unknown_iff (registry : Registry) (tag : UInt8) (payload : Bytes)
    (algorithm : Algorithm) :
    registry.unwrap (tag :: payload) = .error (.unknownAlgorithm algorithm) ↔
      registry.slots ⟨tag⟩ = none ∧ algorithm = ⟨tag⟩ := by
  have asks := asks_for_unwrap ⟨tag⟩ payload
  cases slot : registry.slots ⟨tag⟩ with
  | none =>
      rw [asks.of_free slot, Except.error.injEq, Error.unknownAlgorithm.injEq]
      exact ⟨fun same => ⟨rfl, same.symm⟩, fun known => known.2.symm⟩
  | some codec =>
      rw [asks.of_known slot, readBy]
      refine iff_of_false (fun unknown => ?_) fun free => Option.some_ne_none codec free.1
      obtain ⟨_, _, same⟩ := map_error_eq_error_iff.mp unknown
      cases same

theorem contains_iff_unwrap (registry : Registry) (tag : UInt8) (payload : Bytes) :
    registry.contains ⟨tag⟩ = true ↔
      ∀ algorithm, registry.unwrap (tag :: payload) ≠ .error (.unknownAlgorithm algorithm) := by
  rw [← Bool.not_eq_false, contains_eq_false_iff]
  constructor
  · intro known algorithm unknown
    exact known ((registry.unwrap_eq_unknown_iff tag payload algorithm).mp unknown).1
  · intro known free
    exact known ⟨tag⟩ ((registry.unwrap_eq_unknown_iff tag payload ⟨tag⟩).mpr ⟨free, rfl⟩)

theorem known_of_wrap {registry : Registry} {algorithm : Algorithm} {raw bytes : Bytes}
    (wrapped : registry.wrap algorithm raw = .ok bytes) :
    registry.contains algorithm = true ∧ bytes.head? = some algorithm.id := by
  have asks := asks_for_wrap algorithm raw
  cases slot : registry.slots algorithm with
  | none => cases (asks.of_free slot).symm.trans wrapped
  | some codec =>
      have written := (asks.of_known slot).symm.trans wrapped
      obtain ⟨payload, _, rfl⟩ := map_eq_ok_iff.mp (map_error_eq_ok.mp written)
      exact ⟨(registry.contains_iff algorithm).mpr ⟨codec, slot⟩, rfl⟩

end TaggedBlock.Registry
