import TaggedBlock.Registry

set_option autoImplicit false

namespace TaggedBlock.Registry

def registerAll (registry : Registry) : List (Algorithm × Codec) → Except Error Registry
  | [] => .ok registry
  | (algorithm, codec) :: calls =>
      match registry.register algorithm codec with
      | .error error => .error error
      | .ok next => next.registerAll calls

-- Whatever the first registry has a codec for, the second has the same codec for.
def Extends (base grown : Registry) : Prop :=
  ∀ algorithm codec, base.slots algorithm = some codec → grown.slots algorithm = some codec

theorem Extends.refl (registry : Registry) : registry.Extends registry := fun _ _ slot => slot

theorem Extends.trans {first second third : Registry} (before : first.Extends second)
    (behind : second.Extends third) : first.Extends third :=
  fun algorithm codec slot => behind algorithm codec (before algorithm codec slot)

section Register

variable {registry next : Registry} {algorithm : Algorithm} {codec : Codec}

theorem register_of_taken {old : Codec} (taken : registry.slots algorithm = some old)
    (codec : Codec) : registry.register algorithm codec = .error (.duplicateAlgorithm algorithm) := by
  unfold register
  split
  · rfl
  · rename_i free
    cases free.symm.trans taken

theorem register_of_free (free : registry.slots algorithm = none) (codec : Codec) :
    registry.register algorithm codec =
      .ok (registry.insert algorithm codec (ne_none_of_free free)) := by
  unfold register
  split
  · rename_i taken
    cases taken.symm.trans free
  · rfl

theorem register_eq_ok (registered : registry.register algorithm codec = .ok next) :
    registry.slots algorithm = none ∧
      ∀ asked, next.slots asked = if asked = algorithm then some codec else registry.slots asked := by
  cases slot : registry.slots algorithm with
  | some old => cases (register_of_taken slot codec).symm.trans registered
  | none =>
      cases (register_of_free slot codec).symm.trans registered
      exact ⟨rfl, fun asked => slots_insert _ _ _ _ _⟩

theorem extends_register (registered : registry.register algorithm codec = .ok next) :
    registry.Extends next := by
  obtain ⟨free, slots⟩ := register_eq_ok registered
  intro asked old slot
  have different : asked ≠ algorithm := by
    rintro rfl
    cases free.symm.trans slot
  rw [slots, if_neg different, slot]

end Register

section Run

variable {registry final : Registry} {calls : List (Algorithm × Codec)}

theorem register_all_cons {algorithm : Algorithm} {codec : Codec}
    (built : registry.registerAll ((algorithm, codec) :: calls) = .ok final) :
    ∃ next, registry.register algorithm codec = .ok next ∧ next.registerAll calls = .ok final := by
  rw [registerAll] at built
  split at built
  · cases built
  · rename_i next registered
    exact ⟨next, registered, built⟩

theorem register_all_append {more : List (Algorithm × Codec)}
    (built : registry.registerAll (calls ++ more) = .ok final) :
    ∃ middle, registry.registerAll calls = .ok middle ∧ middle.registerAll more = .ok final := by
  induction calls generalizing registry with
  | nil => exact ⟨registry, rfl, built⟩
  | cons call calls ih =>
      obtain ⟨next, registered, rest⟩ := register_all_cons built
      obtain ⟨middle, first, second⟩ := ih rest
      refine ⟨middle, ?_, second⟩
      rw [registerAll, registered]
      exact first

theorem extends_register_all (built : registry.registerAll calls = .ok final) :
    registry.Extends final := by
  induction calls generalizing registry with
  | nil =>
      cases built
      exact Extends.refl _
  | cons call calls ih =>
      obtain ⟨next, registered, rest⟩ := register_all_cons built
      exact (extends_register registered).trans (ih rest)

theorem slots_of_not_called {asked : Algorithm} (built : registry.registerAll calls = .ok final)
    (other : asked ∉ calls.map Prod.fst) : final.slots asked = registry.slots asked := by
  induction calls generalizing registry with
  | nil =>
      cases built
      rfl
  | cons call calls ih =>
      obtain ⟨next, registered, rest⟩ := register_all_cons built
      rw [List.map_cons, List.mem_cons, not_or] at other
      rw [ih rest other.2, (register_eq_ok registered).2, if_neg other.1]

theorem slots_of_called {algorithm : Algorithm} {codec : Codec}
    (built : registry.registerAll calls = .ok final) (called : (algorithm, codec) ∈ calls) :
    final.slots algorithm = some codec := by
  induction calls generalizing registry with
  | nil => cases called
  | cons call calls ih =>
      obtain ⟨next, registered, rest⟩ := register_all_cons built
      rcases List.mem_cons.mp called with rfl | later
      · have slot := (register_eq_ok registered).2 algorithm
        rw [if_pos rfl] at slot
        exact extends_register_all rest algorithm codec slot
      · exact ih rest later

theorem free_of_register_all (built : registry.registerAll calls = .ok final) :
    (calls.map Prod.fst).Nodup ∧ ∀ algorithm ∈ calls.map Prod.fst, registry.slots algorithm = none := by
  induction calls generalizing registry with
  | nil => exact ⟨List.nodup_nil, fun _ member => nomatch member⟩
  | cons call calls ih =>
      obtain ⟨algorithm, codec⟩ := call
      obtain ⟨next, registered, rest⟩ := register_all_cons built
      obtain ⟨free, slots⟩ := register_eq_ok registered
      obtain ⟨distinct, frees⟩ := ih rest
      have new : algorithm ∉ calls.map Prod.fst := by
        intro again
        have taken := slots algorithm
        rw [frees algorithm again, if_pos rfl] at taken
        cases taken
      refine ⟨List.nodup_cons.mpr ⟨new, distinct⟩, ?_⟩
      intro asked member
      rcases List.mem_cons.mp member with rfl | later
      · exact free
      · have different : asked ≠ algorithm := by
          rintro rfl
          exact new later
        have before := slots asked
        rwa [frees asked later, if_neg different, eq_comm] at before

end Run

theorem resolve_eq_ok_iff (registry : Registry) (algorithm : Algorithm) (codec : Codec) :
    registry.resolve algorithm = .ok codec ↔ registry.slots algorithm = some codec := by
  cases slot : registry.slots algorithm with
  | none =>
      simp only [resolve, slot]
      exact iff_of_false (fun same => nomatch same) (fun same => nomatch same)
  | some found => simp only [resolve, slot, Except.ok.injEq, Option.some.injEq]

theorem resolve_of_free {registry : Registry} {algorithm : Algorithm}
    (free : registry.slots algorithm = none) :
    registry.resolve algorithm = .error (.unknownAlgorithm algorithm) := by
  simp only [resolve, free]

theorem contains_iff (registry : Registry) (algorithm : Algorithm) :
    registry.contains algorithm = true ↔ ∃ codec, registry.slots algorithm = some codec :=
  Option.isSome_iff_exists

theorem contains_eq_false_iff (registry : Registry) (algorithm : Algorithm) :
    registry.contains algorithm = false ↔ registry.slots algorithm = none :=
  Option.isSome_eq_false_iff.trans Option.isNone_iff_eq_none

theorem mem_algorithms (registry : Registry) (algorithm : Algorithm) :
    algorithm ∈ registry.algorithms ↔ registry.contains algorithm = true := by
  have listed : algorithm ∈ (List.range 256).map fun id => (⟨UInt8.ofNat id⟩ : Algorithm) := by
    refine List.mem_map.mpr ⟨algorithm.id.toNat, List.mem_range.mpr algorithm.id.toNat_lt, ?_⟩
    rw [UInt8.ofNat_toNat]
  rw [algorithms, List.mem_filter]
  exact and_iff_right listed

theorem algorithms_ascending (registry : Registry) :
    registry.algorithms.Pairwise fun first second => first.id < second.id := by
  refine List.Pairwise.filter _ (List.pairwise_map.mpr ?_)
  refine List.Pairwise.imp_of_mem ?_ List.pairwise_lt_range
  intro first second low high less
  rw [List.mem_range] at low high
  rw [UInt8.lt_iff_toNat_lt, UInt8.toNat_ofNat', UInt8.toNat_ofNat', Nat.mod_eq_of_lt low,
    Nat.mod_eq_of_lt high]
  exact less

theorem nodup_algorithms (registry : Registry) : registry.algorithms.Nodup := by
  refine (algorithms_ascending registry).imp ?_
  rintro first second less rfl
  exact UInt8.lt_irrefl first.id less

@[simp] theorem slots_empty (algorithm : Algorithm) :
    empty.slots algorithm = if algorithm = .none then some .identity else none := rfl

section Contents

variable {registry : Registry} {calls : List (Algorithm × Codec)}

theorem contains_iff_called (built : empty.registerAll calls = .ok registry)
    (algorithm : Algorithm) :
    registry.contains algorithm = true ↔ algorithm = .none ∨ algorithm ∈ calls.map Prod.fst := by
  rw [contains_iff]
  constructor
  · rintro ⟨codec, slot⟩
    by_cases called : algorithm ∈ calls.map Prod.fst
    · exact Or.inr called
    · rw [slots_of_not_called built called] at slot
      by_cases none : algorithm = .none
      · exact Or.inl none
      · rw [slots_empty, if_neg none] at slot
        cases slot
  · rintro (rfl | called)
    · exact ⟨.identity, registry.slots_none⟩
    · obtain ⟨call, member, rfl⟩ := List.mem_map.mp called
      exact ⟨call.2, slots_of_called built member⟩

theorem none_not_called (built : empty.registerAll calls = .ok registry) :
    Algorithm.none ∉ calls.map Prod.fst := by
  intro called
  cases (free_of_register_all built).2 .none called

theorem algorithms_perm (built : empty.registerAll calls = .ok registry) :
    registry.algorithms.Perm (.none :: calls.map Prod.fst) := by
  have distinct := (free_of_register_all built).1
  refine (List.perm_ext_iff_of_nodup (nodup_algorithms registry)
    (List.nodup_cons.mpr ⟨none_not_called built, distinct⟩)).mpr ?_
  intro algorithm
  rw [mem_algorithms, contains_iff_called built, List.mem_cons]

theorem register_after (built : empty.registerAll calls = .ok registry) (algorithm : Algorithm)
    (codec : Codec) :
    (registry.register algorithm codec = .error (.duplicateAlgorithm algorithm) ↔
      algorithm = .none ∨ algorithm ∈ calls.map Prod.fst) ∧
    ((∃ next, registry.register algorithm codec = .ok next) ↔
      ¬ (algorithm = .none ∨ algorithm ∈ calls.map Prod.fst)) := by
  rw [← contains_iff_called built]
  cases slot : registry.slots algorithm with
  | none =>
      have free := (contains_eq_false_iff registry algorithm).mpr slot
      rw [register_of_free slot codec, free]
      exact ⟨iff_of_false (fun failed => nomatch failed) Bool.false_ne_true,
        iff_of_true ⟨_, rfl⟩ Bool.false_ne_true⟩
  | some old =>
      have taken := (contains_iff registry algorithm).mpr ⟨old, slot⟩
      rw [register_of_taken slot codec, taken]
      exact ⟨iff_of_true rfl rfl, iff_of_false (fun found => nomatch found) (fun free => free rfl)⟩

-- The registry is its history: the next call fails just for an algorithm that has its codec, and
-- the look-ups, the test and the list all tell the calls.
theorem contents_of_run (built : empty.registerAll calls = .ok registry) :
    (∀ algorithm codec,
      (registry.register algorithm codec = .error (.duplicateAlgorithm algorithm) ↔
        algorithm = .none ∨ algorithm ∈ calls.map Prod.fst) ∧
      ((∃ next, registry.register algorithm codec = .ok next) ↔
        ¬ (algorithm = .none ∨ algorithm ∈ calls.map Prod.fst))) ∧
    registry.resolve .none = .ok .identity ∧
    (calls.map Prod.fst).Nodup ∧
    (∀ algorithm codec, (algorithm, codec) ∈ calls → registry.resolve algorithm = .ok codec) ∧
    (∀ algorithm, algorithm ≠ .none → algorithm ∉ calls.map Prod.fst →
      registry.resolve algorithm = .error (.unknownAlgorithm algorithm)) ∧
    (∀ algorithm,
      (registry.contains algorithm = true ↔ ∃ codec, registry.resolve algorithm = .ok codec) ∧
      ((∃ codec, registry.resolve algorithm = .ok codec) ↔ algorithm ∈ registry.algorithms)) ∧
    (registry.algorithms.Pairwise fun first second => first.id < second.id) ∧
    registry.algorithms.length = calls.length + 1 := by
  have resolved : ∀ algorithm, registry.contains algorithm = true ↔
      ∃ codec, registry.resolve algorithm = .ok codec := by
    intro algorithm
    simp only [resolve_eq_ok_iff]
    exact contains_iff registry algorithm
  refine ⟨register_after built, ?_, (free_of_register_all built).1, ?_, ?_, ?_,
    algorithms_ascending registry, ?_⟩
  · exact (resolve_eq_ok_iff registry .none .identity).mpr registry.slots_none
  · intro algorithm codec called
    exact (resolve_eq_ok_iff registry algorithm codec).mpr (slots_of_called built called)
  · intro algorithm other uncalled
    refine resolve_of_free ((slots_of_not_called built uncalled).trans ?_)
    rw [slots_empty, if_neg other]
  · intro algorithm
    exact ⟨resolved algorithm, (resolved algorithm).symm.trans (mem_algorithms registry algorithm).symm⟩
  · rw [(algorithms_perm built).length_eq, List.length_cons, List.length_map]

theorem contents_of_run_to_last_slot :
    ∃ registry, empty.registerAll [(⟨255⟩, .snappy), (⟨7⟩, .lz4)] = .ok registry ∧
      registry.resolve ⟨255⟩ = .ok .snappy ∧ registry.resolve ⟨7⟩ = .ok .lz4 ∧
      registry.resolve ⟨6⟩ = .error (.unknownAlgorithm ⟨6⟩) ∧
      registry.register ⟨255⟩ .lz4 = .error (.duplicateAlgorithm ⟨255⟩) ∧
      registry.algorithms.length = 3 := by
  have run : ∃ registry, empty.registerAll [(⟨255⟩, .snappy), (⟨7⟩, .lz4)] = .ok registry := ⟨_, rfl⟩
  obtain ⟨registry, built⟩ := run
  obtain ⟨next, -, -, resolved, unknown, -, -, count⟩ := contents_of_run built
  refine ⟨registry, built, ?_, ?_, ?_, ?_, count⟩
  · exact resolved ⟨255⟩ .snappy (by simp)
  · exact resolved ⟨7⟩ .lz4 (by simp)
  · exact unknown ⟨6⟩ (by decide) (by simp)
  · exact (next ⟨255⟩ .lz4).1.mpr (by simp)

end Contents

end TaggedBlock.Registry
