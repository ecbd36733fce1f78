import TaggedBlock.Proofs.Block

set_option autoImplicit false

namespace TaggedBlock

theorem Algorithm.mem_assigned_iff (algorithm : Algorithm) :
    algorithm ∈ assigned ↔ algorithm.id ≤ 5 := by
  obtain ⟨id⟩ := algorithm
  simp only [assigned, none, snappy, lz4, zstd, brotli, lzma, List.mem_cons, List.not_mem_nil,
    or_false, mk.injEq]
  grind

namespace Registry

structure Answers (registry : Registry) (bytes : Bytes) : Prop where
  malformed : registry.unwrap bytes = .error (.malformedBlock 0) ↔ bytes = []
  unknown : ∀ tag, registry.unwrap bytes = .error (.unknownAlgorithm ⟨tag⟩) ↔
    bytes.head? = some tag ∧ 5 < tag
  stored : ∀ payload, bytes = 0 :: payload → registry.unwrap bytes = .ok payload
  compressed : ∀ tag payload, bytes = tag :: payload → 1 ≤ tag → tag ≤ 5 →
    ∃ codec, registry.slots ⟨tag⟩ = some codec ∧ Algorithm.name? ⟨tag⟩ = some codec.name ∧
      ((∃ raw, codec.decode payload = .ok raw ∧ registry.unwrap bytes = .ok raw) ∨
        ∃ text, codec.decode payload = .error ⟨.decompression, codec.name, text⟩ ∧
          registry.unwrap bytes =
            .error (.corruptPayload ⟨tag⟩ ⟨.decompression, codec.name, text⟩))
  failed : ∀ error, registry.unwrap bytes = .error error →
    error = .malformedBlock 0 ∨ ∃ tag, bytes.head? = some tag ∧
      (error = .unknownAlgorithm ⟨tag⟩ ∨ ∃ name text, Algorithm.name? ⟨tag⟩ = some name ∧
        error = .corruptPayload ⟨tag⟩ ⟨.decompression, name, text⟩)

theorem answers_nil (registry : Registry) : Answers registry [] where
  malformed := iff_of_true rfl rfl
  unknown tag := iff_of_false nofun nofun
  stored payload same := nomatch same
  compressed tag payload same := nomatch same
  failed error same := by
    cases same
    exact Or.inl rfl

theorem answers_of_free {registry : Registry} {tag : UInt8} (free : registry.slots ⟨tag⟩ = none)
    (unassigned : 5 < tag) (payload : Bytes) : Answers registry (tag :: payload) := by
  have unknown : registry.unwrap (tag :: payload) = .error (.unknownAlgorithm ⟨tag⟩) :=
    (asks_for_unwrap ⟨tag⟩ payload).of_free free
  refine ⟨?_, ?_, ?_, ?_, ?_⟩
  · rw [unknown]
    exact iff_of_false nofun nofun
  · intro other
    rw [unknown]
    refine ⟨fun same => ?_, fun ⟨same, _⟩ => ?_⟩
    · cases same
      exact ⟨rfl, unassigned⟩
    · cases same
      rfl
  · rintro payload same
    cases same
    exact absurd unassigned (by decide)
  · rintro other payload same - high
    cases same
    exact absurd unassigned (UInt8.not_lt.mpr high)
  · intro error failed
    cases unknown.symm.trans failed
    exact Or.inr ⟨tag, rfl, Or.inl rfl⟩

theorem unwrap_cases {registry : Registry} {algorithm : Algorithm} {codec : Codec}
    (slot : registry.slots algorithm = some codec) (library : codec.isLibrary = true)
    (payload : Bytes) :
    (∃ raw, codec.decode payload = .ok raw ∧
        registry.unwrap (algorithm.id :: payload) = .ok raw) ∨
      ∃ text, codec.decode payload = .error ⟨.decompression, codec.name, text⟩ ∧
        registry.unwrap (algorithm.id :: payload) =
          .error (.corruptPayload algorithm ⟨.decompression, codec.name, text⟩) := by
  rw [unwrap_cons payload slot]
  cases read : codec.decode payload with
  | ok raw => exact Or.inl ⟨raw, rfl, rfl⟩
  | error error =>
      obtain ⟨text, rfl⟩ := Codec.decode_error_of_library library read
      exact Or.inr ⟨text, rfl, rfl⟩

theorem answers_of_library {registry : Registry} {tag : UInt8} {codec : Codec}
    (slot : registry.slots ⟨tag⟩ = some codec) (named : Algorithm.name? ⟨tag⟩ = some codec.name)
    (library : codec.isLibrary = true) (assigned : tag ≤ 5) (payload : Bytes) :
    Answers registry (tag :: payload) := by
  have result := unwrap_cases slot library payload
  dsimp only at result
  refine ⟨?_, ?_, ?_, ?_, ?_⟩
  · refine iff_of_false (fun malformed => ?_) nofun
    rw [malformed] at result
    obtain ⟨raw, -, same⟩ | ⟨text, -, same⟩ := result <;> cases same
  · refine fun other => iff_of_false (fun unknown => ?_) fun ⟨same, above⟩ => ?_
    · rw [unknown] at result
      obtain ⟨raw, -, same⟩ | ⟨text, -, same⟩ := result <;> cases same
    · cases same
      exact absurd above (UInt8.not_lt.mpr assigned)
  · rintro payload same
    cases same
    exact unwrap_cons payload registry.slots_none
  · rintro other payload same - -
    cases same
    exact ⟨codec, slot, named, result⟩
  · intro error failed
    rw [failed] at result
    obtain ⟨raw, -, same⟩ | ⟨text, -, same⟩ := result
    · cases same
    · cases same
      exact Or.inr ⟨tag, rfl, Or.inr ⟨codec.name, text, named, rfl⟩⟩

section Tuned

variable (level : Int32) (quality : UInt32) {algorithm : Algorithm}

theorem slots_tuned_of_assigned (member : algorithm ∈ Algorithm.assigned) :
    ∃ codec, (tuned level quality).slots algorithm = some codec ∧
      algorithm.name? = some codec.name ∧ codec.isLibrary = true := by
  simp only [Algorithm.assigned, List.mem_cons, List.not_mem_nil, or_false] at member
  rcases member with rfl | rfl | rfl | rfl | rfl | rfl
  · exact ⟨.identity, rfl, rfl, rfl⟩
  · exact ⟨.snappy, rfl, rfl, rfl⟩
  · exact ⟨.lz4, rfl, rfl, rfl⟩
  · exact ⟨.zstd level, rfl, rfl, rfl⟩
  · exact ⟨.brotli quality, rfl, rfl, rfl⟩
  · exact ⟨.lzma, rfl, rfl, rfl⟩

theorem slots_tuned_of_unassigned (absent : algorithm ∉ Algorithm.assigned) :
    (tuned level quality).slots algorithm = none := by
  simp only [Algorithm.assigned, List.mem_cons, List.not_mem_nil, or_false, not_or] at absent
  simp [tuned, empty, absent]

theorem answers_tuned (bytes : Bytes) : Answers (tuned level quality) bytes := by
  cases bytes with
  | nil => exact answers_nil _
  | cons tag payload =>
      by_cases member : ⟨tag⟩ ∈ Algorithm.assigned
      · obtain ⟨codec, slot, named, library⟩ := slots_tuned_of_assigned level quality member
        exact answers_of_library slot named library ((Algorithm.mem_assigned_iff _).mp member)
          payload
      · refine answers_of_free (slots_tuned_of_unassigned level quality member) ?_ payload
        exact UInt8.not_le.mp fun low => member ((Algorithm.mem_assigned_iff _).mpr low)

end Tuned

theorem unwrap_congr {registry other : Registry}
    (same : ∀ algorithm, (registry.slots algorithm).map Codec.decode =
      (other.slots algorithm).map Codec.decode) (bytes : Bytes) :
    registry.unwrap bytes = other.unwrap bytes := by
  cases bytes with
  | nil => rfl
  | cons tag payload =>
      have asks := asks_for_unwrap ⟨tag⟩ payload
      have slots := same ⟨tag⟩
      cases slot : registry.slots ⟨tag⟩ with
      | none =>
          rw [slot, Option.map_none, eq_comm, Option.map_eq_none_iff] at slots
          rw [asks.of_free slot, asks.of_free slots]
      | some codec =>
          rw [slot, Option.map_some, eq_comm, Option.map_eq_some_iff] at slots
          obtain ⟨counterpart, found, reads⟩ := slots
          rw [asks.of_known slot, asks.of_known found, readBy, readBy, reads]

theorem unwrap_tuned_congr (level other : Int32) (quality otherQuality : UInt32) (bytes : Bytes) :
    (tuned level quality).unwrap bytes = (tuned other otherQuality).unwrap bytes := by
  refine unwrap_congr (fun algorithm => ?_) bytes
  simp only [tuned, slots_insert, apply_ite (Option.map Codec.decode), Option.map_some]
  rfl

theorem unwrap_tuned_answers (level : Int32) (quality : UInt32) (bytes : Bytes) :
    Answers (tuned level quality) bytes ∧
      ∀ other otherQuality,
        (tuned other otherQuality).unwrap bytes = (tuned level quality).unwrap bytes :=
  ⟨answers_tuned level quality bytes,
    fun other otherQuality => unwrap_tuned_congr other level otherQuality quality bytes⟩

end Registry

end TaggedBlock
