set_option autoImplicit false

namespace TaggedBlock

section Mapped

variable {α β ε δ : Type} {result : Except ε α}

theorem map_eq_ok_iff {f : α → β} {value : β} :
    result.map f = .ok value ↔ ∃ inner, result = .ok inner ∧ f inner = value := by
  cases result with
  | error error => exact iff_of_false (fun same => nomatch same) (fun ⟨_, same, _⟩ => nomatch same)
  | ok inner =>
      refine ⟨fun mapped => ?_, ?_⟩
      · cases mapped
        exact ⟨inner, rfl, rfl⟩
      · rintro ⟨_, same, rfl⟩
        cases same
        rfl

theorem map_eq_error_iff {f : α → β} {error : ε} :
    result.map f = .error error ↔ result = .error error := by
  cases result with
  | error other =>
      refine ⟨fun mapped => ?_, fun same => ?_⟩
      · cases mapped
        rfl
      · cases same
        rfl
  | ok inner => exact iff_of_false (fun same => nomatch same) (fun same => nomatch same)

theorem map_error_eq_ok {f : ε → δ} {value : α} : result.mapError f = .ok value ↔ result = .ok value := by
  refine ⟨fun mapped => ?_, fun same => by rw [same]; rfl⟩
  cases result with
  | error error => cases mapped
  | ok inner => cases mapped; rfl

theorem map_error_eq_error_iff {f : ε → δ} {error : δ} :
    result.mapError f = .error error ↔ ∃ inner, result = .error inner ∧ f inner = error := by
  cases result with
  | error inner =>
      refine ⟨fun mapped => ?_, ?_⟩
      · cases mapped
        exact ⟨inner, rfl, rfl⟩
      · rintro ⟨_, same, rfl⟩
        cases same
        rfl
  | ok value => exact iff_of_false (fun same => nomatch same) (fun ⟨_, same, _⟩ => nomatch same)

theorem exists_map_error_eq_error {f : ε → δ} :
    (∃ error, result.mapError f = .error error) ↔ ∃ error, result = .error error := by
  cases result with
  | error error => exact iff_of_true ⟨f error, rfl⟩ ⟨error, rfl⟩
  | ok value => exact iff_of_false (fun found => nomatch found) (fun found => nomatch found)

end Mapped

end TaggedBlock
