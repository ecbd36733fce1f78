import TaggedBlock.Batch
import TaggedBlock.Proofs.Registry
import TaggedBlock.Proofs.Results

set_option autoImplicit false

namespace TaggedBlock

section Elements

variable {ε α β : Type} {work : α → Except ε β}

-- The answer to a batch is what calls for one element at a time make of it.
structure OneByOne (work : α → Except ε β) (elements : List α) (answer : Except ε (List β)) :
    Prop where
  succeeds : (∃ outs, answer = .ok outs) ↔ ∀ element ∈ elements, ∃ out, work element = .ok out
  values : ∀ outs : List β, answer = .ok outs ↔
    outs.length = elements.length ∧
      ∀ (index : Nat) (element : α) (out : β), elements[index]? = some element →
        outs[index]? = some out → work element = .ok out
  failure : ∀ error, answer = .error error ↔
    ∃ index element, elements[index]? = some element ∧ work element = .error error ∧
      ∀ earlier ∈ elements.take index, ∃ out, work earlier = .ok out

theorem in_turn_of_error {element : α} {error : ε} (failed : work element = .error error)
    (elements : List α) : inTurn work (element :: elements) = .error error := by
  rw [inTurn, failed]

theorem in_turn_of_ok {element : α} {out : β} (worked : work element = .ok out)
    (elements : List α) :
    inTurn work (element :: elements) = (inTurn work elements).map (out :: ·) := by
  rw [inTurn, worked]

theorem in_turn_eq_ok_iff (elements : List α) (outs : List β) :
    inTurn work elements = .ok outs ↔
      outs.length = elements.length ∧
        ∀ (index : Nat) (element : α) (out : β), elements[index]? = some element →
          outs[index]? = some out → work element = .ok out := by
  induction elements generalizing outs with
  | nil =>
      refine ⟨fun done => ?_, fun same => ?_⟩
      · cases done
        exact ⟨rfl, fun _ _ _ inside => nomatch inside⟩
      · rw [List.length_eq_zero_iff.mp same.1]
        rfl
  | cons element elements ih =>
      cases worked : work element with
      | error error =>
          rw [in_turn_of_error worked]
          refine iff_of_false (fun same => nomatch same) ?_
          rintro ⟨size, values⟩
          obtain ⟨out, rest, rfl⟩ := List.exists_cons_of_length_eq_add_one size
          cases worked.symm.trans (values 0 element out rfl rfl)
      | ok out =>
          rw [in_turn_of_ok worked, map_eq_ok_iff]
          constructor
          · rintro ⟨rest, done, rfl⟩
            obtain ⟨size, values⟩ := (ih rest).mp done
            refine ⟨congrArg (· + 1) size, fun index => ?_⟩
            cases index with
            | zero =>
                intro asked other same found
                cases same
                cases found
                exact worked
            | succ index => exact values index
          · rintro ⟨size, values⟩
            obtain ⟨other, rest, rfl⟩ := List.exists_cons_of_length_eq_add_one size
            cases worked.symm.trans (values 0 element other rfl rfl)
            exact ⟨rest, (ih rest).mpr ⟨Nat.succ.inj size, fun index => values (index + 1)⟩, rfl⟩

theorem in_turn_eq_error_iff (elements : List α) (error : ε) :
    inTurn work elements = .error error ↔
      ∃ index element, elements[index]? = some element ∧ work element = .error error ∧
        ∀ earlier ∈ elements.take index, ∃ out, work earlier = .ok out := by
  induction elements with
  | nil => exact iff_of_false (fun same => nomatch same) (fun ⟨_, _, inside, _⟩ => nomatch inside)
  | cons element elements ih =>
      cases worked : work element with
      | error first =>
          rw [in_turn_of_error worked]
          constructor
          · intro same
            cases same
            exact ⟨0, element, rfl, worked, fun _ member => nomatch member⟩
          · rintro ⟨index, asked, found, failed, before⟩
            cases index with
            | zero =>
                cases found
                cases worked.symm.trans failed
                rfl
            | succ index =>
                obtain ⟨out, done⟩ := before element List.mem_cons_self
                cases worked.symm.trans done
      | ok out =>
          rw [in_turn_of_ok worked, map_eq_error_iff, ih]
          constructor
          · rintro ⟨index, asked, found, failed, before⟩
            refine ⟨index + 1, asked, found, failed, fun earlier member => ?_⟩
            rcases List.mem_cons.mp member with rfl | later
            · exact ⟨out, worked⟩
            · exact before earlier later
          · rintro ⟨index, asked, found, failed, before⟩
            cases index with
            | zero =>
                cases found
                cases worked.symm.trans failed
            | succ index =>
                exact ⟨index, asked, found, failed,
                  fun earlier member => before earlier (List.mem_cons_of_mem _ member)⟩

theorem exists_in_turn_eq_ok_iff (elements : List α) :
    (∃ outs, inTurn work elements = .ok outs) ↔
      ∀ element ∈ elements, ∃ out, work element = .ok out := by
  cases answered : inTurn work elements with
  | error error =>
      obtain ⟨index, element, found, failed, -⟩ := (in_turn_eq_error_iff elements error).mp answered
      refine iff_of_false (fun ⟨_, same⟩ => nomatch same) fun all => ?_
      obtain ⟨out, done⟩ := all element (List.mem_of_getElem? found)
      cases failed.symm.trans done
  | ok outs =>
      obtain ⟨size, values⟩ := (in_turn_eq_ok_iff elements outs).mp answered
      refine iff_of_true ⟨outs, rfl⟩ fun element member => ?_
      obtain ⟨index, inside, rfl⟩ := List.mem_iff_getElem.mp member
      have within : index < outs.length := by
        rw [size]
        exact inside
      exact ⟨outs[index], values index _ _ (List.getElem?_eq_getElem inside)
        (List.getElem?_eq_getElem within)⟩

theorem one_by_one_in_turn (work : α → Except ε β) (elements : List α) :
    OneByOne work elements (inTurn work elements) :=
  ⟨exists_in_turn_eq_ok_iff elements, in_turn_eq_ok_iff elements, in_turn_eq_error_iff elements⟩

theorem first_error_map (work : α → Except ε β) (elements : List α) :
    firstError (elements.map work) = inTurn work elements := by
  induction elements with
  | nil => rfl
  | cons element elements ih =>
      cases worked : work element with
      | error error => rw [List.map_cons, worked, firstError, in_turn_of_error worked]
      | ok out => rw [List.map_cons, worked, firstError, in_turn_of_ok worked, ih]

theorem side_by_side_eq_in_turn (work : α → Except ε β) (elements : List α) :
    sideBySide work elements = inTurn work elements := by
  rw [sideBySide, List.map_map]
  exact first_error_map work elements

end Elements

namespace Registry

theorem unwrap_all_eq_in_turn (registry : Registry) (blocks : List Bytes) :
    registry.unwrapAll blocks = inTurn registry.unwrap blocks :=
  side_by_side_eq_in_turn registry.unwrap blocks

theorem wrap_all_of_free {registry : Registry} {algorithm : Algorithm}
    (free : registry.slots algorithm = none) (chunks : List Bytes) :
    registry.wrapAll algorithm chunks = .error (.unknownAlgorithm algorithm) := by
  rw [wrapAll, resolve_of_free free]

theorem wrap_all_of_known {registry : Registry} {algorithm : Algorithm} {codec : Codec}
    (slot : registry.slots algorithm = some codec) (chunks : List Bytes) :
    registry.wrapAll algorithm chunks = inTurn (registry.wrap algorithm) chunks := by
  rw [wrapAll, (resolve_eq_ok_iff registry algorithm codec).mpr slot]
  exact side_by_side_eq_in_turn (registry.wrap algorithm) chunks

-- An algorithm without a codec is found out before the first chunk, so even if there is none.
theorem batches_one_by_one (registry : Registry) :
    (∀ blocks, OneByOne registry.unwrap blocks (registry.unwrapAll blocks)) ∧
    (∀ algorithm chunks, registry.contains algorithm = false →
      registry.wrapAll algorithm chunks = .error (.unknownAlgorithm algorithm)) ∧
    (∀ algorithm chunks, registry.contains algorithm = true →
      OneByOne (registry.wrap algorithm) chunks (registry.wrapAll algorithm chunks)) ∧
    ∀ (ε α β : Type) (work : α → Except ε β) (elements : List α),
      firstError (elements.map work) = inTurn work elements ∧
        sideBySide work elements = inTurn work elements := by
  refine ⟨fun blocks => ?_, fun algorithm chunks missing => ?_, fun algorithm chunks known => ?_,
    fun ε α β work elements => ?_⟩
  · rw [unwrap_all_eq_in_turn]
    exact one_by_one_in_turn registry.unwrap blocks
  · exact wrap_all_of_free ((contains_eq_false_iff registry algorithm).mp missing) chunks
  · obtain ⟨codec, slot⟩ := (contains_iff registry algorithm).mp known
    rw [wrap_all_of_known slot]
    exact one_by_one_in_turn (registry.wrap algorithm) chunks
  · exact ⟨first_error_map work elements, side_by_side_eq_in_turn work elements⟩

theorem batches_one_by_one_mixed :
    empty.unwrapAll [[0, 1], [], [77, 1], [0]] = .error (.malformedBlock 0) ∧
      empty.contains ⟨42⟩ = false ∧ empty.wrapAll ⟨42⟩ [] = .error (.unknownAlgorithm ⟨42⟩) ∧
      empty.contains .none = true ∧ empty.wrapAll .none [[1], []] = .ok [[0, 1], [0]] := by
  obtain ⟨unwraps, unknown, wraps, -⟩ := batches_one_by_one empty
  refine ⟨((unwraps _).failure _).mpr ⟨1, [], rfl, rfl, ?_⟩, rfl, unknown ⟨42⟩ [] rfl, rfl,
    ((wraps .none [[1], []] rfl).values _).mpr ⟨rfl, ?_⟩⟩
  · intro earlier member
    cases List.mem_singleton.mp member
    exact ⟨[1], rfl⟩
  · rintro (_ | _ | index) chunk block found written
    · cases found
      cases written
      rfl
    · cases found
      cases written
      rfl
    · cases found

end Registry

end TaggedBlock
