import TaggedBlock.Phrase
import TaggedBlock.Proofs.Bytes

set_option autoImplicit false

namespace TaggedBlock

def Phrase.expand? (phrase : Phrase) (out : Array UInt8) : Option (Array UInt8) :=
  let grown := out ++ phrase.fresh
  if within : 0 < phrase.distance ∧ phrase.distance ≤ grown.size then
    some (copyBack grown phrase.distance phrase.length within)
  else none

namespace Phrasing

def expandAll? (out : Array UInt8) : List Phrase → Option (Array UInt8)
  | [] => some out
  | phrase :: phrases => (phrase.expand? out).bind fun grown => expandAll? grown phrases

def expand? (phrasing : Phrasing) : Option (Array UInt8) :=
  (expandAll? #[] phrasing.phrases).map (· ++ phrasing.tail)

def Bounded (farthest : Nat) (phrases : List Phrase) : Prop :=
  ∀ phrase ∈ phrases, phrase.distance ≤ farthest ∧ shortestCopy ≤ phrase.length

theorem expand_all_append (out : Array UInt8) (first second : List Phrase) :
    expandAll? out (first ++ second) =
      (expandAll? out first).bind fun grown => expandAll? grown second := by
  induction first generalizing out with
  | nil => rfl
  | cons phrase phrases ih =>
      simp only [List.cons_append, expandAll?, ih, Option.bind_assoc]

theorem size_expand (phrase : Phrase) (out grown : Array UInt8)
    (expanded : phrase.expand? out = some grown) : out.size ≤ grown.size := by
  simp only [Phrase.expand?] at expanded
  split at expanded
  · cases expanded
    rw [size_copy_back, size_append]
    omega
  · cases expanded

theorem size_expand_all (phrases : List Phrase) (out final : Array UInt8)
    (expanded : expandAll? out phrases = some final) : out.size ≤ final.size := by
  induction phrases generalizing out with
  | nil => cases expanded; exact Nat.le_refl _
  | cons phrase phrases ih =>
      obtain ⟨grown, first, rest⟩ := Option.bind_eq_some_iff.mp expanded
      exact Nat.le_trans (size_expand phrase out grown first) (ih grown rest)

-- Behind the first text the phrases spell the second: each appends its fresh bytes and then a copy
-- from no farther back than what is there.
inductive Expands : Bytes → List Phrase → Bytes → Prop where
  | nil (text : Bytes) : Expands text [] text
  | cons (text middle whole : Bytes) (phrase : Phrase) (phrases : List Phrase)
      (offset : 0 < phrase.distance ∧ phrase.distance ≤ (text ++ phrase.fresh).length)
      (copied : Copied phrase.distance phrase.length (text ++ phrase.fresh) middle)
      (rest : Expands middle phrases whole) :
      Expands text (phrase :: phrases) whole

theorem expands_iff (out : Array UInt8) (phrases : List Phrase) (whole : Bytes) :
    Expands out.toList phrases whole ↔
      ∃ final, expandAll? out phrases = some final ∧ final.toList = whole := by
  induction phrases generalizing out with
  | nil =>
      refine ⟨fun expands => ?_, ?_⟩
      · cases expands
        exact ⟨out, rfl, rfl⟩
      · rintro ⟨final, same, rfl⟩
        cases same
        exact .nil _
  | cons phrase phrases ih =>
      have grown : (out ++ phrase.fresh).toList = out.toList ++ phrase.fresh :=
        Array.toList_appendList
      have size : (out.toList ++ phrase.fresh).length = (out ++ phrase.fresh).size := by
        rw [← grown, Array.length_toList]
      refine ⟨fun expands => ?_, ?_⟩
      · cases expands with
        | cons _ middle _ _ _ offset copied rest =>
            rw [size] at offset
            rw [← grown] at copied
            have made := (copied_iff _ _ _ _ offset).mp copied
            subst made
            obtain ⟨final, expanded, same⟩ := (ih _).mp rest
            refine ⟨final, ?_, same⟩
            simp only [expandAll?, Phrase.expand?]
            rw [dif_pos offset]
            exact expanded
      · rintro ⟨final, expanded, same⟩
        obtain ⟨middle, first, rest⟩ := Option.bind_eq_some_iff.mp expanded
        simp only [Phrase.expand?] at first
        split at first
        · rename_i within
          cases first
          refine .cons _ _ _ phrase phrases (by rw [size]; exact within) ?_
            ((ih _).mpr ⟨final, rest, same⟩)
          rw [← grown]
          exact (copied_iff _ _ _ _ within).mpr rfl
        · cases first

theorem agree_until_agrees (text : Array UInt8) (earlier later stop : Nat) (order : earlier < later)
    (within : stop ≤ text.size) :
    later ≤ agreeUntil text earlier later stop order within ∧
      (agreeUntil text earlier later stop order within = later ∨
        agreeUntil text earlier later stop order within ≤ stop) ∧
      ∀ step, later + step < agreeUntil text earlier later stop order within →
        text[earlier + step]? = text[later + step]? := by
  fun_induction agreeUntil text earlier later stop order within with
  | case1 earlier later order below same ih =>
      obtain ⟨forward, bounded, agrees⟩ := ih
      refine ⟨by omega, Or.inr (by omega), ?_⟩
      intro step before
      cases step with
      | zero =>
          simpa only [Nat.add_zero, Array.getElem?_eq_getElem (show later < text.size by omega),
            Array.getElem?_eq_getElem (show earlier < text.size by omega)] using congrArg some same
      | succ step =>
          have next := agrees step (by omega)
          rwa [Nat.add_right_comm, Nat.add_right_comm later] at next
  | case2 earlier later order below different =>
      exact ⟨Nat.le_refl _, Or.inl rfl, fun step before => by omega⟩
  | case3 earlier later order past =>
      exact ⟨Nat.le_refl _, Or.inl rfl, fun step before => by omega⟩

theorem repeat_end_repeats (farthest : Nat) (text : Array UInt8) (candidate place : Nat)
    (found : place < repeatEnd farthest text candidate place) :
    candidate < place ∧ place - candidate ≤ farthest ∧
      repeatEnd farthest text candidate place ≤ text.size ∧
      ∀ step, place + step < repeatEnd farthest text candidate place →
        text[candidate + step]? = text[place + step]? := by
  unfold repeatEnd at found ⊢
  split at found
  · rename_i near
    rw [dif_pos near]
    obtain ⟨forward, bounded, agrees⟩ :=
      agree_until_agrees text candidate place (text.size - freshEnd) near.1 (Nat.sub_le _ _)
    refine ⟨near.1, near.2, ?_, agrees⟩
    rcases bounded with still | bounded
    · omega
    · exact Nat.le_trans bounded (Nat.sub_le _ _)
  · omega

theorem extract_append_extract (text : Array UInt8) (start place : Nat) (order : start ≤ place) :
    text.extract 0 start ++ (text.extract start place).toList = text.extract 0 place := by
  rw [append_to_list, Array.extract_append_extract, Nat.zero_min, Nat.max_eq_right order]

theorem expand_accepted (text : Array UInt8) (start place distance length : Nat)
    (order : start ≤ place) (positive : 0 < distance) (back : distance ≤ place)
    (reach : place + length ≤ text.size)
    (same : ∀ step, step < length → text[place - distance + step]? = text[place + step]?) :
    (Phrase.mk (text.extract start place).toList distance length).expand? (text.extract 0 start) =
      some (text.extract 0 (place + length)) := by
  have size : (text.extract 0 place).size = place := by
    rw [Array.size_extract]
    omega
  simp only [Phrase.expand?, extract_append_extract text start place order]
  rw [dif_pos ⟨positive, by omega⟩]
  rw [copy_back_extract text distance length place reach positive back same]

theorem expand_search (farthest : Nat) (text : Array UInt8) (start place : Nat)
    (seen : Std.HashMap Nat Nat) (found : Array Phrase) (order : start ≤ place)
    (inText : place ≤ text.size) (spelled : expandAll? #[] found.toList = some (text.extract 0 start))
    (bounded : Bounded farthest found.toList) :
    (search farthest text start place seen found).expand? = some text ∧
      Bounded farthest (search farthest text start place seen found).phrases := by
  -- Always the phrases found so far spell the text up to `start`, and `place` runs ahead of it.
  fun_induction search farthest text start place seen found with
  | case1 start place seen found room key candidate stop long ih =>
      have longer : place + shortestCopy ≤ repeatEnd farthest text candidate place := long
      obtain ⟨earlier, near, reach, same⟩ := repeat_end_repeats farthest text candidate place
        (by simp only [shortestCopy] at longer; omega)
      have back : place - (place - candidate) = candidate := by omega
      have accepted := expand_accepted text start place (place - candidate) (stop - place) order
        (by omega) (Nat.sub_le _ _) (by omega)
        (by rw [back]; exact fun step below => same step (by omega))
      refine ih (Nat.le_refl _) reach ?_ ?_
      · rw [Array.toList_push, expand_all_append, spelled]
        simp only [Option.bind_some, expandAll?, accepted]
        rw [Nat.add_sub_cancel' (by omega)]
      · intro phrase member
        rw [Array.toList_push, List.mem_append, List.mem_singleton] at member
        rcases member with old | rfl
        · exact bounded phrase old
        · exact ⟨near, Nat.le_sub_of_add_le' longer⟩
  | case2 start place seen found room key candidate stop short ih =>
      exact ih (Nat.le_succ_of_le order) (by simp only [quietEnd] at room; omega) spelled bounded
  | case3 start place seen found past =>
      refine ⟨?_, bounded⟩
      simp only [expand?, spelled, Option.map_some]
      rw [extract_append_extract text start text.size (Nat.le_trans order inText), Array.extract_size]

theorem expand_of_bytes (farthest : Nat) (text : Bytes) :
    (ofBytes farthest text).expand? = some text.toArray ∧
      Bounded farthest (ofBytes farthest text).phrases := by
  refine expand_search farthest text.toArray 0 0 ∅ #[] (Nat.le_refl _) (Nat.zero_le _) ?_ ?_
  · simp [expandAll?]
  · intro phrase member
    cases member

theorem agree_until_replicate (count : Nat) (byte : UInt8) (earlier later stop : Nat)
    (order : earlier < later) (before : later ≤ stop)
    (within : stop ≤ (Array.replicate count byte).size) :
    agreeUntil (Array.replicate count byte) earlier later stop order within = stop := by
  fun_induction agreeUntil (Array.replicate count byte) earlier later stop order within with
  | case1 earlier later order below same ih => exact ih below
  | case2 earlier later order below different =>
      simp only [Array.getElem_replicate, not_true_eq_false] at different
  | case3 earlier later order past => omega

theorem word_replicate (count : Nat) (byte : UInt8) (place : Nat) (room : place + 4 ≤ count) :
    word (Array.replicate count byte) place = littleEndian (List.replicate 4 byte) := by
  have length : min (place + 4) count - place = 4 := by omega
  rw [word, Array.extract_replicate, length, Array.toList_replicate]

-- One byte repeated is that byte and then a copy of what is there, up to the bytes at the very end.
theorem of_bytes_replicate (farthest count : Nat) (byte : UInt8) (reach : 1 ≤ farthest)
    (long : 13 ≤ count) :
    ofBytes farthest (List.replicate count byte) =
      ⟨[⟨[byte], 1, count - 6⟩], List.replicate 5 byte⟩ := by
  have agrees := agree_until_replicate count byte 0 1 (count - 5) Nat.zero_lt_one (by omega)
    (by rw [Array.size_replicate]; exact Nat.sub_le _ _)
  have first : repeatEnd farthest (Array.replicate count byte) 0 0 = 0 := by
    rw [repeatEnd, dif_neg (fun near => Nat.lt_irrefl 0 near.1)]
  have second : repeatEnd farthest (Array.replicate count byte) 0 1 = count - 5 := by
    rw [repeatEnd, dif_pos ⟨Nat.zero_lt_one, reach⟩]
    simp only [Array.size_replicate, freshEnd]
    exact agrees
  have here := word_replicate count byte 0 (by omega)
  have next := word_replicate count byte 1 (by omega)
  rw [ofBytes, List.toArray_replicate, search]
  simp only [Array.size_replicate, here, Std.HashMap.getElem?_empty, Option.getD_none, first]
  rw [if_pos (by rw [quietEnd]; omega), if_neg (by decide), search]
  simp only [Array.size_replicate, next, Std.HashMap.getElem?_insert_self, Option.getD_some, second]
  rw [if_pos (by rw [quietEnd]; omega), if_pos (by rw [shortestCopy]; omega), search]
  simp only [Array.size_replicate]
  rw [if_neg (by rw [quietEnd]; omega)]
  have start : min 1 count - 0 = 1 := by omega
  have rest : min count count - (count - 5) = 5 := by omega
  have copied : count - 5 - 1 = count - 6 := by omega
  simp only [Array.extract_replicate, start, rest, copied, Array.toList_replicate]
  rfl

end Phrasing

end TaggedBlock
