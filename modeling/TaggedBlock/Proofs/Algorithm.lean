import TaggedBlock.Algorithm

set_option autoImplicit false

namespace TaggedBlock

namespace Text

section Trim

variable {before spelling after space text : List Char}

theorem trim_start_append (blank : ∀ c ∈ space, isBlank c = true)
    (solid : ∀ c ∈ text.head?, isBlank c = false) : trimStart (space ++ text) = text := by
  rw [trimStart, List.dropWhile_append_of_pos blank]
  cases text with
  | nil => rfl
  | cons c text => rw [List.dropWhile_cons, solid c rfl, if_neg Bool.false_ne_true]

theorem trim_between (begins : ∀ c ∈ before, isBlank c = true)
    (ends : ∀ c ∈ after, isBlank c = true) (solid : ∀ c ∈ spelling, isBlank c = false) :
    trim (before ++ spelling ++ after) = spelling := by
  have reversed : ∀ c ∈ after.reverse, isBlank c = true := fun c member =>
    ends c (List.mem_reverse.mp member)
  have behind : trimStart (after.reverse ++ spelling.reverse) = spelling.reverse := by
    apply trim_start_append reversed
    intro c last
    exact solid c (List.mem_reverse.mp (List.mem_of_mem_head? last))
  cases spelling with
  | nil =>
      have all : ∀ c ∈ before ++ [] ++ after, isBlank c = true := by
        intro c member
        rw [List.append_nil] at member
        exact (List.mem_append.mp member).elim (begins c) (ends c)
      have nothing : trimStart (before ++ [] ++ after) = [] := by
        rw [← List.append_nil (before ++ [] ++ after)]
        exact trim_start_append all nofun
      rw [trim, nothing]
      rfl
  | cons c spelling =>
      have front : trimStart (before ++ (c :: spelling ++ after)) = c :: spelling ++ after := by
        apply trim_start_append begins
        rintro _ ⟨⟩
        exact solid c List.mem_cons_self
      rw [trim, List.append_assoc, front, List.reverse_append, behind, List.reverse_reverse]

theorem exists_trim_start (text : List Char) :
    ∃ space, (∀ c ∈ space, isBlank c = true) ∧ text = space ++ trimStart text :=
  ⟨text.takeWhile isBlank, List.all_eq_true.mp List.all_takeWhile,
    List.takeWhile_append_dropWhile.symm⟩

theorem exists_trim (text : List Char) :
    ∃ before after, (∀ c ∈ before, isBlank c = true) ∧ (∀ c ∈ after, isBlank c = true) ∧
      text = before ++ trim text ++ after := by
  obtain ⟨before, begins, front⟩ := exists_trim_start text
  obtain ⟨behind, ends, back⟩ := exists_trim_start (trimStart text).reverse
  refine ⟨before, behind.reverse, begins, fun c member => ends c (List.mem_reverse.mp member), ?_⟩
  have rest := congrArg List.reverse back
  rw [List.reverse_reverse, List.reverse_append] at rest
  rw [List.append_assoc, trim, ← rest]
  exact front

end Trim

section Lower

variable {c : Char} {text : List Char}

theorem to_lower_foreign (foreign : 128 ≤ c.toNat) : c.toLower = c := by
  apply dif_neg
  rintro ⟨-, below⟩
  have bound : c.toNat ≤ 90 := UInt32.le_iff_toNat_le.mp below
  omega

theorem to_lower_blank (blank : isBlank c = true) : c.toLower = c := by
  apply dif_neg
  rintro ⟨above, below⟩
  have least : 65 ≤ c.toNat := UInt32.le_iff_toNat_le.mp above
  have most : c.toNat ≤ 90 := UInt32.le_iff_toNat_le.mp below
  simp only [isBlank, Bool.or_eq_true, Bool.and_eq_true, decide_eq_true_eq, beq_iff_eq] at blank
  omega

theorem lower_char_ascii (plain : c.toNat < 128) : lowerChar c = [c.toLower] := by
  have table : ∀ code < 128, lowerChar (Char.ofNat code) = [(Char.ofNat code).toLower] := by
    decide +kernel
  have found := table c.toNat plain
  rwa [Char.ofNat_toNat] at found

-- The capitals beyond ASCII whose small letters are not: only the kelvin sign.
theorem Capitals.small_foreign : ∀ capitals ∈ Capitals.all, capitals.last < 128 ∨
    capitals.first = 0x212a ∧ capitals.last = 0x212a ∧ capitals.small 0x212a = 'k'.toNat ∨
    128 ≤ capitals.first + capitals.distance ∧ (capitals.last + capitals.distance < 0xd800 ∨
      0xdfff < capitals.first + capitals.distance ∧
        capitals.last + capitals.distance < 0x110000) := by
  decide +kernel

theorem lower_char_foreign (foreign : 128 ≤ c.toNat) :
    ∃ d ∈ lowerChar c, d = 'k' ∨ 128 ≤ d.toNat := by
  rw [lowerChar]
  split
  · exact ⟨'\u0307', by simp, Or.inr (by decide)⟩
  · split
    · rename_i capitals found
      refine ⟨_, List.mem_singleton_self _, ?_⟩
      have has := List.find?_some found
      simp only [Capitals.has, Bool.and_eq_true, decide_eq_true_eq] at has
      obtain ⟨⟨least, most⟩, -⟩ := has
      rcases Capitals.small_foreign capitals (List.mem_of_find?_eq_some found) with
        ascii | ⟨first, last, small⟩ | ⟨above, valid⟩
      · omega
      · have kelvin : c.toNat = 0x212a := by omega
        left
        rw [kelvin, small]
        rfl
      · right
        have code : (capitals.small c.toNat : Int) = c.toNat + capitals.distance := by
          rw [Capitals.small]
          omega
        rw [Char.ofNat, dif_pos]
        · change 128 ≤ capitals.small c.toNat
          omega
        · rw [Nat.isValidChar]
          omega
    · exact ⟨c, List.mem_singleton_self c, Or.inr foreign⟩

theorem lower_after_ascii (plain : ∀ c ∈ text, c.toNat < 128) (before : List Char) :
    lowerAfter before text = lowerAscii text := by
  induction text generalizing before with
  | nil => rfl
  | cons c text ih =>
      have small := plain c List.mem_cons_self
      have other : c ≠ capitalSigma := by
        rintro rfl
        exact absurd small (by decide)
      rw [lowerAfter, if_neg other, lower_char_ascii small,
        ih fun d member => plain d (List.mem_cons_of_mem c member)]
      rfl

theorem lower_after_foreign (member : c ∈ text) (foreign : 128 ≤ c.toNat) (before : List Char) :
    ∃ d ∈ lowerAfter before text, d = 'k' ∨ 128 ≤ d.toNat := by
  induction text generalizing before with
  | nil => cases member
  | cons head text ih =>
      rw [lowerAfter]
      rcases List.mem_cons.mp member with rfl | later
      · by_cases sigma : c = capitalSigma
        · refine ⟨smallSigma before text, ?_, Or.inr ?_⟩
          · rw [if_pos sigma]
            exact List.mem_append_left _ (List.mem_singleton_self _)
          · rw [smallSigma]
            split
            · decide
            · decide
        · obtain ⟨d, lowered, kept⟩ := lower_char_foreign foreign
          rw [if_neg sigma]
          exact ⟨d, List.mem_append_left _ lowered, kept⟩
      · obtain ⟨d, lowered, kept⟩ := ih later (head :: before)
        exact ⟨d, List.mem_append_right _ lowered, kept⟩

theorem lower_eq_iff {name : List Char} (plain : ∀ c ∈ name, c ≠ 'k' ∧ c.toNat < 128)
    (text : List Char) : lower text = name ↔ lowerAscii text = name := by
  by_cases beyond : ∃ c ∈ text, 128 ≤ c.toNat
  · obtain ⟨c, member, foreign⟩ := beyond
    refine iff_of_false ?_ ?_
    · rintro rfl
      obtain ⟨d, lowered, rfl | beyond⟩ := lower_after_foreign member foreign []
      · exact (plain _ lowered).1 rfl
      · exact Nat.not_lt.mpr beyond (plain d lowered).2
    · rintro rfl
      have kept : c ∈ lowerAscii text := List.mem_map.mpr ⟨c, member, to_lower_foreign foreign⟩
      exact Nat.not_lt.mpr foreign (plain c kept).2
  · have ascii : ∀ c ∈ text, c.toNat < 128 := fun c member =>
      Nat.not_le.mp fun foreign => beyond ⟨c, member, foreign⟩
    rw [lower, lower_after_ascii ascii]

end Lower

theorem to_string_nat_inj {number other : Nat} (same : toString number = toString other) :
    number = other := by
  have digits := congrArg String.toList same
  rw [Nat.toString_eq_repr, Nat.toString_eq_repr, Nat.toList_repr, Nat.toList_repr] at digits
  calc number = Nat.ofDigitChars 10 (Nat.toDigits 10 number) 0 :=
        Nat.ofDigitChars_ten_toDigits.symm
    _ = Nat.ofDigitChars 10 (Nat.toDigits 10 other) 0 := by rw [digits]
    _ = other := Nat.ofDigitChars_ten_toDigits

end Text

namespace Algorithm

variable {algorithm : Algorithm} {name : String}

theorem mem_assigned_of_name (named : algorithm.name? = some name) : algorithm ∈ assigned := by
  by_cases member : algorithm ∈ assigned
  · exact member
  · simp only [assigned, List.mem_cons, List.not_mem_nil, or_false, not_or] at member
    simp only [name?, member, if_false] at named
    cases named

theorem display_of_unnamed {algorithm : Algorithm} (unnamed : algorithm.name? = Option.none) :
    algorithm.display = "#" ++ toString algorithm.id.toNat := by
  rw [display, unnamed]

theorem display_inj {algorithm other : Algorithm} (same : algorithm.display = other.display) :
    algorithm = other := by
  have named : ∀ first ∈ assigned, ∀ second ∈ assigned, first.display = second.display →
      first = second := by decide +kernel
  have unmarked : ∀ first ∈ assigned, first.display.toList.head? ≠ some '#' := by decide +kernel
  cases first : algorithm.name? with
  | some name =>
      have member := mem_assigned_of_name first
      cases second : other.name? with
      | some name => exact named _ member _ (mem_assigned_of_name second) same
      | none =>
          refine absurd ?_ (unmarked algorithm member)
          rw [same, display_of_unnamed second, String.toList_append]
          rfl
  | none =>
      rw [display_of_unnamed first] at same
      cases second : other.name? with
      | some name =>
          refine absurd ?_ (unmarked other (mem_assigned_of_name second))
          rw [← same, String.toList_append]
          rfl
      | none =>
          rw [display_of_unnamed second, String.append_right_inj] at same
          have numbers := UInt8.toNat_inj.mp (Text.to_string_nat_inj same)
          obtain ⟨id⟩ := algorithm
          obtain ⟨number⟩ := other
          rw [mk.injEq]
          exact numbers

theorem find_named (algorithm : Algorithm) (name : String) :
    assigned.find? (fun other => other.name? == some name) = some algorithm ↔
      algorithm.name? = some name := by
  constructor
  · intro found
    have same := List.find?_some found
    exact beq_iff_eq.mp same
  · intro named
    have member := mem_assigned_of_name named
    simp only [assigned, List.mem_cons, List.not_mem_nil, or_false] at member
    rcases member with rfl | rfl | rfl | rfl | rfl | rfl <;> cases named <;> decide

theorem name_plain (named : algorithm.name? = some name) :
    Text.lowerAscii name.toList = name.toList ∧
      ∀ c ∈ name.toList, Text.isBlank c = false ∧ c ≠ 'k' ∧ c.toNat < 128 := by
  have member := mem_assigned_of_name named
  have plain : Text.lowerAscii name.toList = name.toList ∧ (name.toList.all fun c =>
      !Text.isBlank c && c != 'k' && decide (c.toNat < 128)) = true := by
    simp only [assigned, List.mem_cons, List.not_mem_nil, or_false] at member
    rcases member with rfl | rfl | rfl | rfl | rfl | rfl <;> cases named <;> decide +kernel
  refine ⟨plain.1, fun c kept => ?_⟩
  have each := List.all_eq_true.mp plain.2 c kept
  rw [Bool.and_eq_true, Bool.and_eq_true, Bool.not_eq_true', bne_iff_ne, decide_eq_true_iff,
    and_assoc] at each
  exact each

-- A text is a spelling of a name: the name between blanks, up to the case of ASCII letters.
def Spells (text name : String) : Prop :=
  ∃ before spelling after, text.toList = before ++ spelling ++ after ∧
    (∀ c ∈ before, Text.isBlank c = true) ∧ (∀ c ∈ after, Text.isBlank c = true) ∧
    Text.lowerAscii spelling = Text.lowerAscii name.toList

theorem spells_iff (named : algorithm.name? = some name) (text : String) :
    Spells text name ↔ Text.lowerAscii (Text.trim text.toList) = name.toList := by
  obtain ⟨small, plain⟩ := name_plain named
  constructor
  · rintro ⟨before, spelling, after, whole, begins, ends, same⟩
    rw [small] at same
    -- Blanks have no other case, so a spelling with a blank in it would leave one in the name.
    have solid : ∀ c ∈ spelling, Text.isBlank c = false := by
      intro c member
      have kept : c.toLower ∈ name.toList := same ▸ List.mem_map_of_mem member
      have lowered := (plain _ kept).1
      rw [← Bool.not_eq_true] at lowered ⊢
      exact fun blank => lowered (by rwa [Text.to_lower_blank blank])
    rw [whole, Text.trim_between begins ends solid, same]
  · intro same
    obtain ⟨before, after, begins, ends, whole⟩ := Text.exists_trim text.toList
    exact ⟨before, Text.trim text.toList, after, whole, begins, ends, same.trans small.symm⟩

theorem of_name_eq_some_iff (text : String) (algorithm : Algorithm) :
    ofName? text = some algorithm ↔ ∃ name, algorithm.name? = some name ∧
      Text.lowerAscii (Text.trim text.toList) = name.toList := by
  rw [ofName?, find_named]
  constructor
  · intro named
    have plain := (name_plain named).2
    rw [String.toList_ofList] at plain
    refine ⟨_, named, ?_⟩
    rw [String.toList_ofList]
    exact (Text.lower_eq_iff (fun c member => (plain c member).2) _).mp rfl
  · rintro ⟨name, named, same⟩
    have plain := (name_plain named).2
    rw [(Text.lower_eq_iff (fun c member => (plain c member).2) _).mpr same, String.ofList_toList]
    exact named

theorem of_name_recognises (text : String) :
    (∀ algorithm, ofName? text = some algorithm ↔
      ∃ name, algorithm.name? = some name ∧ Spells text name) ∧
    ((∃ c ∈ Text.trim text.toList, 128 ≤ c.toNat) → ofName? text = Option.none) := by
  refine ⟨fun algorithm => ?_, ?_⟩
  · rw [of_name_eq_some_iff]
    exact exists_congr fun name => and_congr_right fun named => (spells_iff named text).symm
  · rintro ⟨c, member, foreign⟩
    cases found : ofName? text with
    | none => rfl
    | some algorithm =>
        obtain ⟨name, named, same⟩ := (of_name_eq_some_iff text algorithm).mp found
        have kept : c ∈ name.toList := by
          rw [← same, ← Text.to_lower_foreign foreign]
          exact List.mem_map_of_mem member
        exact absurd ((name_plain named).2 c kept).2.2 (Nat.not_lt.mpr foreign)

theorem of_name_recognises_exotic :
    ofName? "\u00a0LzMa\u2028" = some lzma ∧
      (∃ c ∈ Text.trim "brotl\u0130 ".toList, 128 ≤ c.toNat) ∧
      ofName? "brotl\u0130 " = Option.none := by
  have dotted : ∃ c ∈ Text.trim "brotl\u0130 ".toList, 128 ≤ c.toNat :=
    ⟨'\u0130', by decide +kernel, by decide⟩
  refine ⟨?_, dotted, (of_name_recognises _).2 dotted⟩
  exact ((of_name_recognises _).1 lzma).mpr
    ⟨"lzma", rfl, ['\u00a0'], ['L', 'z', 'M', 'a'], ['\u2028'], by decide +kernel,
      List.forall_mem_singleton.mpr (by decide), List.forall_mem_singleton.mpr (by decide),
      by decide +kernel⟩

end Algorithm

end TaggedBlock
