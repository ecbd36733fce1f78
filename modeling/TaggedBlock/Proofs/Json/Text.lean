import TaggedBlock.Json.Text

set_option autoImplicit false

namespace TaggedBlock.Json

def Blank (space : List Char) : Prop := ∀ c ∈ space, c ∈ [' ', '\n', '\t', '\r']

theorem is_space_iff (c : Char) : isSpace c = true ↔ c ∈ [' ', '\n', '\t', '\r'] := by
  simp [isSpace, or_assoc]

theorem blank_nil : Blank [] := by
  intro c member
  cases member

theorem Blank.append {before behind : List Char} (first : Blank before) (second : Blank behind) :
    Blank (before ++ behind) := by
  intro c member
  rcases List.mem_append.mp member with inFirst | inSecond
  · exact first c inFirst
  · exact second c inSecond

theorem skip_space_append {space : List Char} (blank : Blank space) (rest : List Char) :
    skipSpace (space ++ rest) = skipSpace rest :=
  List.dropWhile_append_of_pos fun c member => (is_space_iff c).mpr (blank c member)

theorem skip_space_cons {c : Char} (solid : isSpace c = false) (rest : List Char) :
    skipSpace (c :: rest) = c :: rest := by
  rw [skipSpace, List.dropWhile_cons, solid]
  rfl

theorem skip_space_blank {space : List Char} (blank : Blank space) : skipSpace space = [] := by
  have skipped := skip_space_append blank []
  rwa [List.append_nil] at skipped

theorem exists_blank (text : List Char) : ∃ space, Blank space ∧ text = space ++ skipSpace text := by
  refine ⟨text.takeWhile isSpace, ?_, List.takeWhile_append_dropWhile.symm⟩
  intro c member
  exact (is_space_iff c).mp (List.all_eq_true.mp List.all_takeWhile c member)

theorem exists_blank_of_skip_space {text rest : List Char} {c : Char}
    (skipped : skipSpace text = c :: rest) : ∃ space, Blank space ∧ text = space ++ c :: rest := by
  obtain ⟨space, blank, whole⟩ := exists_blank text
  exact ⟨space, blank, by rw [← skipped]; exact whole⟩

inductive HexDigit : Nat → Char → Prop where
  | lower (value : Nat) (small : value < 16) : HexDigit value value.digitChar
  | upper (value : Nat) (large : 10 ≤ value) (small : value < 16) :
      HexDigit value value.digitChar.toUpper

theorem hex_digit_eq_some {value : Nat} {c : Char} (digit : HexDigit value c) :
    hexDigit? c = some value := by
  have lower : ∀ value < 16, hexDigit? value.digitChar = some value := by decide
  have upper : ∀ value < 16, 10 ≤ value → hexDigit? value.digitChar.toUpper = some value := by
    decide
  cases digit with
  | lower small => exact lower value small
  | upper large small => exact upper value small large

theorem hex_digit_of_eq_some {value : Nat} {c : Char} (read : hexDigit? c = some value) :
    HexDigit value c := by
  have table : ∀ code < 128, ∀ value ∈ hexDigit? (Char.ofNat code), value < 16 ∧
      (Char.ofNat code = value.digitChar ∨
        10 ≤ value ∧ Char.ofNat code = value.digitChar.toUpper) := by decide +kernel
  have within : c.toNat < 128 := by
    simp only [hexDigit?, Char.le_def, UInt32.le_iff_toNat_le] at read
    change (if 48 ≤ c.toNat ∧ c.toNat ≤ 57 then _ else if 97 ≤ c.toNat ∧ c.toNat ≤ 102 then _
      else if 65 ≤ c.toNat ∧ c.toNat ≤ 70 then _ else _) = _ at read
    split at read
    · omega
    · split at read
      · omega
      · split at read
        · omega
        · cases read
  obtain ⟨small, spelled | ⟨large, spelled⟩⟩ :=
    table c.toNat within value (by rw [Char.ofNat_toNat]; exact read)
  · rw [Char.ofNat_toNat] at spelled
    exact spelled ▸ .lower value small
  · rw [Char.ofNat_toNat] at spelled
    exact spelled ▸ .upper value large small

inductive UnitDigits : Nat → List Char → Prop where
  | mk (a b c d : Nat) (first second third fourth : Char) (high : HexDigit a first)
      (middle : HexDigit b second) (low : HexDigit c third) (lowest : HexDigit d fourth) :
      UnitDigits (((a * 16 + b) * 16 + c) * 16 + d) [first, second, third, fourth]

theorem read_unit_append {unit : Nat} {digits : List Char} (spelled : UnitDigits unit digits)
    (rest : List Char) : readUnit (digits ++ rest) = .ok (unit, rest) := by
  cases spelled with
  | mk a b c d first second third fourth high middle low lowest =>
      simp only [readUnit, List.cons_append, List.nil_append, hex_digit_eq_some high,
        hex_digit_eq_some middle, hex_digit_eq_some low, hex_digit_eq_some lowest]

theorem read_unit_eq_ok {unit : Nat} {text rest : List Char}
    (read : readUnit text = .ok (unit, rest)) :
    ∃ digits, UnitDigits unit digits ∧ text = digits ++ rest := by
  simp only [readUnit] at read
  split at read
  · split at read
    · rename_i a b c d high middle low lowest
      cases read
      exact ⟨_, .mk a b c d _ _ _ _ (hex_digit_of_eq_some high) (hex_digit_of_eq_some middle)
        (hex_digit_of_eq_some low) (hex_digit_of_eq_some lowest), rfl⟩
    · cases read
  · cases read

def letterEscapes : List (Char × Char) :=
  [('"', '"'), ('\\', '\\'), ('/', '/'), ('b', '\x08'), ('f', '\x0c'), ('n', '\n'), ('r', '\r'),
    ('t', '\t')]

inductive Escape : Char → List Char → Prop where
  | letter (letter c : Char) (pair : (letter, c) ∈ letterEscapes) : Escape c [letter]
  | unit (c : Char) (digits : List Char) (spelled : UnitDigits c.toNat digits) :
      Escape c ('u' :: digits)
  | surrogates (c : Char) (leading trailing : Nat) (first second : List Char)
      (high : 0xd800 ≤ leading ∧ leading ≤ 0xdbff) (low : 0xdc00 ≤ trailing ∧ trailing ≤ 0xdfff)
      (joined : c.toNat = 0x10000 + (leading - 0xd800) * 0x400 + (trailing - 0xdc00))
      (before : UnitDigits leading first) (behind : UnitDigits trailing second) :
      Escape c ('u' :: (first ++ '\\' :: 'u' :: second))

inductive SpelledChar : Char → List Char → Prop where
  | plain (c : Char) (quote : c ≠ '"') (backslash : c ≠ '\\') (visible : 0x20 ≤ c.toNat) :
      SpelledChar c [c]
  | escape (c : Char) (form : List Char) (escape : Escape c form) : SpelledChar c ('\\' :: form)

inductive SpelledText : List Char → List Char → Prop where
  | nil : SpelledText [] []
  | cons (c : Char) (text form rest : List Char) (first : SpelledChar c form)
      (others : SpelledText text rest) : SpelledText (c :: text) (form ++ rest)

inductive SpelledString : String → List Char → Prop where
  | mk (value : String) (form : List Char) (spelled : SpelledText value.toList form) :
      SpelledString value ('"' :: (form ++ ['"']))

theorem to_nat_of_nat_of_is_valid_char {code : Nat} (valid : code.isValidChar) :
    (Char.ofNat code).toNat = code := by
  rw [Char.ofNat, dif_pos valid]
  rfl

theorem to_nat_join_surrogates {leading trailing : Nat} (high : 0xd800 ≤ leading ∧ leading ≤ 0xdbff)
    (low : 0xdc00 ≤ trailing ∧ trailing ≤ 0xdfff) :
    (joinSurrogates leading trailing).toNat =
      0x10000 + (leading - 0xd800) * 0x400 + (trailing - 0xdc00) := by
  rw [joinSurrogates, to_nat_of_nat_of_is_valid_char]
  · omega
  · right
    omega

theorem is_leading_surrogate_iff (unit : Nat) :
    isLeadingSurrogate unit = true ↔ 0xd800 ≤ unit ∧ unit ≤ 0xdbff := by
  simp only [isLeadingSurrogate, Bool.and_eq_true, decide_eq_true_eq]

theorem is_trailing_surrogate_iff (unit : Nat) :
    isTrailingSurrogate unit = true ↔ 0xdc00 ≤ unit ∧ unit ≤ 0xdfff := by
  simp only [isTrailingSurrogate, Bool.and_eq_true, decide_eq_true_eq]

theorem unit_digits_lt {unit : Nat} {digits : List Char} (spelled : UnitDigits unit digits) :
    unit < 0x10000 := by
  have small {value : Nat} {c : Char} (digit : HexDigit value c) : value < 16 := by
    cases digit with
    | lower small => exact small
    | upper _ small => exact small
  cases spelled with
  | mk a b c d _ _ _ _ high middle low lowest =>
      have first := small high
      have second := small middle
      have third := small low
      have fourth := small lowest
      omega

theorem read_escape_append {c : Char} {form : List Char} (escape : Escape c form)
    (rest : List Char) : readEscape (form ++ rest) = .ok (c, rest) := by
  cases escape with
  | letter letter _ pair =>
      simp only [letterEscapes, List.mem_cons, Prod.mk.injEq, List.not_mem_nil, or_false] at pair
      rcases pair with ⟨rfl, rfl⟩ | ⟨rfl, rfl⟩ | ⟨rfl, rfl⟩ | ⟨rfl, rfl⟩ | ⟨rfl, rfl⟩ |
        ⟨rfl, rfl⟩ | ⟨rfl, rfl⟩ | ⟨rfl, rfl⟩ <;> rfl
  | unit _ digits spelled =>
      -- No character has the code of a surrogate.
      have valid : c.toNat.isValidChar := c.valid
      have noTrailing : isTrailingSurrogate c.toNat = false := by
        rw [← Bool.not_eq_true, is_trailing_surrogate_iff]
        rcases valid with low | high <;> omega
      have noLeading : isLeadingSurrogate c.toNat = false := by
        rw [← Bool.not_eq_true, is_leading_surrogate_iff]
        rcases valid with low | high <;> omega
      simp only [List.cons_append, readEscape, readUnicode, read_unit_append spelled, noTrailing,
        noLeading, Char.ofNat_toNat, Bool.false_eq_true, if_false]
  | surrogates _ leading trailing first second high low joined before behind =>
      have leads := (is_leading_surrogate_iff leading).mpr high
      have trails := (is_trailing_surrogate_iff trailing).mpr low
      have noTrailing : isTrailingSurrogate leading = false := by
        rw [← Bool.not_eq_true, is_trailing_surrogate_iff]
        omega
      have same : joinSurrogates leading trailing = c :=
        Char.toNat_inj.mp ((to_nat_join_surrogates high low).trans joined.symm)
      simp only [List.cons_append, List.append_assoc, readEscape, readUnicode, readTrailing,
        read_unit_append before, read_unit_append behind, noTrailing, leads, trails, same,
        Bool.false_eq_true, if_false, if_true]

theorem read_trailing_eq_ok {leading : Nat} {c : Char} {text rest : List Char}
    (high : 0xd800 ≤ leading ∧ leading ≤ 0xdbff)
    (read : readTrailing leading text = .ok (c, rest)) :
    ∃ trailing second, 0xdc00 ≤ trailing ∧ trailing ≤ 0xdfff ∧ UnitDigits trailing second ∧
      c.toNat = 0x10000 + (leading - 0xd800) * 0x400 + (trailing - 0xdc00) ∧
      text = '\\' :: 'u' :: (second ++ rest) := by
  unfold readTrailing at read
  split at read
  · cases read
  · cases read
  · split at read
    · cases read
    · rename_i trailing _ found
      split at read
      · rename_i trails
        simp only [Except.ok.injEq, Prod.mk.injEq] at read
        obtain ⟨rfl, rfl⟩ := read
        obtain ⟨second, spelled, rfl⟩ := read_unit_eq_ok found
        have low := (is_trailing_surrogate_iff trailing).mp trails
        exact ⟨trailing, second, low.1, low.2, spelled, to_nat_join_surrogates high low, rfl⟩
      · cases read
  · cases read
  · cases read

theorem read_unicode_eq_ok {c : Char} {text rest : List Char}
    (read : readUnicode text = .ok (c, rest)) :
    ∃ form, Escape c ('u' :: form) ∧ text = form ++ rest := by
  unfold readUnicode at read
  split at read
  · cases read
  · rename_i unit middle found
    obtain ⟨digits, spelled, rfl⟩ := read_unit_eq_ok found
    split at read
    · cases read
    · rename_i noTrailing
      split at read
      · rename_i leads
        have high := (is_leading_surrogate_iff unit).mp leads
        obtain ⟨trailing, second, least, most, behind, joined, rfl⟩ :=
          read_trailing_eq_ok high read
        refine ⟨digits ++ '\\' :: 'u' :: second, ?_, ?_⟩
        · exact .surrogates c unit trailing digits second high ⟨least, most⟩ joined spelled behind
        · simp only [List.append_assoc, List.cons_append]
      · rename_i noLeading
        cases read
        refine ⟨digits, .unit _ digits ?_, rfl⟩
        rw [is_trailing_surrogate_iff] at noTrailing
        rw [is_leading_surrogate_iff] at noLeading
        have bound := unit_digits_lt spelled
        rwa [to_nat_of_nat_of_is_valid_char]
        rw [Nat.isValidChar]
        omega

theorem read_escape_eq_ok {c : Char} {text rest : List Char}
    (read : readEscape text = .ok (c, rest)) : ∃ form, Escape c form ∧ text = form ++ rest := by
  unfold readEscape at read
  split at read
  case h_10 =>
    obtain ⟨form, escape, rfl⟩ := read_unicode_eq_ok read
    exact ⟨'u' :: form, escape, rfl⟩
  all_goals cases read
  all_goals exact ⟨_, .letter _ _ (by decide), rfl⟩

theorem read_string_from_append {text form : List Char} (spelled : SpelledText text form)
    (before rest : List Char) :
    readStringFrom before (form ++ '"' :: rest) =
      .ok (String.ofList (before.reverse ++ text), rest) := by
  induction spelled generalizing before with
  | nil => simp only [List.nil_append, readStringFrom, List.append_nil]
  | cons c text form others first _ ih =>
      have grown := ih (c :: before)
      rw [List.reverse_cons, List.append_assoc, List.singleton_append] at grown
      rw [List.append_assoc, ← grown]
      cases first with
      | plain quote backslash visible =>
          rw [List.singleton_append, readStringFrom]
          · rw [if_neg (Nat.not_lt.mpr visible)]
          · exact quote
          · exact backslash
      | escape form escape =>
          rw [List.cons_append, readStringFrom, read_escape_append escape]

theorem read_string_from_eq_ok {before text rest : List Char} {value : String}
    (read : readStringFrom before text = .ok (value, rest)) :
    ∃ chars form, SpelledText chars form ∧ text = form ++ '"' :: rest ∧
      value = String.ofList (before.reverse ++ chars) := by
  fun_induction readStringFrom before text with
  | case1 => cases read
  | case2 before text =>
      cases read
      exact ⟨[], [], .nil, rfl, by rw [List.append_nil]⟩
  | case3 => cases read
  | case4 before text c after escaped ih =>
      obtain ⟨chars, form, spelled, rfl, same⟩ := ih read
      obtain ⟨first, escape, rfl⟩ := read_escape_eq_ok escaped
      refine ⟨c :: chars, _, .cons c chars _ form (.escape c first escape) spelled, ?_, ?_⟩
      · simp only [List.cons_append, List.append_assoc]
      · rw [same, List.reverse_cons, List.append_assoc, List.singleton_append]
  | case5 => cases read
  | case6 before c text quote backslash visible ih =>
      obtain ⟨chars, form, spelled, rfl, same⟩ := ih read
      refine ⟨c :: chars, _, .cons c chars [c] form ?_ spelled, rfl, ?_⟩
      · exact .plain c quote backslash (Nat.not_lt.mp visible)
      · rw [same, List.reverse_cons, List.append_assoc, List.singleton_append]

theorem read_string_append {value : String} {form : List Char}
    (spelled : SpelledText value.toList form) (rest : List Char) :
    readString (form ++ '"' :: rest) = .ok (value, rest) := by
  rw [readString, read_string_from_append spelled, List.reverse_nil, List.nil_append,
    String.ofList_toList]

theorem read_string_eq_ok {value : String} {text rest : List Char}
    (read : readString text = .ok (value, rest)) :
    ∃ token, SpelledString value token ∧ '"' :: text = token ++ rest := by
  obtain ⟨chars, form, spelled, rfl, rfl⟩ := read_string_from_eq_ok read
  refine ⟨'"' :: (form ++ ['"']), .mk _ form ?_, ?_⟩
  · rwa [List.reverse_nil, List.nil_append, String.toList_ofList]
  · simp only [List.cons_append, List.append_assoc, List.nil_append]

theorem unit_digits_control : ∀ code < 0x20, UnitDigits code (unitDigits code) := by
  intro code small
  have digits : ∀ code < 0x20, unitDigits code =
      ['0', '0', (code / 16).digitChar, (code % 16).digitChar] := by decide +kernel
  have spelled := UnitDigits.mk 0 0 (code / 16) (code % 16) _ _ _ _ (.lower 0 (by decide))
    (.lower 0 (by decide)) (.lower (code / 16) (by omega)) (.lower (code % 16) (by omega))
  rw [digits code small]
  rwa [show ((0 * 16 + 0) * 16 + code / 16) * 16 + code % 16 = code by omega] at spelled

theorem spelled_char_write_char (c : Char) : SpelledChar c (writeChar c) := by
  have named {letter : Char} (pair : (letter, c) ∈ letterEscapes) : SpelledChar c ['\\', letter] :=
    .escape c _ (.letter letter c pair)
  unfold writeChar
  iterate 7
    split
    · subst c
      exact named (by decide)
  split
  · rename_i small
    exact .escape c _ (.unit c _ (unit_digits_control c.toNat small))
  · rename_i quote backslash _ _ _ _ _ visible
    exact .plain c quote backslash (Nat.not_lt.mp visible)

theorem spelled_text_flat_map (text : List Char) : SpelledText text (text.flatMap writeChar) := by
  induction text with
  | nil => exact .nil
  | cons c text ih => exact .cons c text _ _ (spelled_char_write_char c) ih

theorem spelled_string_write_string (value : String) : SpelledString value (writeString value) :=
  .mk value _ (spelled_text_flat_map value.toList)

end TaggedBlock.Json
