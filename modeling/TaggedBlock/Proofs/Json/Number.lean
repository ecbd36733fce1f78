import TaggedBlock.Json.Number

set_option autoImplicit false

namespace TaggedBlock.Json

structure Numeral (value : Nat) (digits : List Char) : Prop where
  filled : digits ≠ []
  decimal : ∀ c ∈ digits, c.isDigit = true
  noLeadingZero : ∀ rest, digits = '0' :: rest → rest = []
  value_eq : Nat.ofDigitChars 10 digits 0 = value

inductive SpelledInteger : Int → List Char → Prop where
  | natural (value : Nat) (digits : List Char) (numeral : Numeral value digits) :
      SpelledInteger value digits
  | negative (value : Nat) (digits : List Char) (numeral : Numeral value digits)
      (positive : 0 < value) : SpelledInteger (-value) ('-' :: digits)

def Stops (rest : List Char) : Prop :=
  ∀ c tail, rest = c :: tail → c.isDigit = false ∧ c ≠ '.' ∧ c ≠ 'e' ∧ c ≠ 'E'

theorem head_to_digits (value : Nat) (positive : 0 < value) (rest : List Char) :
    Nat.toDigits 10 value ≠ '0' :: rest := by
  induction value using Nat.strongRecOn generalizing rest with
  | ind value ih =>
      by_cases small : value < 10
      · rw [Nat.toDigits_of_lt_base small]
        intro same
        have zero : value.digitChar = '0' := (List.cons.inj same).1
        rw [Nat.digitChar_eq_zero] at zero
        omega
      · rw [Nat.toDigits_of_base_le (by decide) (Nat.not_lt.mp small)]
        cases front : Nat.toDigits 10 (value / 10) with
        | nil => exact absurd front Nat.toDigits_ne_nil
        | cons c tail =>
            intro same
            have zero : c = '0' := (List.cons.inj same).1
            subst zero
            exact ih (value / 10) (by omega) (by omega) tail front

theorem numeral_to_digits (value : Nat) : Numeral value (Nat.toDigits 10 value) where
  filled := Nat.toDigits_ne_nil
  decimal := fun _ member => Nat.isDigit_of_mem_toDigits (by decide) (by decide) member
  noLeadingZero := by
    intro rest same
    by_cases zero : value = 0
    · subst zero
      rw [Nat.toDigits_zero] at same
      exact (List.cons.inj same).2.symm
    · exact absurd same (head_to_digits value (Nat.pos_of_ne_zero zero) rest)
  value_eq := Nat.ofDigitChars_ten_toDigits

theorem spelled_integer_to_string (value : Int) : SpelledInteger value (toString value).toList := by
  cases value with
  | ofNat value =>
      have spelled := SpelledInteger.natural value _ (numeral_to_digits value)
      rwa [← Nat.toList_repr] at spelled
  | negSucc value =>
      have spelled := SpelledInteger.negative (value + 1) _ (numeral_to_digits (value + 1))
        (Nat.succ_pos _)
      rw [← Nat.toList_repr] at spelled
      have shown : (toString (Int.negSucc value)).toList = '-' :: (value + 1).repr.toList := by
        rw [Int.toString_eq_repr, Int.repr, String.toList_append]
        rfl
      rw [shown]
      exact spelled

namespace Number

theorem of_digit_chars_cons (value : Nat) (c : Char) (digits : List Char) :
    Nat.ofDigitChars 10 (c :: digits) value =
      Nat.ofDigitChars 10 digits (value * 10 + digitValue c) := by
  rw [Nat.ofDigitChars_cons, Nat.mul_comm, digitValue]

theorem le_of_digit_chars (digits : List Char) (value : Nat) :
    value ≤ Nat.ofDigitChars 10 digits value := by
  induction digits generalizing value with
  | nil => exact Nat.le_of_eq Nat.ofDigitChars_nil.symm
  | cons c digits ih =>
      rw [of_digit_chars_cons]
      exact Nat.le_trans (by omega) (ih (value * 10 + digitValue c))

theorem accumulate_of_le {limit value : Nat} {digits : List Char}
    (fits : Nat.ofDigitChars 10 digits value ≤ limit) :
    accumulate limit value digits = (Nat.ofDigitChars 10 digits value, 0) := by
  induction digits generalizing value with
  | nil => rw [accumulate, Nat.ofDigitChars_nil]
  | cons c digits ih =>
      rw [of_digit_chars_cons] at fits ⊢
      rw [accumulate, if_pos (Nat.le_trans (le_of_digit_chars digits _) fits), ih fits]

theorem eq_of_accumulate {limit value total : Nat} {digits : List Char}
    (used : accumulate limit value digits = (total, 0)) :
    total = Nat.ofDigitChars 10 digits value := by
  induction digits generalizing value with
  | nil =>
      cases used
      rw [Nat.ofDigitChars_nil]
  | cons c digits ih =>
      rw [accumulate] at used
      split at used
      · rw [of_digit_chars_cons]
        exact ih used
      · cases used

theorem finish_eq_ok {negative : Bool} {significand : Nat} {exponent : Int}
    {text rest : List Char} {number : Number}
    (read : finish negative significand exponent text = .ok (number, rest)) :
    ∃ value, number = .float value := by
  unfold finish at read
  split at read
  · cases read
  · cases read
    exact ⟨_, rfl⟩

theorem read_exponent_eq_ok {negative : Bool} {significand : Nat} {exponent : Int}
    {text rest : List Char} {number : Number}
    (read : readExponent negative significand exponent text = .ok (number, rest)) :
    ∃ value, number = .float value := by
  simp only [readExponent] at read
  split at read
  · cases read
  · split at read
    · -- With a sign, with the other one and with none the same is done.
      split at read
      all_goals
        split at read
        · exact finish_eq_ok read
        · split at read
          · cases read
          · cases read
            exact ⟨_, rfl⟩
    · cases read

theorem read_power_eq_ok {negative : Bool} {significand : Nat} {exponent : Int}
    {text rest : List Char} {number : Number}
    (read : readPower negative significand exponent text = .ok (number, rest)) :
    ∃ value, number = .float value := by
  unfold readPower at read
  split at read
  · exact read_exponent_eq_ok read
  · exact read_exponent_eq_ok read
  · exact finish_eq_ok read

theorem read_fraction_eq_ok {negative : Bool} {significand : Nat} {exponent : Int}
    {text rest : List Char} {number : Number}
    (read : readFraction negative significand exponent text = .ok (number, rest)) :
    ∃ value, number = .float value := by
  simp only [readFraction] at read
  split at read
  · cases read
  · exact read_power_eq_ok read

theorem read_tail_eq_integer {negative : Bool} {significand exponent : Nat}
    {text rest : List Char} {value : Int}
    (read : readTail negative significand exponent text = .ok (.integer value, rest)) :
    exponent = 0 ∧ text = rest ∧ ofDigits negative significand = .integer value := by
  unfold readTail at read
  split at read
  · obtain ⟨_, other⟩ := read_fraction_eq_ok read
    cases other
  · obtain ⟨_, other⟩ := read_exponent_eq_ok read
    cases other
  · obtain ⟨_, other⟩ := read_exponent_eq_ok read
    cases other
  · split at read
    · rename_i whole
      simp only [Except.ok.injEq, Prod.mk.injEq] at read
      exact ⟨whole, read.2, read.1⟩
    · obtain ⟨_, other⟩ := finish_eq_ok read
      cases other

theorem read_tail_of_stops (negative : Bool) (significand : Nat) {rest : List Char}
    (stops : Stops rest) :
    readTail negative significand 0 rest = .ok (ofDigits negative significand, rest) := by
  unfold readTail
  split
  · exact absurd rfl (stops _ _ rfl).2.1
  · exact absurd rfl (stops _ _ rfl).2.2.1
  · exact absurd rfl (stops _ _ rfl).2.2.2
  · rfl

theorem is_digit_of_mem_digits_of {c : Char} {text : List Char} (member : c ∈ digitsOf text) :
    c.isDigit = true :=
  List.all_eq_true.mp List.all_takeWhile c member

theorem digits_of_append_after_digits (text : List Char) : digitsOf text ++ afterDigits text = text :=
  List.takeWhile_append_dropWhile

theorem digits_of_append {digits rest : List Char} (decimal : ∀ c ∈ digits, c.isDigit = true)
    (stops : Stops rest) : digitsOf (digits ++ rest) = digits := by
  rw [digitsOf, List.takeWhile_append_of_pos decimal]
  cases rest with
  | nil => rw [List.takeWhile_nil, List.append_nil]
  | cons c tail =>
      have other := (stops c tail rfl).1
      rw [List.takeWhile_cons, other]
      exact List.append_nil digits

theorem after_digits_append {digits rest : List Char} (decimal : ∀ c ∈ digits, c.isDigit = true)
    (stops : Stops rest) : afterDigits (digits ++ rest) = rest := by
  have whole := digits_of_append_after_digits (digits ++ rest)
  rw [digits_of_append decimal stops] at whole
  exact List.append_cancel_left whole

theorem read_digits_eq_integer {negative : Bool} {text rest : List Char} {value : Int}
    (read : readDigits negative text = .ok (.integer value, rest)) :
    ∃ number digits, Numeral number digits ∧ text = digits ++ rest ∧
      ofDigits negative number = .integer value := by
  unfold readDigits at read
  split at read
  · cases read
  · rename_i c tail
    split at read
    · rename_i zero
      subst zero
      have alone : Numeral 0 ['0'] := numeral_to_digits 0
      split at read
      · split at read
        · cases read
        · obtain ⟨_, rfl, same⟩ := read_tail_eq_integer read
          exact ⟨0, ['0'], alone, rfl, same⟩
      · obtain ⟨_, rfl, same⟩ := read_tail_eq_integer read
        exact ⟨0, ['0'], alone, rfl, same⟩
    · rename_i nonzero
      split at read
      · rename_i digit
        cases used : accumulate greatest 0 (digitsOf (c :: tail)) with
        | mk number unused =>
            rw [used] at read
            obtain ⟨rfl, rest_eq, same⟩ := read_tail_eq_integer read
            have spells := eq_of_accumulate used
            have split := digits_of_append_after_digits (c :: tail)
            have digits : digitsOf (c :: tail) = c :: digitsOf tail :=
              List.takeWhile_cons_of_pos digit
            refine ⟨number, digitsOf (c :: tail), ⟨?_, ?_, ?_, spells.symm⟩, ?_, same⟩
            · rw [digits]
              exact List.cons_ne_nil c _
            · exact fun _ member => is_digit_of_mem_digits_of member
            · intro others same
              rw [digits] at same
              exact absurd (List.cons.inj same).1 nonzero
            · rw [← rest_eq, split]
      · cases read

theorem read_digits_append {negative : Bool} {number : Nat} {digits rest : List Char}
    (numeral : Numeral number digits) (fits : number ≤ greatest) (stops : Stops rest) :
    readDigits negative (digits ++ rest) = .ok (ofDigits negative number, rest) := by
  cases digits with
  | nil => exact absurd rfl numeral.filled
  | cons c tail =>
      have digit : c.isDigit = true := numeral.decimal c List.mem_cons_self
      have spells := numeral.value_eq
      simp only [List.cons_append, readDigits]
      by_cases zero : c = '0'
      · subst zero
        have none : tail = [] := numeral.noLeadingZero tail rfl
        subst none
        have same : number = 0 := spells.symm
        subst same
        rw [if_pos rfl, List.nil_append]
        cases rest with
        | nil => rfl
        | cons next rest =>
            have other := (stops next rest rfl).1
            simp only [other, Bool.false_eq_true, if_false]
            exact read_tail_of_stops negative 0 stops
      · have taken : digitsOf (c :: (tail ++ rest)) = c :: tail :=
          digits_of_append numeral.decimal stops
        have left : afterDigits (c :: (tail ++ rest)) = rest :=
          after_digits_append numeral.decimal stops
        rw [if_neg zero, if_pos digit, taken, left, accumulate_of_le (by rw [spells]; exact fits),
          spells]
        exact read_tail_of_stops negative number stops

theorem read_eq_integer {text rest : List Char} {value : Int}
    (read : Number.read text = .ok (.integer value, rest)) :
    ∃ token, SpelledInteger value token ∧ text = token ++ rest := by
  unfold Number.read at read
  split at read
  · obtain ⟨number, digits, numeral, rfl, same⟩ := read_digits_eq_integer read
    simp only [ofDigits, if_true] at same
    split at same
    · cases same
    · rename_i within
      cases same
      refine ⟨'-' :: digits, .negative number digits numeral ?_, rfl⟩
      omega
  · obtain ⟨number, digits, numeral, rfl, same⟩ := read_digits_eq_integer read
    cases same
    exact ⟨digits, .natural number digits numeral, rfl⟩

theorem read_append {value : Int} {token rest : List Char} (spelled : SpelledInteger value token)
    (above : -0x8000000000000000 ≤ value) (below : value ≤ 0xffffffffffffffff)
    (stops : Stops rest) : Number.read (token ++ rest) = .ok (.integer value, rest) := by
  cases spelled with
  | natural number _ numeral =>
      have fits : number ≤ greatest := by
        rw [greatest]
        omega
      have read : readDigits false (token ++ rest) = .ok (.integer number, rest) :=
        read_digits_append numeral fits stops
      cases token with
      | nil => exact absurd rfl numeral.filled
      | cons c tail =>
          have digit : c.isDigit = true := numeral.decimal c List.mem_cons_self
          unfold Number.read
          split
          · rename_i same
            have sign : c = '-' := (List.cons.inj same).1
            subst sign
            cases digit
          · exact read
  | negative number digits numeral positive =>
      have fits : number ≤ greatest := by
        rw [greatest]
        omega
      have kept : ofDigits true number = .integer (-number) := by
        rw [ofDigits, if_pos rfl, if_neg (by omega)]
      rw [List.cons_append, Number.read, read_digits_append numeral fits stops, kept]

end Number

end TaggedBlock.Json
