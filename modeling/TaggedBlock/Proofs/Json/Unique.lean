import TaggedBlock.Proofs.Json.Value

set_option autoImplicit false

namespace TaggedBlock.Json

section Unique

variable {token form rest more : List Char}

theorem Numeral.unique {value other : Nat} (numeral : Numeral value token)
    (another : Numeral other form) (stops : Stops rest) (ends : Stops more)
    (same : token ++ rest = form ++ more) : value = other ∧ rest = more := by
  have digits : token = form := by
    rw [← Number.digits_of_append numeral.decimal stops, same,
      Number.digits_of_append another.decimal ends]
  subst digits
  exact ⟨numeral.value_eq.symm.trans another.value_eq, List.append_cancel_left same⟩

theorem Numeral.ne_cons {value : Nat} {c : Char} (numeral : Numeral value token)
    (other : c.isDigit = false) : token ++ rest ≠ c :: more := by
  intro same
  cases token with
  | nil => exact numeral.filled rfl
  | cons digit token =>
      have decimal := numeral.decimal digit List.mem_cons_self
      rw [List.cons_append, List.cons.injEq] at same
      rw [same.1, other] at decimal
      cases decimal

theorem SpelledInteger.unique {value other : Int} (spelled : SpelledInteger value token)
    (another : SpelledInteger other form) (stops : Stops rest) (ends : Stops more)
    (same : token ++ rest = form ++ more) : value = other ∧ rest = more := by
  cases spelled with
  | natural value _ numeral =>
      cases another with
      | natural other _ digits =>
          obtain ⟨rfl, after⟩ := numeral.unique digits stops ends same
          exact ⟨rfl, after⟩
      | negative => exact absurd same (numeral.ne_cons (by decide))
  | negative value _ numeral =>
      cases another with
      | natural other _ digits => exact absurd same.symm (digits.ne_cons (by decide))
      | negative other _ digits =>
          rw [List.cons_append, List.cons_append, List.cons.injEq] at same
          obtain ⟨rfl, after⟩ := numeral.unique digits stops ends same.2
          exact ⟨rfl, after⟩

theorem SpelledString.unique {value other : String} (spelled : SpelledString value token)
    (another : SpelledString other form) (same : token ++ rest = form ++ more) :
    value = other ∧ rest = more := by
  cases spelled with
  | mk form text =>
      cases another with
      | mk others letters =>
          simp only [List.cons_append, List.append_assoc, List.nil_append, List.cons.injEq,
            true_and] at same
          have read := read_string_append text rest
          rw [same, read_string_append letters more] at read
          cases read
          exact ⟨rfl, rfl⟩

theorem SpelledInteger.ne_cons {value : Int} {c : Char} (spelled : SpelledInteger value token)
    (other : ¬ (c = '-' ∨ c.isDigit = true)) : token ++ rest ≠ c :: more := by
  intro same
  obtain ⟨head, tail, rfl, starts⟩ := integer_head spelled
  rw [List.cons_append, List.cons.injEq] at same
  exact other (same.1 ▸ starts)

-- Two kinds of scalars differ in the first character, two scalars of one kind behind it.
theorem Scalar.Spelled.unique {scalar other : Scalar} (spelled : scalar.Spelled token)
    (another : other.Spelled form) (stops : Stops rest) (ends : Stops more)
    (same : token ++ rest = form ++ more) : scalar = other ∧ rest = more := by
  cases spelled with
  | integer value _ digits =>
      cases another with
      | integer other _ numeral =>
          obtain ⟨rfl, after⟩ := digits.unique numeral stops ends same
          exact ⟨rfl, after⟩
      | string _ _ text =>
          cases text
          exact absurd same (digits.ne_cons (by decide))
      | null => exact absurd same (digits.ne_cons (by decide))
      | yes => exact absurd same (digits.ne_cons (by decide))
      | no => exact absurd same (digits.ne_cons (by decide))
  | string value _ text =>
      cases another with
      | string other _ letters =>
          obtain ⟨rfl, after⟩ := text.unique letters same
          exact ⟨rfl, after⟩
      | integer _ _ numeral =>
          cases text
          exact absurd same.symm (numeral.ne_cons (by decide))
      | null => cases text; simp at same
      | yes => cases text; simp at same
      | no => cases text; simp at same
  | null =>
      cases another with
      | null => exact ⟨rfl, List.append_cancel_left same⟩
      | integer _ _ numeral => exact absurd same.symm (numeral.ne_cons (by decide))
      | string _ _ letters => cases letters; simp at same
      | yes => simp at same
      | no => simp at same
  | yes =>
      cases another with
      | yes => exact ⟨rfl, List.append_cancel_left same⟩
      | integer _ _ numeral => exact absurd same.symm (numeral.ne_cons (by decide))
      | string _ _ letters => cases letters; simp at same
      | null => simp at same
      | no => simp at same
  | no =>
      cases another with
      | no => exact ⟨rfl, List.append_cancel_left same⟩
      | integer _ _ numeral => exact absurd same.symm (numeral.ne_cons (by decide))
      | string _ _ letters => cases letters; simp at same
      | null => simp at same
      | yes => simp at same

theorem write_member_append_inj {member other : String × Scalar} (stops : Stops rest)
    (ends : Stops more) (same : writeMember member ++ rest = writeMember other ++ more) :
    member = other ∧ rest = more := by
  obtain ⟨name, scalar⟩ := member
  obtain ⟨key, value⟩ := other
  simp only [writeMember, List.append_assoc, List.cons_append, List.nil_append, List.cons.injEq,
    true_and] at same
  obtain ⟨rfl, after⟩ :=
    (spelled_string_write_string name).unique (spelled_string_write_string key) same
  simp only [List.cons.injEq, true_and] at after
  obtain ⟨rfl, behind⟩ := scalar.spelled_write.unique value.spelled_write stops ends after
  exact ⟨rfl, behind⟩

end Unique

def writeOthers (members : List (String × Scalar)) : List Char :=
  (members.map writeMember).flatMap (',' :: '\n' :: ·) ++ ['\n', '\x7d']

theorem write_others_cons (member : String × Scalar) (members : List (String × Scalar)) :
    writeOthers (member :: members) =
      ',' :: '\n' :: (writeMember member ++ writeOthers members) := by
  simp only [writeOthers, List.map_cons, List.flatMap_cons, List.cons_append, List.append_assoc]

theorem stops_cons {c : Char} (other : c.isDigit = false ∧ c ≠ '.' ∧ c ≠ 'e' ∧ c ≠ 'E')
    (rest : List Char) : Stops (c :: rest) :=
  stops_append blank_nil other rest

theorem stops_write_others (members : List (String × Scalar)) : Stops (writeOthers members) := by
  cases members with
  | nil => exact stops_cons (by decide) _
  | cons member members =>
      rw [write_others_cons]
      exact stops_cons (by decide) _

theorem write_others_inj {members others : List (String × Scalar)}
    (same : writeOthers members = writeOthers others) : members = others := by
  induction members generalizing others with
  | nil =>
      cases others with
      | nil => rfl
      | cons other others => simp [writeOthers] at same
  | cons member members ih =>
      cases others with
      | nil => simp [writeOthers] at same
      | cons other others =>
          rw [write_others_cons, write_others_cons, List.cons.injEq, List.cons.injEq] at same
          obtain ⟨rfl, behind⟩ := write_member_append_inj (stops_write_others members)
            (stops_write_others others) same.2.2
          rw [ih behind]

theorem write_object_cons (member : String × Scalar) (members : List (String × Scalar)) :
    writeObject (member :: members) =
      '\x7b' :: '\n' :: (writeMember member ++ writeOthers members) := by
  rw [writeObject, List.map_cons, intercalate_cons]
  simp only [writeOthers, List.cons_append, List.nil_append, List.append_assoc]

theorem write_object_inj {members others : List (String × Scalar)}
    (same : writeObject members = writeObject others) : members = others := by
  cases members with
  | nil =>
      cases others with
      | nil => rfl
      | cons other others => simp [writeObject, writeMember] at same
  | cons member members =>
      cases others with
      | nil => simp [writeObject, writeMember] at same
      | cons other others =>
          rw [write_object_cons, write_object_cons, List.cons.injEq, List.cons.injEq] at same
          obtain ⟨rfl, behind⟩ := write_member_append_inj (stops_write_others members)
            (stops_write_others others) same.2.2
          rw [write_others_inj behind]

end TaggedBlock.Json
