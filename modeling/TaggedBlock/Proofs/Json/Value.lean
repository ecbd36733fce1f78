import TaggedBlock.Json.Pretty
import TaggedBlock.Json.Scalar
import TaggedBlock.Proofs.Json.Number
import TaggedBlock.Proofs.Json.Text

set_option autoImplicit false

namespace TaggedBlock.Json

inductive Scalar.Spelled : Scalar → List Char → Prop where
  | null : Spelled .null ['n', 'u', 'l', 'l']
  | yes : Spelled (.boolean true) ['t', 'r', 'u', 'e']
  | no : Spelled (.boolean false) ['f', 'a', 'l', 's', 'e']
  | integer (value : Int) (token : List Char) (spelled : SpelledInteger value token) :
      Spelled (.integer value) token
  | string (value : String) (token : List Char) (spelled : SpelledString value token) :
      Spelled (.string value) token

inductive SpelledMember (name : String) (scalar : Scalar) : List Char → Prop where
  | mk (key before behind token : List Char) (named : SpelledString name key)
      (ends : Blank before) (begins : Blank behind) (spelled : scalar.Spelled token) :
      SpelledMember name scalar (key ++ (before ++ ':' :: (behind ++ token)))

inductive Lead : (isFirst : Bool) → List Char → Prop where
  | first (space : List Char) (blank : Blank space) : Lead true space
  | next (before behind : List Char) (ends : Blank before) (begins : Blank behind) :
      Lead false (before ++ ',' :: behind)

inductive Parts (closing : Char) : (isFirst : Bool) → List (List Char) → List Char → Prop where
  | closed (isFirst : Bool) (space : List Char) (blank : Blank space) :
      Parts closing isFirst [] (space ++ [closing])
  | part (isFirst : Bool) (lead part text : List Char) (parts : List (List Char))
      (leads : Lead isFirst lead) (others : Parts closing false parts text) :
      Parts closing isFirst (part :: parts) (lead ++ (part ++ text))

theorem Lead.append {isFirst : Bool} {lead space : List Char} (leads : Lead isFirst lead)
    (blank : Blank space) : Lead isFirst (lead ++ space) := by
  cases leads with
  | first before begins => exact .first _ (begins.append blank)
  | next before behind ends begins =>
      rw [List.append_assoc, List.cons_append]
      exact .next before _ ends (begins.append blank)

theorem integer_head {value : Int} {token : List Char} (spelled : SpelledInteger value token) :
    ∃ c tail, token = c :: tail ∧ (c = '-' ∨ c.isDigit = true) := by
  cases spelled with
  | negative => exact ⟨_, _, rfl, Or.inl rfl⟩
  | natural _ _ numeral =>
      cases token with
      | nil => exact absurd rfl numeral.filled
      | cons c tail => exact ⟨c, tail, rfl, Or.inr (numeral.decimal c List.mem_cons_self)⟩

theorem spelled_head {scalar : Scalar} {token : List Char} (spelled : scalar.Spelled token) :
    ∃ c tail, token = c :: tail ∧ isSpace c = false ∧ c ≠ ']' := by
  cases spelled with
  | null => exact ⟨_, _, rfl, by decide⟩
  | yes => exact ⟨_, _, rfl, by decide⟩
  | no => exact ⟨_, _, rfl, by decide⟩
  | string _ _ spelled =>
      cases spelled
      exact ⟨_, _, rfl, by decide⟩
  | integer _ _ spelled =>
      obtain ⟨c, tail, rfl, rfl | digit⟩ := integer_head spelled
      · exact ⟨_, _, rfl, by decide⟩
      · refine ⟨c, tail, rfl, ?_, ?_⟩
        · rw [← Bool.not_eq_true, is_space_iff]
          intro member
          simp only [List.mem_cons, List.not_mem_nil, or_false] at member
          rcases member with rfl | rfl | rfl | rfl <;> cases digit
        · rintro rfl
          cases digit

theorem skip_space_spelled {scalar : Scalar} {space token : List Char} (blank : Blank space)
    (spelled : scalar.Spelled token) (rest : List Char) :
    skipSpace (space ++ (token ++ rest)) = token ++ rest := by
  obtain ⟨c, tail, rfl, solid, _⟩ := spelled_head spelled
  rw [skip_space_append blank, List.cons_append, skip_space_cons solid]

theorem read_string_value_append {value : String} {space token : List Char} (blank : Blank space)
    (spelled : SpelledString value token) (rest : List Char) :
    readStringValue (space ++ (token ++ rest)) = .ok (value, rest) := by
  rw [readStringValue, skip_space_spelled blank (.string value token spelled)]
  cases spelled with
  | mk form text =>
      simp only [List.cons_append, List.append_assoc, List.nil_append]
      exact read_string_append text rest

theorem read_string_value_eq_ok {value : String} {text rest : List Char}
    (read : readStringValue text = .ok (value, rest)) :
    ∃ space token, Blank space ∧ SpelledString value token ∧ text = space ++ (token ++ rest) := by
  obtain ⟨space, blank, whole⟩ := exists_blank text
  unfold readStringValue at read
  split at read
  · rename_i quoted
    obtain ⟨token, spelled, same⟩ := read_string_eq_ok read
    exact ⟨space, token, blank, spelled, by rw [whole, quoted, same]⟩
  · cases read

section Integer

variable {wanted : String} {least greatest value : Int}

theorem read_integer_value_append {space token rest : List Char} (blank : Blank space)
    (spelled : SpelledInteger value token) (within : least ≤ value ∧ value ≤ greatest)
    (above : -0x8000000000000000 ≤ value) (below : value ≤ 0xffffffffffffffff)
    (stops : Stops rest) :
    readIntegerValue wanted least greatest (space ++ (token ++ rest)) = .ok (value, rest) := by
  obtain ⟨c, tail, rfl, starts⟩ := integer_head spelled
  have read := Number.read_append spelled above below stops
  simp only [readIntegerValue]
  rw [skip_space_spelled blank (.integer value _ spelled)]
  rw [List.cons_append] at read ⊢
  simp only [if_pos starts, read, if_pos within]

theorem read_integer_value_eq_ok {text rest : List Char}
    (read : readIntegerValue wanted least greatest text = .ok (value, rest)) :
    (least ≤ value ∧ value ≤ greatest) ∧ ∃ space token, Blank space ∧
      SpelledInteger value token ∧ text = space ++ (token ++ rest) := by
  obtain ⟨space, blank, whole⟩ := exists_blank text
  simp only [readIntegerValue] at read
  split at read
  · cases read
  · split at read
    · split at read
      · cases read
      · rename_i number after found
        split at read
        · rename_i within
          cases read
          obtain ⟨token, spelled, same⟩ := Number.read_eq_integer found
          exact ⟨within, space, token, blank, spelled, by rw [← same]; exact whole⟩
        · cases read
      · cases read
    · cases read

end Integer

theorem stops_append {space : List Char} {c : Char} (blank : Blank space)
    (other : c.isDigit = false ∧ c ≠ '.' ∧ c ≠ 'e' ∧ c ≠ 'E') (rest : List Char) :
    Stops (space ++ c :: rest) := by
  intro first tail same
  cases space with
  | nil =>
      cases same
      exact other
  | cons head others =>
      cases same
      have member := blank first List.mem_cons_self
      simp only [List.mem_cons, List.not_mem_nil, or_false] at member
      rcases member with rfl | rfl | rfl | rfl <;> decide

theorem stops_parts {closing : Char} {parts : List (List Char)} {text : List Char}
    (spelled : Parts closing false parts text) (bracket : closing = '\x7d' ∨ closing = ']')
    (rest : List Char) : Stops (text ++ rest) := by
  cases spelled with
  | closed _ space blank =>
      rw [List.append_assoc]
      refine stops_append blank ?_ rest
      rcases bracket with rfl | rfl <;> decide
  | part _ lead part text parts leads others =>
      cases leads with
      | next before behind ends begins =>
          rw [List.append_assoc, List.append_assoc]
          exact stops_append ends (by decide) _

theorem Scalar.spelled_write (scalar : Scalar) : scalar.Spelled scalar.write := by
  cases scalar with
  | null => exact .null
  | boolean value =>
      cases value with
      | true => exact .yes
      | false => exact .no
  | integer value => exact .integer value _ (spelled_integer_to_string value)
  | string value => exact .string value _ (spelled_string_write_string value)

def memberForm (member : String × Scalar) : List Char :=
  writeString member.1 ++ ([] ++ ':' :: ([' '] ++ member.2.write))

theorem spelled_member_member_form (member : String × Scalar) :
    SpelledMember member.1 member.2 (memberForm member) :=
  .mk _ [] [' '] _ (spelled_string_write_string member.1) blank_nil (by simp [Blank])
    (Scalar.spelled_write member.2)

theorem intercalate_cons (part : List Char) (parts : List (List Char)) :
    [',', '\n'].intercalate (part :: parts) = part ++ parts.flatMap (',' :: '\n' :: ·) := by
  induction parts generalizing part with
  | nil => simp
  | cons next parts ih =>
      rw [List.intercalate_cons_cons, ih next, List.flatMap_cons]
      simp only [List.cons_append, List.nil_append, List.append_assoc]

theorem parts_later (members : List (String × Scalar)) :
    Parts '\x7d' false (members.map memberForm)
      ((members.map writeMember).flatMap (',' :: '\n' :: ·) ++ ['\n', '\x7d']) := by
  induction members with
  | nil => exact .closed false ['\n'] (by simp [Blank])
  | cons member members ih =>
      have spelled := Parts.part false ([] ++ ',' :: ['\n', ' ', ' ']) (memberForm member) _ _
        (.next [] ['\n', ' ', ' '] blank_nil (by simp [Blank])) ih
      simpa [writeMember, memberForm] using spelled

theorem parts_write_object (member : String × Scalar) (members : List (String × Scalar)) :
    ∃ text, writeObject (member :: members) = '\x7b' :: text ∧
      Parts '\x7d' true ((member :: members).map memberForm) text := by
  refine ⟨_, rfl, ?_⟩
  have spelled := Parts.part true ['\n', ' ', ' '] (memberForm member) _ _
    (.first ['\n', ' ', ' '] (by simp [Blank])) (parts_later members)
  rw [List.map_cons, List.map_cons, intercalate_cons]
  simpa [writeMember, memberForm] using spelled

end TaggedBlock.Json
