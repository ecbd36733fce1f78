import TaggedBlock.Config.Reader
import TaggedBlock.Proofs.Json.Value
import TaggedBlock.Proofs.Results

set_option autoImplicit false

namespace TaggedBlock.Config

open Json

def value (config : Config) : Field → Scalar
  | .algorithm => .string config.algorithm
  | .level => .integer config.level.toInt
  | .quality => .integer config.quality.toNat

theorem ext_value {first second : Config}
    (same : ∀ field, first.value field = second.value field) : first = second := by
  have algorithm : first.algorithm = second.algorithm := Scalar.string.inj (same .algorithm)
  have level : first.level = second.level := Int32.toInt_inj.mp (Scalar.integer.inj (same .level))
  have quality : first.quality = second.quality :=
    UInt32.toNat_inj.mp (Int.ofNat_inj.mp (Scalar.integer.inj (same .quality)))
  cases first
  cases second
  subst algorithm level quality
  rfl

theorem mem_all (field : Field) : field ∈ Field.all := by
  cases field <;> decide

theorem nodup_all : Field.all.Nodup := by decide

theorem of_name_name (field : Field) : Field.ofName? field.name = some field := by
  cases field <;> decide +kernel

theorem name_of_of_name {name : String} {field : Field} (found : Field.ofName? name = some field) :
    field.name = name := by
  have same := List.find?_some found
  simpa using same

structure Gives (form : Field → Scalar → List Char → Prop) (start config : Config)
    (given : List (Field × List Char)) : Prop where
  spelled : ∀ part ∈ given, form part.1 (config.value part.1) part.2
  kept : ∀ field, field ∉ given.map Prod.fst → config.value field = start.value field

inductive Document (config : Config) : List Char → Prop where
  | object (before text behind : List Char) (given : List (Field × List Char))
      (begins : Blank before) (ends : Blank behind) (distinct : (given.map Prod.fst).Nodup)
      (gives : Gives (fun field => SpelledMember field.name) {} config given)
      (parts : Parts '\x7d' true (given.map Prod.snd) text) :
      Document config (before ++ '\x7b' :: (text ++ behind))
  | list (before text behind : List Char) (given : List (Field × List Char))
      (begins : Blank before) (ends : Blank behind) (ordered : given.map Prod.fst <+: Field.all)
      (gives : Gives (fun _ => Scalar.Spelled) {} config given)
      (parts : Parts ']' true (given.map Prod.snd) text) :
      Document config (before ++ '[' :: (text ++ behind))

section Gives

variable {form : Field → Scalar → List Char → Prop} {start next config : Config} {field : Field}
  {text : List Char} {given : List (Field × List Char)}

theorem gives_nil (start : Config) : Gives form start start [] where
  spelled := by
    intro part member
    cases member
  kept := fun _ _ => rfl

theorem eq_of_gives_nil (gives : Gives form start config []) : config = start :=
  ext_value fun field => gives.kept field List.not_mem_nil

theorem Gives.cons (spelled : form field (next.value field) text)
    (changed : ∀ other, other ≠ field → next.value other = start.value other)
    (new : field ∉ given.map Prod.fst) (gives : Gives form next config given) :
    Gives form start config ((field, text) :: given) where
  spelled := by
    intro part member
    rcases List.mem_cons.mp member with rfl | others
    · change form field (config.value field) text
      rw [gives.kept field new]
      exact spelled
    · exact gives.spelled part others
  kept := by
    intro other absent
    rw [List.map_cons, List.mem_cons, not_or] at absent
    exact (gives.kept other absent.2).trans (changed other absent.1)

theorem Gives.tail (gives : Gives form start config ((field, text) :: given))
    (reached : next.value field = config.value field)
    (changed : ∀ other, other ≠ field → next.value other = start.value other) :
    Gives form next config given where
  spelled := fun part member => gives.spelled part (List.mem_cons_of_mem _ member)
  kept := by
    intro other absent
    by_cases same : other = field
    · subst other
      exact reached.symm
    · have untouched : other ∉ ((field, text) :: given).map Prod.fst := by
        rw [List.map_cons, List.mem_cons, not_or]
        exact ⟨same, absent⟩
      exact (gives.kept other untouched).trans (changed other same).symm

end Gives

theorem read_field_others {start next : Config} {field : Field} {text rest : List Char}
    (read : readField start field text = .ok (next, rest)) :
    ∀ other, other ≠ field → next.value other = start.value other := by
  intro other different
  cases field
  all_goals
    obtain ⟨_, _, same⟩ := map_eq_ok_iff.mp read
    cases same
    cases other
  all_goals first
    | rfl
    | exact absurd rfl different

theorem read_field_append {config : Config} {field : Field} {space token rest : List Char}
    (start : Config) (blank : Blank space) (spelled : (config.value field).Spelled token)
    (stops : Stops rest) :
    ∃ next, readField start field (space ++ (token ++ rest)) = .ok (next, rest) ∧
      next.value field = config.value field := by
  cases field with
  | algorithm =>
      cases spelled with
      | string _ _ spelled =>
          refine ⟨{ start with algorithm := config.algorithm }, ?_, rfl⟩
          rw [readField, read_string_value_append blank spelled]
          rfl
  | level =>
      cases spelled with
      | integer _ _ spelled =>
          have low := config.level.le_toInt
          have high := config.level.toInt_lt
          refine ⟨{ start with level := config.level }, ?_, rfl⟩
          rw [readField, read_integer_value_append blank spelled
            (by rw [leastLevel, greatestLevel]; omega) (by omega) (by omega) stops]
          simp only [Except.map, Int32.ofInt_toInt]
  | quality =>
      cases spelled with
      | integer _ _ spelled =>
          have high := config.quality.toNat_lt
          refine ⟨{ start with quality := config.quality }, ?_, rfl⟩
          rw [readField, read_integer_value_append blank spelled
            (by rw [greatestQuality]; omega) (by omega) (by omega) stops]
          simp only [Except.map, Int.toNat_natCast, UInt32.ofNat_toNat]

theorem read_field_eq_ok {start next : Config} {field : Field} {text rest : List Char}
    (read : readField start field text = .ok (next, rest)) :
    ∃ space token, Blank space ∧ (next.value field).Spelled token ∧
      text = space ++ (token ++ rest) := by
  cases field with
  | algorithm =>
      obtain ⟨⟨algorithm, after⟩, found, same⟩ := map_eq_ok_iff.mp read
      cases same
      obtain ⟨space, token, blank, spelled, rfl⟩ := read_string_value_eq_ok found
      exact ⟨space, token, blank, .string _ token spelled, rfl⟩
  | level =>
      obtain ⟨⟨level, after⟩, found, same⟩ := map_eq_ok_iff.mp read
      cases same
      obtain ⟨⟨low, high⟩, space, token, blank, spelled, rfl⟩ := read_integer_value_eq_ok found
      rw [leastLevel] at low
      rw [greatestLevel] at high
      have exact_level : (Int32.ofInt level).toInt = level :=
        Int32.toInt_ofInt_of_le (by omega) (by omega)
      refine ⟨space, token, blank, .integer _ token ?_, rfl⟩
      change SpelledInteger (Int32.ofInt level).toInt token
      rwa [exact_level]
  | quality =>
      obtain ⟨⟨quality, after⟩, found, same⟩ := map_eq_ok_iff.mp read
      cases same
      obtain ⟨⟨low, high⟩, space, token, blank, spelled, rfl⟩ := read_integer_value_eq_ok found
      rw [greatestQuality] at high
      have exact_quality : ((UInt32.ofNat quality.toNat).toNat : Int) = quality := by
        rw [UInt32.toNat_ofNat_of_lt' (by change quality.toNat < 4294967296; omega)]
        omega
      refine ⟨space, token, blank, .integer _ token ?_, rfl⟩
      change SpelledInteger (UInt32.ofNat quality.toNat).toNat token
      rwa [exact_quality]

theorem read_key_append {key : String} {form : List Char} (spelled : SpelledText key.toList form)
    (rest : List Char) : readKey (form ++ '"' :: rest) = .ok (.member key rest) := by
  rw [readKey, read_string_append spelled]
  rfl

theorem read_key_eq_ok {next : Next} {text : List Char} (read : readKey text = .ok next) :
    ∃ key rest token, next = .member key rest ∧ SpelledString key token ∧
      '"' :: text = token ++ rest := by
  obtain ⟨⟨key, rest⟩, found, rfl⟩ := map_eq_ok_iff.mp read
  obtain ⟨token, spelled, same⟩ := read_string_eq_ok found
  exact ⟨key, rest, token, rfl, spelled, same⟩

theorem read_next_closed {space : List Char} (isFirst : Bool) (blank : Blank space)
    (rest : List Char) : readNext isFirst (space ++ '\x7d' :: rest) = .ok (.closed rest) := by
  rw [readNext, skip_space_append blank, skip_space_cons (by decide)]
  rfl

theorem read_next_member {isFirst : Bool} {lead token : List Char} {key : String}
    (leads : Lead isFirst lead) (spelled : SpelledString key token) (rest : List Char) :
    readNext isFirst (lead ++ (token ++ rest)) = .ok (.member key rest) := by
  cases spelled with
  | mk form spelled =>
      have quoted : ('"' :: (form ++ ['"'])) ++ rest = '"' :: (form ++ '"' :: rest) := by
        simp only [List.cons_append, List.append_assoc, List.nil_append]
      rw [quoted]
      cases leads with
      | first _ blank =>
          rw [readNext, skip_space_append blank, skip_space_cons (by decide)]
          exact read_key_append spelled rest
      | next before behind ends begins =>
          rw [readNext, List.append_assoc, skip_space_append ends, List.cons_append,
            skip_space_cons (by decide)]
          simp only [skip_space_append begins]
          rw [skip_space_cons (by decide)]
          exact read_key_append spelled rest

theorem read_next_eq_ok {isFirst : Bool} {text : List Char} {next : Next}
    (read : readNext isFirst text = .ok next) :
    (∃ space rest, Blank space ∧ next = .closed rest ∧ text = space ++ '\x7d' :: rest) ∨
      ∃ lead token key rest, Lead isFirst lead ∧ SpelledString key token ∧
        next = .member key rest ∧ text = lead ++ (token ++ rest) := by
  unfold readNext at read
  split at read
  · cases read
  · rename_i c rest begun
    obtain ⟨space, blank, rfl⟩ := exists_blank_of_skip_space begun
    split at read
    · rename_i closes
      subst closes
      cases read
      exact Or.inl ⟨space, rest, blank, rfl, rfl⟩
    · right
      split at read
      · rename_i first
        subst first
        split at read
        · rename_i quote
          subst quote
          obtain ⟨key, after, token, rfl, spelled, same⟩ := read_key_eq_ok read
          exact ⟨space, token, key, after, .first space blank, spelled, rfl, by rw [same]⟩
        · cases read
      · rename_i later
        rw [Bool.not_eq_true] at later
        subst later
        split at read
        · rename_i comma
          subst comma
          split at read
          · cases read
          · rename_i quoted
            obtain ⟨behind, begins, rfl⟩ := exists_blank_of_skip_space quoted
            obtain ⟨key, after, token, rfl, spelled, same⟩ := read_key_eq_ok read
            refine ⟨_, token, key, after, .next space behind blank begins, spelled, rfl, ?_⟩
            rw [same, List.append_assoc, List.cons_append]
          · cases read
          · cases read
        · cases read

theorem read_colon_append {space : List Char} (blank : Blank space) (rest : List Char) :
    readColon (space ++ ':' :: rest) = .ok rest := by
  rw [readColon, skip_space_append blank, skip_space_cons (by decide)]
  rfl

theorem read_colon_eq_ok {text rest : List Char} (read : readColon text = .ok rest) :
    ∃ space, Blank space ∧ text = space ++ ':' :: rest := by
  unfold readColon at read
  split at read
  · cases read
  · rename_i begun
    cases read
    exact exists_blank_of_skip_space begun
  · cases read

-- A field that was given is given no more, since it is no longer among the missing ones.
theorem read_members_eq_ok {missing : List Field} {isFirst : Bool} {start config : Config}
    {text rest : List Char} (unique : missing.Nodup)
    (read : readMembers missing isFirst start text = .ok (config, rest)) :
    ∃ given form, (given.map Prod.fst).Nodup ∧ given.map Prod.fst ⊆ missing ∧
      Gives (fun field => SpelledMember field.name) start config given ∧
      Parts '\x7d' isFirst (given.map Prod.snd) form ∧ text = form ++ rest := by
  fun_induction readMembers missing isFirst start text with
  | case1 => cases read
  | case2 missing isFirst start text after found =>
      cases read
      rcases read_next_eq_ok found with ⟨space, _, blank, same, rfl⟩ | ⟨_, _, _, _, _, _, same, _⟩
      · cases same
        exact ⟨[], space ++ ['\x7d'], List.nodup_nil, List.nil_subset _, gives_nil _,
          .closed isFirst space blank, List.append_cons _ _ _⟩
      · cases same
  | case3 => cases read
  | case4 => cases read
  | case5 => cases read
  | case6 missing isFirst start text key afterKey found field known member afterColon colon next
      afterValue valued ih =>
      obtain ⟨given, form, distinct, within, gives, parts, rfl⟩ :=
        ih (unique.erase field) read
      rcases read_next_eq_ok found with ⟨_, _, _, same, _⟩ | ⟨lead, token, _, _, leads, named, same, rfl⟩
      · cases same
      · cases same
        obtain ⟨before, ends, rfl⟩ := read_colon_eq_ok colon
        obtain ⟨behind, value, begins, spelled, rfl⟩ := read_field_eq_ok valued
        rw [← name_of_of_name known] at named
        have new : field ∉ given.map Prod.fst := by
          intro again
          exact (unique.mem_erase_iff.mp (within again)).1 rfl
        refine ⟨(field, token ++ (before ++ ':' :: (behind ++ value))) :: given, _,
          List.nodup_cons.mpr ⟨new, distinct⟩, ?_, gives.cons ?_ (read_field_others valued) new,
          .part isFirst lead _ form _ leads parts, ?_⟩
        · intro other given
          rcases List.mem_cons.mp given with rfl | later
          · exact member
          · exact List.mem_of_mem_erase (within later)
        · exact .mk token before behind value named ends begins spelled
        · simp only [List.append_assoc, List.cons_append]
  | case7 => cases read

theorem read_members_append {missing : List Field} {isFirst : Bool} {start config : Config}
    {given : List (Field × List Char)} {form : List Char} (unique : missing.Nodup)
    (distinct : (given.map Prod.fst).Nodup) (within : given.map Prod.fst ⊆ missing)
    (gives : Gives (fun field => SpelledMember field.name) start config given)
    (parts : Parts '\x7d' isFirst (given.map Prod.snd) form) (rest : List Char) :
    readMembers missing isFirst start (form ++ rest) = .ok (config, rest) := by
  induction given generalizing missing isFirst start form with
  | nil =>
      cases parts with
      | closed _ space blank =>
          rw [eq_of_gives_nil gives, List.append_assoc, readMembers]
          simp only [List.singleton_append, read_next_closed isFirst blank rest]
  | cons head given ih =>
      obtain ⟨field, member⟩ := head
      cases parts with
      | part _ lead _ text _ leads others =>
          have spelled : SpelledMember field.name (config.value field) member :=
            gives.spelled (field, member) List.mem_cons_self
          cases spelled with
          | mk key before behind token named ends begins valued =>
              obtain ⟨next, read, reached⟩ := read_field_append start begins valued
                (stops_parts others (Or.inl rfl) rest)
              obtain ⟨new, distinct⟩ := List.nodup_cons.mp distinct
              have known : field ∈ missing := within List.mem_cons_self
              have left : given.map Prod.fst ⊆ missing.erase field := by
                intro other later
                have different : other ≠ field := by
                  rintro rfl
                  exact new later
                exact (List.mem_erase_of_ne different).mpr (within (List.mem_cons_of_mem _ later))
              have onward := gives.tail reached (read_field_others read)
              have later := ih (unique.erase field) distinct left onward others
              have layout : (lead ++ ((key ++ (before ++ ':' :: (behind ++ token))) ++ text)) ++ rest =
                  lead ++ (key ++ (before ++ ':' :: (behind ++ (token ++ (text ++ rest))))) := by
                simp only [List.append_assoc, List.cons_append]
              rw [layout, readMembers]
              simp only [read_next_member leads named, of_name_name, read_colon_append ends, read,
                dif_pos known, later]

theorem read_list_end_append {space : List Char} (blank : Blank space) (rest : List Char) :
    readListEnd (space ++ ']' :: rest) = .ok rest := by
  rw [readListEnd, skip_space_append blank, skip_space_cons (by decide)]
  rfl

theorem read_list_end_eq_ok {text rest : List Char} (read : readListEnd text = .ok rest) :
    ∃ space, Blank space ∧ text = space ++ ']' :: rest := by
  unfold readListEnd at read
  split at read
  · cases read
  · rename_i begun
    cases read
    exact exists_blank_of_skip_space begun
  · split at read
    · cases read
    · cases read
  · cases read

theorem read_element_start_closed {space : List Char} (isFirst : Bool) (blank : Blank space)
    (rest : List Char) : readElementStart isFirst (space ++ ']' :: rest) = .ok (false, rest) := by
  rw [readElementStart, skip_space_append blank, skip_space_cons (by decide)]
  rfl

theorem read_element_start_element {isFirst : Bool} {lead token : List Char} {scalar : Scalar}
    (leads : Lead isFirst lead) (spelled : scalar.Spelled token) (rest : List Char) :
    readElementStart isFirst (lead ++ (token ++ rest)) = .ok (true, token ++ rest) := by
  obtain ⟨c, tail, rfl, solid, other⟩ := spelled_head spelled
  rw [List.cons_append]
  cases leads with
  | first _ blank =>
      rw [readElementStart, skip_space_append blank, skip_space_cons solid]
      simp only [if_neg other, if_true]
  | next before behind ends begins =>
      rw [readElementStart, List.append_assoc, skip_space_append ends, List.cons_append,
        skip_space_cons (by decide)]
      simp only [skip_space_append begins, skip_space_cons solid]
      rw [if_neg (by decide), if_neg (by decide), if_pos trivial]
      split
      · rename_i same
        cases same
      · rename_i same
        exact absurd (List.cons.inj same).1 other
      · rfl

theorem read_element_start_eq_ok {isFirst goesOn : Bool} {text rest : List Char}
    (read : readElementStart isFirst text = .ok (goesOn, rest)) :
    (∃ space, Blank space ∧ goesOn = false ∧ text = space ++ ']' :: rest) ∨
      ∃ lead, Lead isFirst lead ∧ goesOn = true ∧ text = lead ++ rest := by
  unfold readElementStart at read
  split at read
  · cases read
  · rename_i c after begun
    obtain ⟨space, blank, rfl⟩ := exists_blank_of_skip_space begun
    split at read
    · rename_i closes
      subst closes
      cases read
      exact Or.inl ⟨space, blank, rfl, rfl⟩
    · right
      split at read
      · rename_i first
        subst first
        cases read
        exact ⟨space, .first space blank, rfl, rfl⟩
      · rename_i later
        rw [Bool.not_eq_true] at later
        subst later
        split at read
        · rename_i comma
          subst comma
          obtain ⟨behind, begins, whole⟩ := exists_blank after
          split at read
          · cases read
          · cases read
          · cases read
            refine ⟨_, .next space behind blank begins, rfl, ?_⟩
            rw [List.append_assoc, List.cons_append, ← whole]
        · cases read

theorem read_elements_eq_ok {fields : List Field} {isFirst : Bool} {start config : Config}
    {text rest : List Char} (unique : fields.Nodup)
    (read : readElements isFirst start fields text = .ok (config, rest)) :
    ∃ given form, given.map Prod.fst <+: fields ∧ Gives (fun _ => Scalar.Spelled) start config given ∧
      Parts ']' isFirst (given.map Prod.snd) form ∧ text = form ++ rest := by
  induction fields generalizing isFirst start text with
  | nil =>
      obtain ⟨after, closed, same⟩ := map_eq_ok_iff.mp read
      cases same
      obtain ⟨space, blank, rfl⟩ := read_list_end_eq_ok closed
      exact ⟨[], space ++ [']'], List.nil_prefix, gives_nil _, .closed isFirst space blank,
        List.append_cons _ _ _⟩
  | cons field fields ih =>
      rw [readElements] at read
      split at read
      · cases read
      · rename_i after begun
        cases read
        rcases read_element_start_eq_ok begun with ⟨space, blank, _, rfl⟩ | ⟨_, _, goesOn, _⟩
        · exact ⟨[], space ++ [']'], List.nil_prefix, gives_nil _, .closed isFirst space blank,
            List.append_cons _ _ _⟩
        · cases goesOn
      · rename_i after begun
        rcases read_element_start_eq_ok begun with ⟨_, _, ended, _⟩ | ⟨lead, leads, _, rfl⟩
        · cases ended
        · split at read
          · cases read
          · rename_i next afterValue valued
            obtain ⟨given, form, ordered, gives, parts, rfl⟩ := ih unique.of_cons read
            obtain ⟨space, token, blank, spelled, rfl⟩ := read_field_eq_ok valued
            have new : field ∉ given.map Prod.fst := by
              intro again
              exact (List.nodup_cons.mp unique).1 (ordered.subset again)
            refine ⟨(field, token) :: given, _, (List.prefix_cons_inj field).mpr ordered,
              gives.cons spelled (read_field_others valued) new,
              .part isFirst (lead ++ space) token form _ (leads.append blank) parts, ?_⟩
            simp only [List.append_assoc]

theorem read_elements_append {fields : List Field} {isFirst : Bool} {start config : Config}
    {given : List (Field × List Char)} {form : List Char}
    (ordered : given.map Prod.fst <+: fields)
    (gives : Gives (fun _ => Scalar.Spelled) start config given)
    (parts : Parts ']' isFirst (given.map Prod.snd) form) (rest : List Char) :
    readElements isFirst start fields (form ++ rest) = .ok (config, rest) := by
  induction given generalizing fields isFirst start form with
  | nil =>
      cases parts with
      | closed _ space blank =>
          rw [eq_of_gives_nil gives, List.append_assoc, List.singleton_append]
          cases fields with
          | nil =>
              rw [readElements, read_list_end_append blank]
              rfl
          | cons field fields => simp only [readElements, read_element_start_closed isFirst blank rest]
  | cons head given ih =>
      obtain ⟨field, token⟩ := head
      cases parts with
      | part _ lead _ text _ leads others =>
          have spelled : (config.value field).Spelled token :=
            gives.spelled (field, token) List.mem_cons_self
          obtain ⟨next, read, reached⟩ := read_field_append start blank_nil spelled
            (stops_parts others (Or.inr rfl) rest)
          cases fields with
          | nil => cases List.prefix_nil.mp ordered
          | cons first fields =>
              obtain ⟨rfl, behind⟩ := List.cons_prefix_cons.mp ordered
              have later := ih behind (gives.tail reached (read_field_others read)) others
              rw [List.nil_append] at read
              have layout : (lead ++ (token ++ text)) ++ rest = lead ++ (token ++ (text ++ rest)) := by
                simp only [List.append_assoc]
              rw [layout, readElements]
              simp only [read_element_start_element leads spelled, read, later]

theorem read_document_of_document {text : List Char} {config : Config}
    (document : Document config text) : readDocument text = .ok config := by
  cases document with
  | object before text behind given begins ends distinct gives parts =>
      have read := read_members_append nodup_all distinct (fun field _ => mem_all field) gives
        parts behind
      rw [readDocument, readValue, skip_space_append begins, skip_space_cons (by decide)]
      simp only [read, skip_space_blank ends]
  | list before text behind given begins ends ordered gives parts =>
      have read := read_elements_append ordered gives parts behind
      rw [readDocument, readValue, skip_space_append begins, skip_space_cons (by decide)]
      simp only [read, skip_space_blank ends]

theorem Document.unique {text : List Char} {first second : Config} (one : Document first text)
    (other : Document second text) : first = second :=
  Except.ok.inj ((read_document_of_document one).symm.trans (read_document_of_document other))

theorem document_of_read_document {text : List Char} {config : Config}
    (read : readDocument text = .ok config) : Document config text := by
  unfold readDocument at read
  split at read
  · cases read
  · rename_i found behind valued
    split at read
    · rename_i ended
      cases read
      have ends : Blank behind := by
        obtain ⟨space, blank, whole⟩ := exists_blank behind
        rw [ended, List.append_nil] at whole
        exact whole ▸ blank
      unfold readValue at valued
      split at valued
      · cases valued
      · rename_i begun
        obtain ⟨before, begins, rfl⟩ := exists_blank_of_skip_space begun
        obtain ⟨given, form, ordered, gives, parts, rfl⟩ :=
          read_elements_eq_ok nodup_all valued
        exact .list before form behind given begins ends ordered gives parts
      · rename_i begun
        obtain ⟨before, begins, rfl⟩ := exists_blank_of_skip_space begun
        obtain ⟨given, form, distinct, _, gives, parts, rfl⟩ :=
          read_members_eq_ok nodup_all valued
        exact .object before form behind given begins ends distinct gives parts
      · cases valued
    · cases read

theorem of_json_of_document {text : String} {config : Config}
    (document : Document config text.toList) :
    ofJson text = match Algorithm.ofName? config.algorithm with
      | some _ => .ok config
      | none => .error (.unknownName config.algorithm) := by
  simp only [ofJson, read_document_of_document document, chosen]
  cases Algorithm.ofName? config.algorithm with
  | none => rfl
  | some algorithm => rfl

-- Either the text documents a configuration, and then its name decides, or it documents none.
theorem of_json_cases (text : String) :
    (∃ config, Document config text.toList ∧ ofJson text =
      match Algorithm.ofName? config.algorithm with
      | some _ => .ok config
      | none => .error (.unknownName config.algorithm)) ∨
    (∀ config, ¬ Document config text.toList) ∧ ∃ error, ofJson text = .error (.config error) := by
  cases read : readDocument text.toList with
  | ok config =>
      have document := document_of_read_document read
      exact Or.inl ⟨config, document, of_json_of_document document⟩
  | error halt =>
      refine Or.inr ⟨fun config document => ?_, halt.toError text.toList, ?_⟩
      · cases read.symm.trans (read_document_of_document document)
      · simp only [ofJson, read]

theorem of_json_eq_ok_iff (text : String) (config : Config) :
    ofJson text = .ok config ↔
      Document config text.toList ∧ (Algorithm.ofName? config.algorithm).isSome = true := by
  constructor
  · intro read
    rcases of_json_cases text with ⟨found, document, answer⟩ | ⟨_, error, failed⟩
    · rw [answer] at read
      split at read
      · rename_i known
        cases read
        exact ⟨document, by rw [known]; rfl⟩
      · cases read
    · cases failed.symm.trans read
  · rintro ⟨document, known⟩
    obtain ⟨algorithm, named⟩ := Option.isSome_iff_exists.mp known
    rw [of_json_of_document document, named]

theorem of_json_eq_unknown_name_iff (text name : String) :
    ofJson text = .error (.unknownName name) ↔
      ∃ config, Document config text.toList ∧ config.algorithm = name ∧
        Algorithm.ofName? name = none := by
  constructor
  · intro read
    rcases of_json_cases text with ⟨found, document, answer⟩ | ⟨_, error, failed⟩
    · rw [answer] at read
      split at read
      · cases read
      · rename_i unknown
        cases read
        exact ⟨found, document, rfl, unknown⟩
    · cases failed.symm.trans read
  · rintro ⟨config, document, rfl, unknown⟩
    rw [of_json_of_document document, unknown]

theorem of_json_eq_config_iff (text : String) :
    (∃ error, ofJson text = .error (.config error)) ↔
      ∀ config, ¬ Document config text.toList := by
  constructor
  · rintro ⟨error, failed⟩ config document
    rw [of_json_of_document document] at failed
    split at failed
    · cases failed
    · cases failed
  · intro none
    rcases of_json_cases text with ⟨config, document, _⟩ | ⟨_, failed⟩
    · exact absurd document (none config)
    · exact failed

theorem of_json_decides_documents (text : String) :
    (∀ config, ofJson text = .ok config ↔
      Document config text.toList ∧ (Algorithm.ofName? config.algorithm).isSome = true) ∧
    (∀ name, ofJson text = .error (.unknownName name) ↔
      ∃ config, Document config text.toList ∧ config.algorithm = name ∧
        Algorithm.ofName? name = none) ∧
    ((∃ error, ofJson text = .error (.config error)) ↔
      ∀ config, ¬ Document config text.toList) :=
  ⟨of_json_eq_ok_iff text, of_json_eq_unknown_name_iff text, of_json_eq_config_iff text⟩

theorem document_to_json (config : Config) : Document config config.toJson.toList := by
  obtain ⟨text, written, parts⟩ := parts_write_object (Field.algorithm.name, config.value .algorithm)
    [(Field.level.name, config.value .level), (Field.quality.name, config.value .quality)]
  have whole : config.toJson.toList = [] ++ '\x7b' :: (text ++ []) := by
    rw [toJson, String.toList_ofList, List.append_nil, List.nil_append, ← written]
    rfl
  rw [whole]
  refine .object [] text []
    (Field.all.map fun field => (field, memberForm (field.name, config.value field)))
    blank_nil blank_nil nodup_all ⟨?_, ?_⟩ parts
  · intro part member
    obtain ⟨field, _, rfl⟩ := List.mem_map.mp member
    exact spelled_member_member_form (field.name, config.value field)
  · intro field absent
    exact absurd (mem_all field) absent

theorem of_json_to_json (config : Config) :
    ofJson config.toJson = match Algorithm.ofName? config.algorithm with
      | some _ => .ok config
      | none => .error (.unknownName config.algorithm) :=
  of_json_of_document (document_to_json config)

end TaggedBlock.Config
