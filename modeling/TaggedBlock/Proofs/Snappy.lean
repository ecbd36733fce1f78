import TaggedBlock.Proofs.Phrasing
import TaggedBlock.Snappy

set_option autoImplicit false

namespace TaggedBlock.Snappy

namespace Element

def append? (element : Element) (out : Array UInt8) : Option (Array UInt8) :=
  match element with
  | .literal bytes => some (out ++ bytes)
  | .copy distance length =>
    if within : 0 < distance ∧ distance ≤ out.size then some (copyBack out distance length within)
    else none

def appendAll? (out : Array UInt8) : List Element → Option (Array UInt8)
  | [] => some out
  | element :: elements => (element.append? out).bind fun grown => appendAll? grown elements

-- The written forms of an element. A literal may tell its length in the tag or in one to four
-- bytes; the three kinds of copies differ in how far they reach.
inductive Written : Element → Bytes → Prop where
  | short (bytes : Bytes) (filled : 0 < bytes.length) (fits : bytes.length ≤ 60) :
      Written (.literal bytes) (UInt8.ofNat (4 * (bytes.length - 1)) :: bytes)
  | long (bytes : Bytes) (digits : Nat) (filled : 0 < bytes.length) (one : 0 < digits)
      (four : digits ≤ 4) (fits : bytes.length - 1 < 1 <<< (8 * digits)) :
      Written (.literal bytes)
        (UInt8.ofNat (4 * (59 + digits)) :: (littleEndianDigits digits (bytes.length - 1) ++ bytes))
  | near (distance length : Nat) (shortest : 4 ≤ length) (longest : length ≤ 11)
      (reach : distance < 2048) :
      Written (.copy distance length)
        (UInt8.ofNat (1 + 4 * (length - 4) + 32 * (distance / 256)) ::
          littleEndianDigits 1 (distance % 256))
  | middle (distance length : Nat) (filled : 0 < length) (longest : length ≤ 64)
      (reach : distance < 65536) :
      Written (.copy distance length)
        (UInt8.ofNat (4 * (length - 1) + 2) :: littleEndianDigits 2 distance)
  | far (distance length : Nat) (filled : 0 < length) (longest : length ≤ 64)
      (reach : distance < 4294967296) :
      Written (.copy distance length)
        (UInt8.ofNat (4 * (length - 1) + 3) :: littleEndianDigits 4 distance)

inductive Spelled : List Element → Bytes → Prop where
  | nil : Spelled [] []
  | cons (element : Element) (bytes : Bytes) (elements : List Element) (more : Bytes)
      (written : element.Written bytes) (rest : Spelled elements more) :
      Spelled (element :: elements) (bytes ++ more)

theorem written_ne_nil (element : Element) (bytes : Bytes) (written : element.Written bytes) :
    bytes ≠ [] := by
  cases written <;> exact List.cons_ne_nil _ _

theorem size_append_element (element : Element) (out grown : Array UInt8)
    (appended : element.append? out = some grown) : out.size ≤ grown.size := by
  cases element with
  | literal bytes =>
      cases appended
      rw [size_append]
      omega
  | copy distance length =>
      simp only [append?] at appended
      split at appended
      · cases appended
        rw [size_copy_back]
        omega
      · cases appended

theorem size_append_all (elements : List Element) (out final : Array UInt8)
    (appended : appendAll? out elements = some final) : out.size ≤ final.size := by
  induction elements generalizing out with
  | nil => cases appended; exact Nat.le_refl _
  | cons element elements ih =>
      obtain ⟨grown, first, rest⟩ := Option.bind_eq_some_iff.mp appended
      exact Nat.le_trans (size_append_element element out grown first) (ih grown rest)

theorem literal_le_append_all (elements : List Element) (out final : Array UInt8) (bytes : Bytes)
    (appended : appendAll? out elements = some final) (member : .literal bytes ∈ elements) :
    bytes.length ≤ final.size := by
  induction elements generalizing out with
  | nil => cases member
  | cons element elements ih =>
      obtain ⟨grown, first, rest⟩ := Option.bind_eq_some_iff.mp appended
      rcases List.mem_cons.mp member with here | later
      · subst here
        cases first
        have larger := size_append_all elements _ final rest
        rw [size_append] at larger
        omega
      · exact ih grown rest later

theorem append_all_append (out : Array UInt8) (first second : List Element) :
    appendAll? out (first ++ second) =
      (appendAll? out first).bind fun grown => appendAll? grown second := by
  induction first generalizing out with
  | nil => rfl
  | cons element elements ih => simp only [List.cons_append, appendAll?, ih, Option.bind_assoc]

end Element

theorem read_literal_short (declared tag : Nat) (bytes rest : Bytes) (out : Array UInt8)
    (small : tag / 4 < 60) (size : bytes.length = tag / 4 + 1)
    (room : bytes.length ≤ declared - out.size) :
    readLiteral declared tag (bytes ++ rest) out = .ok (out ++ bytes, rest) := by
  simp only [readLiteral, if_pos small, ← size, if_pos room, split_bytes_append bytes rest rfl]

theorem read_literal_long (declared tag : Nat) (bytes rest : Bytes) (out : Array UInt8)
    (large : ¬ tag / 4 < 60) (filled : 0 < bytes.length)
    (fits : bytes.length - 1 < 1 <<< (8 * (tag / 4 - 59)))
    (room : bytes.length ≤ declared - out.size) :
    readLiteral declared tag
        (littleEndianDigits (tag / 4 - 59) (bytes.length - 1) ++ (bytes ++ rest)) out =
      .ok (out ++ bytes, rest) := by
  have size : bytes.length - 1 + 1 = bytes.length := Nat.sub_add_cancel filled
  simp only [readLiteral, if_neg large, split_bytes_digits, Option.map_some,
    little_endian_little_endian_digits _ _ fits, size, if_pos room, split_bytes_append bytes rest rfl]

theorem read_copy_digits (declared tag distance low : Nat) (rest : Bytes) (out grown : Array UInt8)
    (fits : low < 1 <<< (8 * distanceDigits tag)) (whole : distanceHigh tag + low = distance)
    (appended : (Element.copy distance (copyLength tag)).append? out = some grown)
    (room : grown.size ≤ declared) :
    readCopy declared tag (littleEndianDigits (distanceDigits tag) low ++ rest) out =
      .ok (grown, rest) := by
  simp only [Element.append?] at appended
  split at appended
  · rename_i within
    cases appended
    rw [size_copy_back] at room
    simp only [readCopy, split_bytes_digits, little_endian_little_endian_digits _ _ fits, whole,
      dif_pos within, if_pos (show copyLength tag ≤ declared - out.size by omega)]
  · cases appended

theorem read_element_copy (declared tag distance length low : Nat) (rest : Bytes)
    (out grown : Array UInt8) (kind : tag % 4 ≠ 0) (size : copyLength tag = length)
    (fits : low < 1 <<< (8 * distanceDigits tag)) (whole : distanceHigh tag + low = distance)
    (appended : (Element.copy distance length).append? out = some grown)
    (room : grown.size ≤ declared) :
    readElement declared tag (littleEndianDigits (distanceDigits tag) low ++ rest) out =
      .ok (grown, rest) := by
  subst size
  rw [readElement, if_neg kind]
  exact read_copy_digits declared tag distance low rest out grown fits whole appended room

theorem read_element_wide (declared kind distance length : Nat) (rest : Bytes)
    (out grown : Array UInt8) (wide : kind = 2 ∨ kind = 3) (filled : 0 < length)
    (reach : distance < 1 <<< (8 * distanceDigits kind))
    (appended : (Element.copy distance length).append? out = some grown)
    (room : grown.size ≤ declared) :
    readElement declared (4 * (length - 1) + kind)
        (littleEndianDigits (distanceDigits kind) distance ++ rest) out = .ok (grown, rest) := by
  generalize tagEq : 4 * (length - 1) + kind = tag
  have residue : tag % 4 = kind % 4 := by omega
  have digits : distanceDigits tag = distanceDigits kind := by
    simp only [distanceDigits, residue]
  have size : copyLength tag = length := by
    rw [copyLength, if_neg (by omega)]
    omega
  have high : distanceHigh tag = 0 := by
    rw [distanceHigh, if_neg (by omega)]
  rw [← digits] at reach ⊢
  exact read_element_copy declared tag distance length distance rest out grown (by omega) size reach
    (by rw [high, Nat.zero_add]) appended room

theorem read_element_written (declared : Nat) (element : Element) (tag : UInt8)
    (bytes rest : Bytes) (out grown : Array UInt8) (written : element.Written (tag :: bytes))
    (appended : element.append? out = some grown) (room : grown.size ≤ declared) :
    readElement declared tag.toNat (bytes ++ rest) out = .ok (grown, rest) := by
  cases written with
  | short _ filled fits =>
      cases appended
      rw [size_append] at room
      rw [to_nat_of_nat _ (by omega), readElement, if_pos (by omega)]
      exact read_literal_short declared _ bytes rest out (by omega) (by omega) (by omega)
  | long bytes digits filled one four fits =>
      cases appended
      rw [size_append] at room
      have number : 4 * (59 + digits) / 4 - 59 = digits := by omega
      rw [to_nat_of_nat _ (by omega), readElement, if_pos (by omega), List.append_assoc]
      have read := read_literal_long declared (4 * (59 + digits)) bytes rest out (by omega) filled
        (by rw [number]; exact fits) (by omega)
      rwa [number] at read
  | near distance length shortest longest reach =>
      rw [to_nat_of_nat _ (by omega)]
      generalize tagEq : 1 + 4 * (length - 4) + 32 * (distance / 256) = tag
      have digits : distanceDigits tag = 1 := by simp only [distanceDigits]; rw [if_pos (by omega)]
      have size : copyLength tag = length := by
        simp only [copyLength]
        rw [if_pos (by omega)]
        omega
      have high : distanceHigh tag = 256 * (distance / 256) := by
        simp only [distanceHigh]
        rw [if_pos (by omega)]
        omega
      have read := read_element_copy declared tag distance length (distance % 256) rest out grown
        (by omega) size (by rw [digits]; exact Nat.mod_lt _ (by decide))
        (by rw [high]; exact Nat.div_add_mod distance 256) appended room
      rwa [digits] at read
  | middle distance length filled longest reach =>
      rw [to_nat_of_nat _ (by omega)]
      exact read_element_wide declared 2 distance length rest out grown (Or.inl rfl) filled reach
        appended room
  | far distance length filled longest reach =>
      rw [to_nat_of_nat _ (by omega)]
      exact read_element_wide declared 3 distance length rest out grown (Or.inr rfl) filled reach
        appended room

theorem read_elements_cons (declared : Nat) (tag : UInt8) (source rest : Bytes)
    (out grown : Array UInt8)
    (read : readElement declared tag.toNat source out = .ok (grown, rest)) :
    readElements declared (tag :: source) out = readElements declared rest grown := by
  rw [readElements]
  split
  · rename_i failed
    rw [read] at failed
    cases failed
  · rename_i succeeded
    rw [read] at succeeded
    cases succeeded
    rfl

theorem read_elements_spelled (declared : Nat) (elements : List Element) (bytes rest : Bytes)
    (out final : Array UInt8) (spelled : Element.Spelled elements bytes)
    (appended : Element.appendAll? out elements = some final) (room : final.size ≤ declared) :
    readElements declared (bytes ++ rest) out = readElements declared rest final := by
  induction spelled generalizing out with
  | nil =>
      cases appended
      rfl
  | cons element bytes elements more written later ih =>
      obtain ⟨grown, first, others⟩ := Option.bind_eq_some_iff.mp appended
      obtain ⟨tag, tail, rfl⟩ :=
        List.exists_cons_of_ne_nil (Element.written_ne_nil element bytes written)
      have below := Element.size_append_all elements grown final others
      have read := read_element_written declared element tag tail (more ++ rest) out grown written
        first (Nat.le_trans below room)
      rw [List.append_assoc, List.cons_append, read_elements_cons _ _ _ _ _ _ read]
      exact ih grown others

-- The written forms of a length: seven bits a byte, the lowest first, and the top bit set in all
-- bytes but the last. High digits of zero do no harm.
inductive WrittenLength : Nat → Bytes → Prop where
  | last (digit : Nat) (low : digit < 128) : WrittenLength digit [UInt8.ofNat digit]
  | more (digit value : Nat) (bytes : Bytes) (low : digit < 128) (rest : WrittenLength value bytes) :
      WrittenLength (digit + 128 * value) (UInt8.ofNat (128 + digit) :: bytes)

theorem written_length_ne_nil {value : Nat} {header : Bytes} (written : WrittenLength value header) :
    header ≠ [] := by
  cases written <;> exact List.cons_ne_nil _ _

theorem read_varint_written (room value : Nat) (header rest : Bytes)
    (written : WrittenLength value header) (short : header.length ≤ room) :
    readVarint? room (header ++ rest) = some (value, rest) := by
  induction written generalizing room with
  | last digit low =>
      cases room with
      | zero => cases short
      | succ room =>
          simp only [List.singleton_append, readVarint?, to_nat_of_nat digit (by omega), if_pos low]
  | more digit value bytes low later ih =>
      cases room with
      | zero => cases short
      | succ room =>
          have byte := to_nat_of_nat (128 + digit) (by omega)
          simp only [List.cons_append, readVarint?, byte, ih room (Nat.le_of_succ_le_succ short),
            Option.map_some]
          rw [if_neg (by omega), Nat.add_sub_cancel_left]

theorem written_length_varint (value : Nat) : WrittenLength value (varint value) := by
  fun_induction varint value with
  | case1 value small => exact .last value small
  | case2 value large ih =>
      have more := WrittenLength.more (value % 128) (value / 128) _ (Nat.mod_lt _ (by decide)) ih
      rwa [Nat.mod_add_div, Nat.add_comm 128] at more

theorem length_varint (room value : Nat) (fits : value < 1 <<< (7 * (room + 1))) :
    (varint value).length ≤ room + 1 := by
  induction room generalizing value with
  | zero =>
      have small : value < 128 := fits
      rw [varint, if_pos small]
      exact Nat.le_refl 1
  | succ room ih =>
      rw [Nat.mul_succ, Nat.shiftLeft_add] at fits
      rw [varint]
      split
      · exact Nat.succ_le_succ (Nat.zero_le _)
      · exact Nat.succ_le_succ (ih (value / 128) (by omega))

namespace Element

def Fits : Element → Prop
  | .literal bytes => 0 < bytes.length ∧ bytes.length ≤ 4294967296
  | .copy distance length => 0 < length ∧ length ≤ 64 ∧ distance < 65536

theorem written_render (element : Element) (fits : element.Fits) : element.Written element.render := by
  cases element with
  | literal bytes =>
      obtain ⟨filled, bound⟩ := fits
      by_cases short : bytes.length ≤ 60
      · simpa only [render, if_pos short] using Written.short bytes filled short
      · have digits : bytes.length - 1 < 1 <<< (8 * literalDigits bytes.length) ∧
            0 < literalDigits bytes.length ∧ literalDigits bytes.length ≤ 4 := by
          simp only [literalDigits]
          repeat' split
          all_goals
            refine ⟨?_, by decide, by decide⟩
            simp only [Nat.reduceMul, Nat.reduceShiftLeft]
            omega
        simp only [render, if_neg short, List.cons_append]
        exact Written.long bytes _ filled digits.2.1 digits.2.2 digits.1
  | copy distance length =>
      obtain ⟨filled, bound, reach⟩ := fits
      exact Written.middle distance length filled bound reach

theorem spelled_flat_map (elements : List Element) (fit : ∀ element ∈ elements, element.Fits) :
    Spelled elements (elements.flatMap render) := by
  induction elements with
  | nil => exact .nil
  | cons element elements ih =>
      rw [List.flatMap_cons]
      exact .cons _ _ _ _ (written_render element (fit element (List.mem_cons_self ..)))
        (ih fun other member => fit other (List.mem_cons_of_mem _ member))

end Element

theorem append_all_replicate (out : Array UInt8) (distance length count : Nat)
    (within : 0 < distance ∧ distance ≤ out.size) :
    Element.appendAll? out (List.replicate count (.copy distance length)) =
      some (copyBack out distance (count * length) within) := by
  induction count generalizing out with
  | zero => rw [List.replicate_zero, Nat.zero_mul]; rfl
  | succ count ih =>
      have still : 0 < distance ∧ distance ≤ (copyBack out distance length within).size := by
        rw [size_copy_back]
        omega
      rw [List.replicate_succ]
      simp only [Element.appendAll?, Element.append?, dif_pos within, Option.bind_some]
      rw [ih _ still, copy_back_add, Nat.succ_mul, Nat.add_comm]

theorem append_all_copies (out : Array UInt8) (distance length : Nat)
    (within : 0 < distance ∧ distance ≤ out.size) :
    Element.appendAll? out (copies distance length) =
      some (copyBack out distance length within) := by
  have still : 0 < distance ∧
      distance ≤ (copyBack out distance (length / longestCopy * longestCopy) within).size := by
    rw [size_copy_back]
    omega
  have parts := Nat.div_add_mod' length longestCopy
  rw [copies, Element.append_all_append, append_all_replicate out distance longestCopy _ within,
    Option.bind_some]
  by_cases whole : length % longestCopy = 0
  · rw [if_pos whole]
    rw [whole, Nat.add_zero] at parts
    simp only [Element.appendAll?, parts]
  · rw [if_neg whole]
    simp only [Element.appendAll?, Element.append?, dif_pos still, Option.bind_some, copy_back_add,
      parts]

theorem append_all_literals (out : Array UInt8) (bytes : Bytes) :
    Element.appendAll? out (literals bytes) = some (out ++ bytes) := by
  cases bytes with
  | nil => simp [literals, Element.appendAll?]
  | cons byte bytes => rfl

theorem append_all_phrase (out grown : Array UInt8) (phrase : Phrase)
    (expanded : phrase.expand? out = some grown) :
    Element.appendAll? out (literals phrase.fresh ++ copies phrase.distance phrase.length) =
      some grown := by
  simp only [Phrase.expand?] at expanded
  split at expanded
  · rename_i within
    rw [Element.append_all_append, append_all_literals, Option.bind_some,
      append_all_copies _ _ _ within]
    exact expanded
  · cases expanded

theorem append_all_phrases (phrases : List Phrase) (out grown : Array UInt8)
    (expanded : Phrasing.expandAll? out phrases = some grown) :
    Element.appendAll? out (phrases.flatMap fun phrase =>
      literals phrase.fresh ++ copies phrase.distance phrase.length) = some grown := by
  induction phrases generalizing out with
  | nil => exact expanded
  | cons phrase phrases ih =>
      obtain ⟨middle, first, rest⟩ := Option.bind_eq_some_iff.mp expanded
      rw [List.flatMap_cons, Element.append_all_append, append_all_phrase out middle phrase first,
        Option.bind_some]
      exact ih middle rest

theorem append_all_elements (phrasing : Phrasing) (text : Array UInt8)
    (expanded : phrasing.expand? = some text) :
    Element.appendAll? #[] (elements phrasing) = some text := by
  obtain ⟨grown, phrases, whole⟩ := Option.map_eq_some_iff.mp expanded
  rw [elements, Element.append_all_append, append_all_phrases _ _ _ phrases, Option.bind_some,
    append_all_literals, whole]

theorem copies_fit (distance length : Nat) (reach : distance < 65536) (element : Element)
    (member : element ∈ copies distance length) : element.Fits := by
  rcases List.mem_append.mp member with whole | last
  · obtain ⟨_, rfl⟩ := List.mem_replicate.mp whole
    exact ⟨by decide, by decide, reach⟩
  · split at last
    · cases last
    · rename_i part
      obtain rfl := List.mem_singleton.mp last
      have bound := Nat.mod_lt length (show 0 < longestCopy by decide)
      exact ⟨Nat.pos_of_ne_zero part, Nat.le_of_lt bound, reach⟩

theorem mem_literals (bytes : Bytes) (element : Element) (member : element ∈ literals bytes) :
    element = .literal bytes ∧ 0 < bytes.length := by
  cases bytes with
  | nil => cases member
  | cons byte bytes => exact ⟨List.mem_singleton.mp member, Nat.succ_pos _⟩

theorem mem_elements (phrasing : Phrasing) (element : Element)
    (member : element ∈ elements phrasing) :
    (∃ bytes, element = .literal bytes ∧ 0 < bytes.length) ∨
      ∃ phrase ∈ phrasing.phrases, element ∈ copies phrase.distance phrase.length := by
  rcases List.mem_append.mp member with inner | last
  · obtain ⟨phrase, listed, inside⟩ := List.mem_flatMap.mp inner
    rcases List.mem_append.mp inside with fresh | copied
    · exact Or.inl ⟨_, mem_literals _ _ fresh⟩
    · exact Or.inr ⟨phrase, listed, copied⟩
  · exact Or.inl ⟨_, mem_literals _ _ last⟩

theorem elements_fit (phrasing : Phrasing) (text : Array UInt8)
    (expanded : phrasing.expand? = some text) (bound : text.size ≤ 4294967296)
    (bounded : Phrasing.Bounded farthest phrasing.phrases) (element : Element)
    (member : element ∈ elements phrasing) : element.Fits := by
  rcases mem_elements phrasing element member with ⟨bytes, rfl, filled⟩ | ⟨phrase, listed, copied⟩
  · have inText := Element.literal_le_append_all (elements phrasing) #[] text bytes
      (append_all_elements phrasing text expanded) member
    exact ⟨filled, Nat.le_trans inText bound⟩
  · have reach : phrase.distance < 65536 := Nat.lt_succ_of_le (bounded phrase listed).1
    exact copies_fit _ _ reach element copied

theorem decode_spelled (header spelling : Bytes) (elements : List Element) (text : Array UInt8)
    (length : WrittenLength text.size header) (short : header.length ≤ lengthRoom)
    (bound : text.size ≤ longest) (spelled : Element.Spelled elements spelling)
    (appended : Element.appendAll? #[] elements = some text) (rest : Bytes) :
    decode (header ++ (spelling ++ rest)) =
      (readElements text.size rest text).map Array.toList := by
  have filled : ¬ (header ++ (spelling ++ rest)).isEmpty = true := by
    rw [List.isEmpty_iff, List.append_eq_nil_iff]
    exact fun empty => written_length_ne_nil length empty.1
  rw [decode, if_neg filled, read_varint_written _ _ _ _ length short]
  simp only [if_pos bound,
    read_elements_spelled text.size elements spelling rest #[] text spelled appended (Nat.le_refl _)]

theorem read_elements_nil (out : Array UInt8) : readElements out.size [] out = .ok out := by
  rw [readElements, if_pos rfl]

theorem decode_encode (raw : Bytes) (room : worstSize raw.length ≤ longest) :
    ∃ payload, encode raw = .ok payload ∧ decode payload = .ok raw := by
  obtain ⟨expanded, bounded⟩ := Phrasing.expand_of_bytes farthest raw
  have size : raw.toArray.size = raw.length := List.size_toArray
  have short : raw.toArray.size ≤ longest := by
    simp only [worstSize] at room
    omega
  have spelled := Element.spelled_flat_map (elements (Phrasing.ofBytes farthest raw))
    (elements_fit _ _ expanded (Nat.le_succ_of_le short) bounded)
  have read := decode_spelled _ _ _ raw.toArray (written_length_varint _)
    (length_varint 4 _ (Nat.lt_of_le_of_lt short (by decide))) short spelled
    (append_all_elements _ _ expanded) []
  rw [size, List.append_nil, ← size, read_elements_nil] at read
  exact ⟨_, if_pos room, read⟩

end TaggedBlock.Snappy
