import TaggedBlock.Proofs.Snappy

set_option autoImplicit false

namespace TaggedBlock.Snappy

namespace Element

inductive Expands : Bytes → List Element → Bytes → Prop where
  | nil (text : Bytes) : Expands text [] text
  | literal (text bytes whole : Bytes) (elements : List Element)
      (rest : Expands (text ++ bytes) elements whole) :
      Expands text (.literal bytes :: elements) whole
  | copy (text middle whole : Bytes) (distance length : Nat) (elements : List Element)
      (offset : 0 < distance ∧ distance ≤ text.length)
      (copied : Copied distance length text middle) (rest : Expands middle elements whole) :
      Expands text (.copy distance length :: elements) whole

theorem expands_of_append_all (elements : List Element) (out final : Array UInt8)
    (appended : appendAll? out elements = some final) :
    Expands out.toList elements final.toList := by
  induction elements generalizing out with
  | nil =>
      cases appended
      exact .nil _
  | cons element elements ih =>
      obtain ⟨grown, first, rest⟩ := Option.bind_eq_some_iff.mp appended
      have later := ih grown rest
      cases element with
      | literal bytes =>
          cases first
          rw [Array.toList_appendList] at later
          exact .literal _ _ _ _ later
      | copy distance length =>
          simp only [append?] at first
          split at first
          · rename_i within
            cases first
            exact .copy _ _ _ _ _ _ within ((copied_iff out _ _ _ within).mpr rfl) later
          · cases first

theorem append_all_of_expands (elements : List Element) (out : Array UInt8) (whole : Bytes)
    (expands : Expands out.toList elements whole) :
    ∃ final, appendAll? out elements = some final ∧ final.toList = whole := by
  induction elements generalizing out with
  | nil =>
      cases expands
      exact ⟨out, rfl, rfl⟩
  | cons element elements ih =>
      cases expands with
      | literal _ bytes _ _ rest =>
          rw [← Array.toList_appendList] at rest
          exact ih _ rest
      | copy _ middle _ distance length _ offset copied rest =>
          have within : 0 < distance ∧ distance ≤ out.size := offset
          have made := (copied_iff out distance length middle within).mp copied
          subst made
          obtain ⟨final, appended, same⟩ := ih _ rest
          refine ⟨final, ?_, same⟩
          simp only [appendAll?, append?]
          rw [dif_pos within]
          exact appended

end Element

theorem read_varint_eq_some {room value : Nat} {source rest : Bytes}
    (read : readVarint? room source = some (value, rest)) :
    ∃ header, source = header ++ rest ∧ header.length ≤ room ∧ WrittenLength value header := by
  induction room generalizing source value with
  | zero => cases read
  | succ room ih =>
      cases source with
      | nil => cases read
      | cons byte source =>
          have bound : byte.toNat < 256 := byte.toNat_lt
          simp only [readVarint?] at read
          split at read
          · rename_i low
            cases read
            refine ⟨[byte], rfl, Nat.succ_le_succ (Nat.zero_le _), ?_⟩
            have written := WrittenLength.last byte.toNat low
            rwa [UInt8.ofNat_toNat] at written
          · rename_i high
            obtain ⟨⟨value, after⟩, inner, same⟩ := Option.map_eq_some_iff.mp read
            cases same
            obtain ⟨header, rfl, short, later⟩ := ih inner
            refine ⟨byte :: header, rfl, Nat.succ_le_succ short, ?_⟩
            have written := WrittenLength.more (byte.toNat - 128) value header (by omega) later
            rwa [show 128 + (byte.toNat - 128) = byte.toNat by omega, UInt8.ofNat_toNat] at written

theorem read_literal_eq_ok {declared : Nat} {tag : UInt8} {source rest : Bytes}
    {out grown : Array UInt8} (kind : tag.toNat % 4 = 0)
    (read : readLiteral declared tag.toNat source out = .ok (grown, rest)) :
    ∃ bytes form, source = form ++ rest ∧ (Element.literal bytes).Written (tag :: form) ∧
      grown = out ++ bytes := by
  have bound : tag.toNat < 256 := tag.toNat_lt
  simp only [readLiteral] at read
  split at read
  · cases read
  · rename_i length middle found
    split at read
    · split at read
      · rename_i bytes after split
        cases read
        obtain ⟨rfl, size⟩ := split_bytes_eq_some split
        split at found
        · rename_i small
          cases found
          refine ⟨bytes, bytes, rfl, ?_, rfl⟩
          have written := Element.Written.short bytes (by omega) (by omega)
          rwa [size, show 4 * (tag.toNat / 4 + 1 - 1) = tag.toNat by omega, UInt8.ofNat_toNat]
            at written
        · rename_i large
          obtain ⟨⟨number, tail⟩, digits, same⟩ := Option.map_eq_some_iff.mp found
          cases same
          obtain ⟨spelled, fits⟩ := split_bytes_eq_digits digits
          have counted : bytes.length = littleEndian number + 1 := size
          have less : bytes.length - 1 = littleEndian number := by omega
          refine ⟨bytes, littleEndianDigits (tag.toNat / 4 - 59) (littleEndian number) ++ bytes,
            ?_, ?_, rfl⟩
          · rw [List.append_assoc]
            exact spelled
          · have written := Element.Written.long bytes (tag.toNat / 4 - 59) (by omega) (by omega)
              (by omega) (by rw [less]; exact fits)
            rwa [less, show 4 * (59 + (tag.toNat / 4 - 59)) = tag.toNat by omega,
              UInt8.ofNat_toNat] at written
      · cases read
    · cases read

theorem written_copy (tag : UInt8) (low : Nat) (kind : tag.toNat % 4 ≠ 0)
    (fits : low < 1 <<< (8 * distanceDigits tag.toNat)) :
    (Element.copy (distanceHigh tag.toNat + low) (copyLength tag.toNat)).Written
      (tag :: littleEndianDigits (distanceDigits tag.toNat) low) := by
  have bound : tag.toNat < 256 := tag.toNat_lt
  by_cases near : tag.toNat % 4 = 1
  · simp only [distanceDigits, distanceHigh, copyLength, if_pos near] at fits ⊢
    have small : low < 256 := fits
    have written := Element.Written.near (256 * (tag.toNat / 32) + low) (4 + tag.toNat / 4 % 8)
      (by omega) (by omega) (by omega)
    rwa [show 1 + 4 * (4 + tag.toNat / 4 % 8 - 4) + 32 * ((256 * (tag.toNat / 32) + low) / 256) =
        tag.toNat by omega,
      show (256 * (tag.toNat / 32) + low) % 256 = low by omega, UInt8.ofNat_toNat] at written
  · by_cases middle : tag.toNat % 4 = 2
    · simp only [distanceDigits, distanceHigh, copyLength, if_neg near, if_pos middle,
        Nat.zero_add] at fits ⊢
      have written := Element.Written.middle low (tag.toNat / 4 + 1) (by omega) (by omega) fits
      rwa [show 4 * (tag.toNat / 4 + 1 - 1) + 2 = tag.toNat by omega, UInt8.ofNat_toNat] at written
    · simp only [distanceDigits, distanceHigh, copyLength, if_neg near, if_neg middle,
        Nat.zero_add] at fits ⊢
      have written := Element.Written.far low (tag.toNat / 4 + 1) (by omega) (by omega) fits
      rwa [show 4 * (tag.toNat / 4 + 1 - 1) + 3 = tag.toNat by omega, UInt8.ofNat_toNat] at written

theorem read_element_eq_ok {declared : Nat} {tag : UInt8} {source rest : Bytes}
    {out grown : Array UInt8}
    (read : readElement declared tag.toNat source out = .ok (grown, rest)) :
    ∃ (element : Element) (form : Bytes), source = form ++ rest ∧ element.Written (tag :: form) ∧
      element.append? out = some grown := by
  simp only [readElement] at read
  split at read
  · rename_i kind
    obtain ⟨bytes, form, spelled, written, rfl⟩ := read_literal_eq_ok kind read
    exact ⟨.literal bytes, form, spelled, written, rfl⟩
  · rename_i kind
    simp only [readCopy] at read
    split at read
    · cases read
    · rename_i digits after split
      split at read
      · rename_i within
        split at read
        · cases read
          obtain ⟨spelled, fits⟩ := split_bytes_eq_digits split
          exact ⟨_, _, spelled, written_copy tag _ kind fits, dif_pos within⟩
        · cases read
      · cases read

theorem read_elements_eq_ok {declared : Nat} {source : Bytes} {out final : Array UInt8}
    (read : readElements declared source out = .ok final) :
    final.size = declared ∧
      ∃ elements, Element.Spelled elements source ∧ Element.appendAll? out elements = some final := by
  fun_induction readElements declared source out with
  | case1 out size =>
      cases read
      exact ⟨size, [], .nil, rfl⟩
  | case2 => cases read
  | case3 => cases read
  | case4 out tag source grown rest first ih =>
      obtain ⟨size, elements, later, appended⟩ := ih read
      obtain ⟨element, form, rfl, written, added⟩ := read_element_eq_ok first
      refine ⟨size, element :: elements, .cons element (tag :: form) elements rest written later, ?_⟩
      simp only [Element.appendAll?, added, Option.bind_some]
      exact appended

theorem decode_eq_ok {payload raw : Bytes} (decoded : decode payload = .ok raw) :
    ∃ (header spelling : Bytes) (elements : List Element) (text : Array UInt8),
      payload = header ++ spelling ∧ header.length ≤ lengthRoom ∧
      WrittenLength text.size header ∧ text.size ≤ longest ∧ Element.Spelled elements spelling ∧
      Element.appendAll? #[] elements = some text ∧ raw = text.toList := by
  simp only [decode] at decoded
  split at decoded
  · cases decoded
  · split at decoded
    · cases decoded
    · rename_i declared source length
      split at decoded
      · rename_i bound
        cases read : readElements declared source #[] with
        | error error =>
            rw [read] at decoded
            cases decoded
        | ok text =>
            rw [read] at decoded
            cases decoded
            obtain ⟨rfl, elements, spelled, appended⟩ := read_elements_eq_ok read
            obtain ⟨header, whole, short, written⟩ := read_varint_eq_some length
            exact ⟨header, source, elements, text, whole, short, written, bound, spelled, appended,
              rfl⟩
      · cases decoded

theorem decode_eq_ok_iff (payload out : Bytes) :
    decode payload = .ok out ↔
      out.length ≤ longest ∧ ∃ header spelling elements,
        payload = header ++ spelling ∧ header.length ≤ 5 ∧ WrittenLength out.length header ∧
        Element.Spelled elements spelling ∧ Element.Expands [] elements out := by
  constructor
  · intro decoded
    obtain ⟨header, spelling, elements, text, rfl, short, length, bound, spelled, appended, rfl⟩ :=
      decode_eq_ok decoded
    exact ⟨bound, header, spelling, elements, rfl, short, length, spelled,
      Element.expands_of_append_all elements #[] text appended⟩
  · rintro ⟨bound, header, spelling, elements, rfl, short, length, spelled, expands⟩
    obtain ⟨text, appended, rfl⟩ := Element.append_all_of_expands elements #[] out expands
    have read := decode_spelled header spelling elements text length short bound spelled appended []
    rwa [List.append_nil, read_elements_nil] at read

theorem read_element_full (declared tag : Nat) (source : Bytes) (out : Array UInt8)
    (used : out.size = declared) :
    ∃ error, readElement declared tag source out = .error error := by
  have room : declared - out.size = 0 := by omega
  simp only [readElement]
  split
  · simp only [readLiteral, room]
    split
    · exact ⟨_, rfl⟩
    · rename_i length middle found
      have positive : 0 < length := by
        split at found
        · cases found
          exact Nat.succ_pos _
        · obtain ⟨pair, digits, same⟩ := Option.map_eq_some_iff.mp found
          cases same
          exact Nat.succ_pos _
      rw [if_neg (Nat.not_le.mpr positive)]
      exact ⟨_, rfl⟩
  · have positive : 0 < copyLength tag := by
      rw [copyLength]
      split <;> omega
    simp only [readCopy, room]
    split
    · exact ⟨_, rfl⟩
    · split
      · rw [if_neg (Nat.not_le.mpr positive)]
        exact ⟨_, rfl⟩
      · exact ⟨_, rfl⟩

theorem read_elements_full (suffix : Bytes) (out : Array UInt8) (filled : suffix ≠ []) :
    ∃ error, readElements out.size suffix out = .error error := by
  obtain ⟨tag, source, rfl⟩ := List.exists_cons_of_ne_nil filled
  obtain ⟨error, failed⟩ := read_element_full out.size tag.toNat source out rfl
  refine ⟨error, ?_⟩
  rw [readElements]
  split
  · rename_i found
    cases found.symm.trans failed
    rfl
  · rename_i other
    cases other.symm.trans failed

theorem decode_append {payload raw suffix : Bytes} (decoded : decode payload = .ok raw)
    (filled : suffix ≠ []) : ∃ error, decode (payload ++ suffix) = .error error := by
  obtain ⟨header, spelling, elements, text, rfl, short, length, bound, spelled, appended, rfl⟩ :=
    decode_eq_ok decoded
  obtain ⟨error, failed⟩ := read_elements_full suffix text filled
  refine ⟨error, ?_⟩
  rw [List.append_assoc, decode_spelled header spelling elements text length short bound spelled
    appended suffix, failed]
  rfl

end TaggedBlock.Snappy
