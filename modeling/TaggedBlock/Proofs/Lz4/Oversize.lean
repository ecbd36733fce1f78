import TaggedBlock.Proofs.Lz4

set_option autoImplicit false

namespace TaggedBlock.Lz4

theorem read_fresh_overfull (capacity : Nat) (fresh rest : Bytes) (out : Array UInt8)
    (past : capacity < out.size + fresh.length) :
    readFresh capacity (min full fresh.length) (lengthTail fresh.length ++ (fresh ++ rest)) out =
      .error (.outputTooSmall capacity (out.size + fresh.length)) := by
  simp only [readFresh, read_length_length_tail, split_bytes_append fresh rest rfl,
    if_neg (Nat.not_le.mpr past)]

theorem read_copy_overfull (capacity distance length : Nat) (rest : Bytes) (out : Array UInt8)
    (positive : 0 < distance) (reach : distance ≤ farthest) (long : shortestCopy ≤ length)
    (past : capacity < out.size + length) :
    readCopy capacity (min full (length - shortestCopy))
        (littleEndianDigits 2 distance ++ (lengthTail (length - shortestCopy) ++ rest)) out =
      .error (.outputTooSmall capacity (out.size + length)) := by
  have number : littleEndian (littleEndianDigits 2 distance) = distance :=
    little_endian_little_endian_digits 2 distance (Nat.lt_succ_of_le reach)
  have size : shortestCopy + (length - shortestCopy) = length := Nat.add_sub_cancel' long
  simp only [readCopy, split_bytes_digits, number, read_length_length_tail, size,
    if_neg (Nat.not_le.mpr past), if_neg (Nat.ne_of_gt positive)]

theorem read_sequences_tail_overfull (capacity : Nat) (tail : Bytes) (out : Array UInt8)
    (past : capacity < out.size + tail.length) :
    readSequences capacity (renderTail tail) out =
      .error (.outputTooSmall capacity (out.size + tail.length)) := by
  have failed := read_fresh_overfull capacity tail [] out past
  rw [List.append_nil, ← (token_halves tail.length 0).1] at failed
  exact read_sequences_of_fresh_error failed

theorem read_sequences_phrase_overfull (capacity : Nat) (phrase : Phrase) (rest : Bytes)
    (out grown : Array UInt8) (expanded : phrase.expand? out = some grown)
    (reach : phrase.distance ≤ farthest) (long : shortestCopy ≤ phrase.length)
    (past : capacity < grown.size) :
    ∃ needed, capacity < needed ∧ needed ≤ grown.size ∧
      readSequences capacity (renderPhrase phrase ++ rest) out =
        .error (.outputTooSmall capacity needed) := by
  simp only [Phrase.expand?] at expanded
  split at expanded
  · rename_i within
    cases expanded
    rw [size_copy_back] at past ⊢
    obtain ⟨high, low⟩ := token_halves phrase.fresh.length (phrase.length - shortestCopy)
    have size := size_append out phrase.fresh
    rw [render_phrase_append]
    by_cases room : out.size + phrase.fresh.length ≤ capacity
    · refine ⟨(out ++ phrase.fresh).size + phrase.length, past, Nat.le_refl _, ?_⟩
      have fresh := read_fresh_written capacity phrase.fresh
        (littleEndianDigits 2 phrase.distance ++
          (lengthTail (phrase.length - shortestCopy) ++ rest)) out room
      have failed := read_copy_overfull capacity phrase.distance phrase.length rest
        (out ++ phrase.fresh) within.1 reach long past
      rw [← high] at fresh
      rw [← low] at failed
      exact read_sequences_of_copy_error (by simp [littleEndianDigits]) fresh failed
    · refine ⟨out.size + phrase.fresh.length, Nat.lt_of_not_le room, by omega, ?_⟩
      have failed := read_fresh_overfull capacity phrase.fresh
        (littleEndianDigits 2 phrase.distance ++
          (lengthTail (phrase.length - shortestCopy) ++ rest)) out (Nat.lt_of_not_le room)
      rw [← high] at failed
      exact read_sequences_of_fresh_error failed
  · cases expanded

theorem read_sequences_overfull (capacity : Nat) (phrases : List Phrase) (tail : Bytes)
    (out grown : Array UInt8) (expanded : Phrasing.expandAll? out phrases = some grown)
    (bounded : Phrasing.Bounded farthest phrases) (past : capacity < (grown ++ tail).size) :
    ∃ needed, capacity < needed ∧ needed ≤ (grown ++ tail).size ∧
      readSequences capacity (phrases.flatMap renderPhrase ++ renderTail tail) out =
        .error (.outputTooSmall capacity needed) := by
  induction phrases generalizing out with
  | nil =>
      cases expanded
      rw [size_append] at past ⊢
      exact ⟨_, past, Nat.le_refl _, read_sequences_tail_overfull capacity tail grown past⟩
  | cons phrase phrases ih =>
      obtain ⟨middle, first, later⟩ := Option.bind_eq_some_iff.mp expanded
      obtain ⟨reach, long⟩ := bounded phrase (List.mem_cons_self ..)
      have bounds := fun other member => bounded other (List.mem_cons_of_mem phrase member)
      have below := Phrasing.size_expand_all phrases middle grown later
      have size := size_append grown tail
      rw [List.flatMap_cons, List.append_assoc]
      by_cases room : middle.size ≤ capacity
      · rw [read_sequences_phrase capacity phrase _ out middle first reach long room]
        exact ih middle later bounds
      · obtain ⟨needed, more, inside, failed⟩ := read_sequences_phrase_overfull capacity phrase
          (phrases.flatMap renderPhrase ++ renderTail tail) out middle first reach long
          (Nat.lt_of_not_le room)
        exact ⟨needed, more, by omega, failed⟩

-- The size of a text that is too long is what is left of its length, and the text outgrows that.
theorem decode_encode_oversize (raw : Bytes) (long : 4294967296 ≤ raw.length) :
    ∃ needed, raw.length % 4294967296 < needed ∧ needed ≤ raw.length ∧
      decode (encode raw) = .error (.outputTooSmall (raw.length % 4294967296) needed) := by
  obtain ⟨expanded, bounded⟩ := Phrasing.expand_of_bytes farthest raw
  obtain ⟨grown, phrases, whole⟩ := Option.map_eq_some_iff.mp expanded
  have size : (grown ++ (Phrasing.ofBytes farthest raw).tail).size = raw.length := by
    rw [whole, List.size_toArray]
  have declared : littleEndian (littleEndianDigits 4 raw.length) = raw.length % 4294967296 :=
    little_endian_little_endian_digits_mod 4 raw.length
  have less : raw.length % 4294967296 < raw.length :=
    Nat.lt_of_lt_of_le (Nat.mod_lt _ (by decide)) long
  rw [← size] at less
  obtain ⟨needed, more, inside, failed⟩ :=
    read_sequences_overfull _ _ _ #[] grown phrases bounded less
  rw [size] at more inside failed
  refine ⟨needed, more, inside, ?_⟩
  simp only [decode, encode, split_bytes_digits, declared, render, failed]

theorem encode_replicate (count : Nat) (byte : UInt8) (long : 13 ≤ count) :
    encode (List.replicate count byte) =
      littleEndianDigits 4 count ++
        (renderPhrase ⟨[byte], 1, count - 6⟩ ++ renderTail (List.replicate 5 byte)) := by
  rw [encode, List.length_replicate, Phrasing.of_bytes_replicate farthest count byte (by decide) long,
    render, List.flatMap_singleton]

theorem encode_zeros :
    encode (List.replicate 4294967296 0) =
      [0, 0, 0, 0, 0x1f, 0, 1, 0] ++
        (List.replicate 16843008 255 ++ [0xe7, 0x50, 0, 0, 0, 0, 0]) := by
  have size : littleEndianDigits 4 4294967296 = [0, 0, 0, 0] := rfl
  have phrase : renderPhrase ⟨[0], 1, 4294967296 - 6⟩ =
      [0x1f, 0, 1, 0] ++ lengthTail 4294967286 := rfl
  have copied : lengthTail 4294967286 = List.replicate 16843008 255 ++ [0xe7] := by
    rw [lengthTail, if_neg (by decide), extension]
    rfl
  have tail : renderTail (List.replicate 5 0) = [0x50, 0, 0, 0, 0, 0] := rfl
  rw [encode_replicate 4294967296 0 (by decide), size, phrase, copied, tail, List.append_assoc,
    List.append_assoc]
  rfl

theorem decode_zeros (rest : Bytes) :
    decode ([0, 0, 0, 0, 0x1f, 0, 1, 0] ++ rest) = .error (.outputTooSmall 0 1) := by
  have failed : readSequences 0 (0x1f :: 0 :: 1 :: 0 :: rest) #[] =
      .error (.outputTooSmall 0 1) := read_sequences_of_fresh_error rfl
  have split : splitBytes? 4 ([0, 0, 0, 0, 0x1f, 0, 1, 0] ++ rest) =
      some ([0, 0, 0, 0], 0x1f :: 0 :: 1 :: 0 :: rest) := rfl
  have none : littleEndian [0, 0, 0, 0] = 0 := rfl
  simp only [decode, split, none, failed]

end TaggedBlock.Lz4
