import TaggedBlock.Lz4
import TaggedBlock.Proofs.Phrasing

set_option autoImplicit false

namespace TaggedBlock.Lz4

theorem read_extension_extension (excess : Nat) (rest : Bytes) :
    readExtension? (extension excess ++ rest) = some (excess, rest) := by
  have last : (UInt8.ofNat (excess % 255)).toNat = excess % 255 := to_nat_of_nat _ (by omega)
  have ends : ¬ UInt8.ofNat (excess % 255) = 255 := by
    intro same
    rw [same] at last
    have byte : (255 : UInt8).toNat = 255 := rfl
    omega
  have run : ∀ count, readExtension?
      (List.replicate count 255 ++ (UInt8.ofNat (excess % 255) :: rest)) =
        some (255 * count + excess % 255, rest) := by
    intro count
    induction count with
    | zero => simp only [List.replicate_zero, List.nil_append, readExtension?, if_neg ends, last,
        Nat.mul_zero, Nat.zero_add]
    | succ count ih =>
        simp only [List.replicate_succ, List.cons_append, readExtension?, if_true, ih,
          Option.map_some]
        rw [Nat.mul_succ, show 255 + (255 * count + excess % 255) =
          255 * count + 255 + excess % 255 by omega]
  rw [extension, List.append_assoc, List.singleton_append, run, Nat.div_add_mod]

theorem read_length_length_tail (length : Nat) (rest : Bytes) :
    readLength? (min full length) (lengthTail length ++ rest) = some (length, rest) := by
  by_cases small : length < full
  · rw [lengthTail, if_pos small, readLength?, Nat.min_eq_right (Nat.le_of_lt small),
      if_neg (Nat.ne_of_lt small), List.nil_append]
  · have large := Nat.le_of_not_lt small
    rw [lengthTail, if_neg small, readLength?, Nat.min_eq_left large, if_pos rfl,
      read_extension_extension, Option.map_some]
    simp only [Nat.add_sub_cancel' large]

theorem token_halves (fresh copied : Nat) :
    (token fresh copied).toNat / 16 = min full fresh ∧
      (token fresh copied).toNat % 16 = min full copied := by
  have low : min full fresh ≤ 15 := Nat.min_le_left _ _
  have high : min full copied ≤ 15 := Nat.min_le_left _ _
  rw [token, to_nat_of_nat _ (by omega)]
  omega

theorem read_fresh_written (capacity : Nat) (fresh rest : Bytes) (out : Array UInt8)
    (room : out.size + fresh.length ≤ capacity) :
    readFresh capacity (min full fresh.length) (lengthTail fresh.length ++ (fresh ++ rest)) out =
      .ok (out ++ fresh, rest) := by
  simp only [readFresh, read_length_length_tail, split_bytes_append fresh rest rfl, if_pos room]

theorem read_copy_written (capacity distance length : Nat) (rest : Bytes) (out : Array UInt8)
    (within : 0 < distance ∧ distance ≤ out.size) (reach : distance ≤ farthest)
    (long : shortestCopy ≤ length) (room : out.size + length ≤ capacity) :
    readCopy capacity (min full (length - shortestCopy))
        (littleEndianDigits 2 distance ++ (lengthTail (length - shortestCopy) ++ rest)) out =
      .ok (copyBack out distance length within, rest) := by
  have number : littleEndian (littleEndianDigits 2 distance) = distance :=
    little_endian_little_endian_digits 2 distance (Nat.lt_succ_of_le reach)
  have size : shortestCopy + (length - shortestCopy) = length := Nat.add_sub_cancel' long
  simp only [readCopy, split_bytes_digits, number, read_length_length_tail, size, if_pos room,
    dif_pos within, if_neg (Nat.ne_of_gt within.1)]

theorem read_sequences_eq (capacity : Nat) (token : UInt8) (source : Bytes) (out : Array UInt8) :
    readSequences capacity (token :: source) out =
      match readFresh capacity (token.toNat / 16) source out with
      | .error error => .error error
      | .ok (grown, []) => .ok grown
      | .ok (grown, middle) =>
        match readCopy capacity (token.toNat % 16) middle grown with
        | .error error => .error error
        | .ok (grown, rest) => readSequences capacity rest grown := by
  rw [readSequences]
  split
  · rename_i found
    rw [found]
  · rename_i found
    rw [found]
  · rename_i grown middle filled found
    rw [found]
    cases middle with
    | nil => exact absurd rfl filled
    | cons byte middle =>
        split
        · rename_i failed
          simp only [failed]
        · rename_i copied
          simp only [copied]

theorem read_sequences_last (capacity : Nat) (token : UInt8) (source : Bytes)
    (out grown : Array UInt8)
    (read : readFresh capacity (token.toNat / 16) source out = .ok (grown, [])) :
    readSequences capacity (token :: source) out = .ok grown := by
  rw [read_sequences_eq, read]

theorem read_sequences_cons (capacity : Nat) (token : UInt8) (source middle rest : Bytes)
    (out grown final : Array UInt8) (filled : middle ≠ [])
    (fresh : readFresh capacity (token.toNat / 16) source out = .ok (grown, middle))
    (copied : readCopy capacity (token.toNat % 16) middle grown = .ok (final, rest)) :
    readSequences capacity (token :: source) out = readSequences capacity rest final := by
  rw [read_sequences_eq, fresh]
  cases middle with
  | nil => exact absurd rfl filled
  | cons byte middle => simp only [copied]

theorem read_sequences_of_fresh_error {capacity : Nat} {token : UInt8} {source : Bytes}
    {out : Array UInt8} {error : Error}
    (failed : readFresh capacity (token.toNat / 16) source out = .error error) :
    readSequences capacity (token :: source) out = .error error := by
  rw [read_sequences_eq, failed]

theorem read_sequences_of_copy_error {capacity : Nat} {token : UInt8} {source middle : Bytes}
    {out grown : Array UInt8} {error : Error} (filled : middle ≠ [])
    (fresh : readFresh capacity (token.toNat / 16) source out = .ok (grown, middle))
    (failed : readCopy capacity (token.toNat % 16) middle grown = .error error) :
    readSequences capacity (token :: source) out = .error error := by
  rw [read_sequences_eq, fresh]
  cases middle with
  | nil => exact absurd rfl filled
  | cons byte middle => simp only [failed]

theorem render_phrase_append (phrase : Phrase) (rest : Bytes) :
    renderPhrase phrase ++ rest =
      token phrase.fresh.length (phrase.length - shortestCopy) ::
        (lengthTail phrase.fresh.length ++ (phrase.fresh ++
          (littleEndianDigits 2 phrase.distance ++
            (lengthTail (phrase.length - shortestCopy) ++ rest)))) := by
  simp only [renderPhrase, List.cons_append, List.append_assoc]

theorem read_sequences_phrase (capacity : Nat) (phrase : Phrase) (rest : Bytes)
    (out grown : Array UInt8) (expanded : phrase.expand? out = some grown)
    (reach : phrase.distance ≤ farthest) (long : shortestCopy ≤ phrase.length)
    (room : grown.size ≤ capacity) :
    readSequences capacity (renderPhrase phrase ++ rest) out = readSequences capacity rest grown := by
  simp only [Phrase.expand?] at expanded
  split at expanded
  · rename_i within
    cases expanded
    rw [size_copy_back, size_append] at room
    obtain ⟨high, low⟩ := token_halves phrase.fresh.length (phrase.length - shortestCopy)
    have fresh := read_fresh_written capacity phrase.fresh
      (littleEndianDigits 2 phrase.distance ++
        (lengthTail (phrase.length - shortestCopy) ++ rest)) out (by omega)
    have copied := read_copy_written capacity phrase.distance phrase.length rest
      (out ++ phrase.fresh) within reach long (by rw [size_append]; exact room)
    rw [← high] at fresh
    rw [← low] at copied
    rw [render_phrase_append]
    exact read_sequences_cons capacity _ _ _ _ _ _ _ (by simp [littleEndianDigits]) fresh copied
  · cases expanded

theorem read_sequences_phrases (capacity : Nat) (phrases : List Phrase) (rest : Bytes)
    (out grown : Array UInt8) (expanded : Phrasing.expandAll? out phrases = some grown)
    (bounded : Phrasing.Bounded farthest phrases) (room : grown.size ≤ capacity) :
    readSequences capacity (phrases.flatMap renderPhrase ++ rest) out =
      readSequences capacity rest grown := by
  induction phrases generalizing out with
  | nil =>
      cases expanded
      rfl
  | cons phrase phrases ih =>
      obtain ⟨middle, first, later⟩ := Option.bind_eq_some_iff.mp expanded
      obtain ⟨reach, long⟩ := bounded phrase (List.mem_cons_self ..)
      have below := Phrasing.size_expand_all phrases middle grown later
      rw [List.flatMap_cons, List.append_assoc,
        read_sequences_phrase _ phrase _ out middle first reach long (Nat.le_trans below room)]
      exact ih middle later fun other member => bounded other (List.mem_cons_of_mem _ member)

def closingToken (nibble : Nat) (tail : Bytes) : UInt8 :=
  UInt8.ofNat (16 * min full tail.length + nibble)

def renderClosing (nibble : Nat) (tail : Bytes) : Bytes :=
  closingToken nibble tail :: (lengthTail tail.length ++ tail)

theorem read_fresh_closing (capacity nibble : Nat) (tail rest : Bytes) (out : Array UInt8)
    (half : nibble < 16) (room : out.size + tail.length ≤ capacity) :
    readFresh capacity ((closingToken nibble tail).toNat / 16)
        (lengthTail tail.length ++ (tail ++ rest)) out = .ok (out ++ tail, rest) := by
  have low : min full tail.length ≤ 15 := Nat.min_le_left _ _
  have high : (closingToken nibble tail).toNat / 16 = min full tail.length := by
    rw [closingToken, to_nat_of_nat _ (by omega)]
    omega
  rw [high]
  exact read_fresh_written capacity tail rest out room

theorem read_sequences_closing (capacity nibble : Nat) (tail : Bytes) (out : Array UInt8)
    (half : nibble < 16) (room : out.size + tail.length ≤ capacity) :
    readSequences capacity (renderClosing nibble tail) out = .ok (out ++ tail) := by
  have read := read_fresh_closing capacity nibble tail [] out half room
  rw [List.append_nil] at read
  exact read_sequences_last _ _ _ _ _ read

theorem decode_rendered (phrases : List Phrase) (nibble : Nat) (tail : Bytes)
    (grown : Array UInt8) (expanded : Phrasing.expandAll? #[] phrases = some grown)
    (bounded : Phrasing.Bounded farthest phrases) (half : nibble < 16)
    (fits : (grown ++ tail).size < 4294967296) :
    decode (littleEndianDigits 4 (grown ++ tail).size ++
        (phrases.flatMap renderPhrase ++ renderClosing nibble tail)) =
      .ok (grown ++ tail).toList := by
  have size := size_append grown tail
  have phrased := read_sequences_phrases (grown ++ tail).size phrases (renderClosing nibble tail)
    #[] grown expanded bounded (by omega)
  rw [read_sequences_closing _ nibble tail grown half (Nat.le_of_eq size.symm)] at phrased
  simp only [decode, split_bytes_digits, little_endian_little_endian_digits 4 _ fits, phrased, if_true]

theorem decode_encode (raw : Bytes) (fits : raw.length < 4294967296) :
    decode (encode raw) = .ok raw := by
  obtain ⟨expanded, bounded⟩ := Phrasing.expand_of_bytes farthest raw
  obtain ⟨grown, phrases, whole⟩ := Option.map_eq_some_iff.mp expanded
  have size : (grown ++ (Phrasing.ofBytes farthest raw).tail).size = raw.length := by
    rw [whole, List.size_toArray]
  have read := decode_rendered _ 0 _ grown phrases bounded (by decide) (by rw [size]; exact fits)
  rw [size, whole] at read
  exact read

end TaggedBlock.Lz4
