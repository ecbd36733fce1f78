import TaggedBlock.Proofs.Lz4

set_option autoImplicit false

namespace TaggedBlock.Lz4

theorem extension_full (excess : Nat) : extension (255 + excess) = 255 :: extension excess := by
  have quotient : (255 + excess) / 255 = excess / 255 + 1 := by omega
  have remainder : (255 + excess) % 255 = excess % 255 := by omega
  rw [extension, quotient, remainder, List.replicate_succ, List.cons_append, ← extension]

theorem extension_small (byte : UInt8) (small : byte ≠ 255) : extension byte.toNat = [byte] := by
  have bound : byte.toNat < 256 := byte.toNat_lt
  have other : byte.toNat ≠ 255 := fun same => small (UInt8.toNat_inj.mp same)
  have quotient : byte.toNat / 255 = 0 := by omega
  have remainder : byte.toNat % 255 = byte.toNat := by omega
  rw [extension, quotient, remainder, UInt8.ofNat_toNat]
  rfl

theorem read_extension_eq_some {source rest : Bytes} {excess : Nat}
    (read : readExtension? source = some (excess, rest)) : source = extension excess ++ rest := by
  induction source generalizing excess with
  | nil => cases read
  | cons byte source ih =>
      simp only [readExtension?] at read
      split at read
      · rename_i goesOn
        obtain ⟨⟨lower, tail⟩, inner, same⟩ := Option.map_eq_some_iff.mp read
        cases same
        rw [goesOn, extension_full, ih inner, List.cons_append]
      · rename_i ends
        cases read
        rw [extension_small byte ends, List.singleton_append]

theorem read_length_eq_some {half length : Nat} {source rest : Bytes} (within : half ≤ full)
    (read : readLength? half source = some (length, rest)) :
    half = min full length ∧ source = lengthTail length ++ rest := by
  simp only [readLength?] at read
  split at read
  · rename_i same
    obtain ⟨⟨excess, tail⟩, inner, pair⟩ := Option.map_eq_some_iff.mp read
    cases pair
    rw [lengthTail, if_neg (Nat.not_lt.mpr (Nat.le_add_right full excess)),
      Nat.add_sub_cancel_left, Nat.min_eq_left (Nat.le_add_right full excess)]
    exact ⟨same, read_extension_eq_some inner⟩
  · rename_i other
    cases read
    have small : half < full := Nat.lt_of_le_of_ne within other
    rw [lengthTail, if_pos small, Nat.min_eq_right within]
    exact ⟨rfl, rfl⟩

theorem read_fresh_eq_ok {capacity half : Nat} {source rest : Bytes} {out grown : Array UInt8}
    (within : half ≤ full) (read : readFresh capacity half source out = .ok (grown, rest)) :
    ∃ fresh, half = min full fresh.length ∧ source = lengthTail fresh.length ++ (fresh ++ rest) ∧
      grown = out ++ fresh := by
  simp only [readFresh] at read
  split at read
  · cases read
  · rename_i length
    split at read
    · cases read
    · rename_i fresh after split
      split at read
      · cases read
        obtain ⟨same, spelled⟩ := read_length_eq_some within length
        obtain ⟨rfl, rfl⟩ := split_bytes_eq_some split
        exact ⟨_, same, spelled, rfl⟩
      · cases read

theorem read_copy_eq_ok {capacity half : Nat} {source rest : Bytes} {out grown : Array UInt8}
    (within : half ≤ full) (read : readCopy capacity half source out = .ok (grown, rest)) :
    ∃ distance length, half = min full (length - shortestCopy) ∧
      source = littleEndianDigits 2 distance ++ (lengthTail (length - shortestCopy) ++ rest) ∧
      distance ≤ farthest ∧ shortestCopy ≤ length ∧
      ∃ inside : 0 < distance ∧ distance ≤ out.size, grown = copyBack out distance length inside := by
  simp only [readCopy] at read
  split at read
  · cases read
  · rename_i digits middle split
    split at read
    · cases read
    · split at read
      · cases read
      · rename_i beyond after length
        split at read
        · split at read
          · rename_i inside
            cases read
            obtain ⟨same, spelled⟩ := read_length_eq_some within length
            obtain ⟨whole, reach⟩ := split_bytes_eq_digits split
            refine ⟨littleEndian digits, shortestCopy + beyond, ?_, ?_, Nat.le_of_lt_succ reach,
              Nat.le_add_right _ _, inside, rfl⟩
            · rw [Nat.add_sub_cancel_left]
              exact same
            · rw [Nat.add_sub_cancel_left, ← spelled]
              exact whole
          · cases read
        · cases read

theorem token_of_halves (token : UInt8) (fresh copied : Nat)
    (high : token.toNat / 16 = min full fresh) (low : token.toNat % 16 = min full copied) :
    token = Lz4.token fresh copied := by
  rw [Lz4.token, ← high, ← low, Nat.div_add_mod, UInt8.ofNat_toNat]

theorem closing_token_of_high (token : UInt8) (tail : Bytes)
    (high : token.toNat / 16 = min full tail.length) :
    token = closingToken (token.toNat % 16) tail := by
  rw [closingToken, ← high, Nat.div_add_mod, UInt8.ofNat_toNat]

theorem read_sequences_eq_ok {capacity : Nat} {source : Bytes} {out final : Array UInt8}
    (read : readSequences capacity source out = .ok final) :
    ∃ phrases nibble tail grown,
      source = phrases.flatMap renderPhrase ++ renderClosing nibble tail ∧ nibble < 16 ∧
      Phrasing.Bounded farthest phrases ∧ Phrasing.expandAll? out phrases = some grown ∧
      final = grown ++ tail := by
  fun_induction readSequences capacity source out with
  | case1 => cases read
  | case2 => cases read
  | case3 out token source grown fresh =>
      cases read
      have bound : token.toNat < 256 := token.toNat_lt
      obtain ⟨tail, high, spelled, same⟩ := read_fresh_eq_ok
        (by rw [full]; omega : token.toNat / 16 ≤ full) fresh
      rw [List.append_nil] at spelled
      refine ⟨[], token.toNat % 16, tail, out, ?_, Nat.mod_lt _ (by decide), ?_, rfl, same⟩
      · rw [spelled, List.flatMap_nil, List.nil_append, renderClosing,
          ← closing_token_of_high token tail high]
      · intro phrase member
        cases member
  | case4 => cases read
  | case5 out token source grown middle filled fresh next rest copied ih =>
      have bound : token.toNat < 256 := token.toNat_lt
      obtain ⟨bytes, high, spelled, same⟩ := read_fresh_eq_ok
        (by rw [full]; omega : token.toNat / 16 ≤ full) fresh
      obtain ⟨distance, length, low, behind, reach, long, inside, made⟩ := read_copy_eq_ok
        (by rw [full]; omega : token.toNat % 16 ≤ full) copied
      obtain ⟨phrases, nibble, tail, last, written, half, bounded, expanded, whole⟩ := ih read
      subst same made
      refine ⟨⟨bytes, distance, length⟩ :: phrases, nibble, tail, last, ?_, half, ?_, ?_, whole⟩
      · rw [List.flatMap_cons, renderPhrase, spelled, behind, written,
          token_of_halves token _ _ high low]
        simp only [List.cons_append, List.append_assoc]
      · intro phrase member
        rcases List.mem_cons.mp member with rfl | other
        · exact ⟨reach, long⟩
        · exact bounded phrase other
      · simp only [Phrasing.expandAll?, Phrase.expand?]
        rw [dif_pos inside]
        exact expanded

theorem decode_eq_ok {payload raw : Bytes} (decoded : decode payload = .ok raw) :
    ∃ (phrases : List Phrase) (nibble : Nat) (tail : Bytes) (grown : Array UInt8),
      payload = littleEndianDigits 4 (grown ++ tail).size ++
        (phrases.flatMap renderPhrase ++ renderClosing nibble tail) ∧
      (grown ++ tail).size < 4294967296 ∧ nibble < 16 ∧ Phrasing.Bounded farthest phrases ∧
      Phrasing.expandAll? #[] phrases = some grown ∧ raw = (grown ++ tail).toList := by
  simp only [decode] at decoded
  split at decoded
  · cases decoded
  · rename_i digits source split
    split at decoded
    · cases decoded
    · rename_i final read
      split at decoded
      · rename_i size
        cases decoded
        obtain ⟨whole, bound⟩ := split_bytes_eq_digits split
        obtain ⟨phrases, nibble, tail, grown, written, half, bounded, expanded, rfl⟩ :=
          read_sequences_eq_ok read
        rw [written, ← size] at whole
        rw [← size] at bound
        exact ⟨phrases, nibble, tail, grown, whole, bound, half, bounded, expanded, rfl⟩
      · cases decoded

theorem decode_eq_ok_iff (payload out : Bytes) :
    decode payload = .ok out ↔
      out.length < 4294967296 ∧ ∃ phrases nibble tail spelled,
        payload = littleEndianDigits 4 out.length ++
          (phrases.flatMap renderPhrase ++ renderClosing nibble tail) ∧
        nibble < 16 ∧ Phrasing.Bounded farthest phrases ∧
        Phrasing.Expands [] phrases spelled ∧ out = spelled ++ tail := by
  constructor
  · intro decoded
    obtain ⟨phrases, nibble, tail, grown, written, fits, half, bounded, expanded, rfl⟩ :=
      decode_eq_ok decoded
    have expands := (Phrasing.expands_iff #[] phrases grown.toList).mpr ⟨grown, expanded, rfl⟩
    exact ⟨fits, phrases, nibble, tail, grown.toList, written, half, bounded, expands,
      Array.toList_appendList⟩
  · rintro ⟨fits, phrases, nibble, tail, spelled, rfl, half, bounded, expands, rfl⟩
    obtain ⟨grown, expanded, rfl⟩ := (Phrasing.expands_iff #[] phrases spelled).mp expands
    have whole : (grown ++ tail).toList = grown.toList ++ tail := Array.toList_appendList
    have size : (grown ++ tail).size = (grown.toList ++ tail).length := by
      rw [← whole, Array.length_toList]
    have read := decode_rendered phrases nibble tail grown expanded bounded half
      (by rw [size]; exact fits)
    rwa [whole, size] at read

theorem decode_overlapping : decode [5, 0, 0, 0, 0x10, 7, 1, 0, 0x0f] = .ok [7, 7, 7, 7, 7] := by
  refine decode_rendered [⟨[7], 1, 4⟩] 15 [] #[7, 7, 7, 7, 7] rfl ?_ (by decide) (by decide)
  intro phrase member
  obtain rfl := List.mem_singleton.mp member
  exact ⟨by decide, by decide⟩

theorem read_copy_full (capacity half : Nat) (source : Bytes) (out : Array UInt8)
    (used : out.size = capacity) : ∃ error, readCopy capacity half source out = .error error := by
  simp only [readCopy]
  split
  · exact ⟨_, rfl⟩
  · split
    · exact ⟨_, rfl⟩
    · split
      · exact ⟨_, rfl⟩
      · rename_i beyond rest length
        rw [if_neg (by rw [shortestCopy]; omega)]
        exact ⟨_, rfl⟩

theorem read_sequences_closing_append {capacity nibble : Nat} {tail suffix : Bytes}
    {out : Array UInt8} (half : nibble < 16) (used : out.size + tail.length = capacity)
    (filled : suffix ≠ []) :
    ∃ error, readSequences capacity (renderClosing nibble tail ++ suffix) out = .error error := by
  have fresh := read_fresh_closing capacity nibble tail suffix out half (Nat.le_of_eq used)
  obtain ⟨error, failed⟩ := read_copy_full capacity ((closingToken nibble tail).toNat % 16) suffix
    (out ++ tail) ((size_append out tail).trans used)
  refine ⟨error, ?_⟩
  rw [renderClosing, List.cons_append, List.append_assoc]
  exact read_sequences_of_copy_error filled fresh failed

theorem decode_append {payload raw suffix : Bytes} (decoded : decode payload = .ok raw)
    (filled : suffix ≠ []) : ∃ error, decode (payload ++ suffix) = .error error := by
  obtain ⟨phrases, nibble, tail, grown, rfl, fits, half, bounded, expanded, rfl⟩ :=
    decode_eq_ok decoded
  have used := size_append grown tail
  have phrased := read_sequences_phrases (grown ++ tail).size phrases
    (renderClosing nibble tail ++ suffix) #[] grown expanded bounded (Nat.le.intro used.symm)
  obtain ⟨error, failed⟩ := read_sequences_closing_append half used.symm filled
  refine ⟨error, ?_⟩
  rw [List.append_assoc, List.append_assoc, decode, split_bytes_digits]
  simp only [little_endian_little_endian_digits 4 _ fits, phrased, failed]

end TaggedBlock.Lz4
