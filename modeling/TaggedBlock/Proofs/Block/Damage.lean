import TaggedBlock.Proofs.Block

set_option autoImplicit false

namespace TaggedBlock.Registry

theorem unwrap_zstd_cut (level readerLevel : Int32) (quality readerQuality : UInt32) :
    (∀ payload content later rest,
      Zstd.readFrame .start (.start payload) = .ok (content, later, rest) → rest.bytes = [] →
      ∀ cut, 1 ≤ cut → cut < (Algorithm.zstd.id :: payload).length →
        ∃ source, (tuned readerLevel readerQuality).unwrap
            ((Algorithm.zstd.id :: payload).take cut) = .error (.corruptPayload .zstd source)) ∧
    ∀ raw, ∃ block, (tuned level quality).wrap .zstd raw = .ok block ∧
      (tuned readerLevel readerQuality).unwrap block = .ok raw ∧
      ∀ cut, 1 ≤ cut → cut < block.length →
        (tuned readerLevel readerQuality).unwrap (block.take cut) =
          .error (.corruptPayload .zstd ⟨.decompression, "zstd",
            if cut = 1 then "empty payload" else "incomplete frame"⟩) := by
  have slot : (tuned readerLevel readerQuality).slots .zstd = some (.zstd readerLevel) := rfl
  refine ⟨fun payload content later rest frame ends cut begun strict => ?_, fun raw => ?_⟩
  · obtain ⟨size, rfl⟩ := Nat.exists_eq_add_of_le' begun
    rw [List.take_succ_cons]
    refine unwrap_corrupt slot ?_
    rw [Codec.decode, exists_map_error_eq_error]
    exact Zstd.decode_take frame ends (Nat.lt_of_succ_lt_succ strict)
  · refine ⟨Algorithm.zstd.id :: Zstd.encode level raw, wrap_encoded rfl rfl, ?_,
      fun cut begun strict => ?_⟩
    · rw [unwrap_cons _ slot, map_error_eq_ok]
      exact Codec.zstd_decode_eq (Zstd.decode_encode level raw)
    · obtain ⟨size, rfl⟩ := Nat.exists_eq_add_of_le' begun
      rw [List.take_succ_cons, unwrap_cons _ slot, Codec.decode,
        Zstd.decode_take_encode (Nat.lt_of_succ_lt_succ strict)]
      cases size with
      | zero => rfl
      | succ size => rfl

theorem unwrap_zstd_cut_early :
    (∃ later rest, Zstd.readFrame .start (.start Codec.describingFrame) = .ok ([0, 0], later, rest) ∧
      rest.bytes = []) ∧
      (∃ source, (tuned 3 5).unwrap ((Algorithm.zstd.id :: Codec.describingFrame).take 14) =
        .error (.corruptPayload .zstd source)) ∧
      ∃ block, (tuned 3 5).wrap .zstd [7] = .ok block ∧
        (tuned 3 5).unwrap (block.take 1) =
          .error (.corruptPayload .zstd ⟨.decompression, "zstd", "empty payload"⟩) := by
  obtain ⟨frames, texts⟩ := unwrap_zstd_cut 3 3 5 5
  obtain ⟨block, wrapped, -, cuts⟩ := texts [7]
  have read := Codec.read_describing_frame .start 0 []
  rw [List.append_nil] at read
  refine ⟨⟨_, _, read, rfl⟩, frames _ _ _ _ read rfl 14 (by decide) (by decide), block, wrapped,
    cuts 1 (Nat.le_refl 1) ?_⟩
  cases wrapped.symm.trans (wrap_encoded rfl rfl)
  exact Nat.succ_lt_succ (Nat.succ_pos _)

section KnownSize

variable {payload rest raw : Bytes} {header : Lzma.Header} {size : Nat}

theorem lzma_decode_append_known (parsed : Lzma.Header.parse payload = .ok (header, rest))
    (known : header.size = some size) (decoded : Codec.lzma.decode payload = .ok raw)
    (suffix : Bytes) : Codec.lzma.decode (payload ++ suffix) = .ok raw := by
  rw [Codec.decode, map_error_eq_ok] at decoded ⊢
  exact Lzma.decode_append_known parsed known decoded suffix

theorem unwrap_lzma_trailing (parsed : Lzma.Header.parse payload = .ok (header, rest))
    (known : header.size = some size) (decoded : Codec.lzma.decode payload = .ok raw)
    (suffix : Bytes) :
    Codec.lzma.decode (payload ++ suffix) = .ok raw ∧
      ∀ (registry : Registry) (algorithm : Algorithm), registry.slots algorithm = some .lzma →
        registry.unwrap (algorithm.id :: (payload ++ suffix)) = .ok raw := by
  have longer := lzma_decode_append_known parsed known decoded suffix
  refine ⟨longer, fun registry algorithm slot => ?_⟩
  rw [unwrap_cons _ slot, longer]
  rfl

end KnownSize

theorem unwrap_lzma_trailing_one_byte :
    Lzma.Header.parse Lzma.oneByteFile = .ok (Lzma.oneByteHeader, List.replicate 6 0) ∧
      Lzma.oneByteHeader.size = some 1 ∧ Codec.lzma.decode Lzma.oneByteFile = .ok [0] ∧
      Codec.lzma.decode (Lzma.oneByteFile ++ [0x4a, 0x55]) = .ok [0] ∧
      (tuned 3 5).unwrap (Algorithm.lzma.id :: (Lzma.oneByteFile ++ [0x4a, 0x55])) = .ok [0] := by
  obtain ⟨longer, blocks⟩ :=
    unwrap_lzma_trailing Lzma.parse_one_byte_file rfl Codec.lzma_decode_one_byte_file [0x4a, 0x55]
  exact ⟨Lzma.parse_one_byte_file, rfl, Codec.lzma_decode_one_byte_file, longer,
    blocks (tuned 3 5) .lzma rfl⟩

theorem unwrap_lzma_trailing_unnoticed :
    Codec.lzma.decode Lzma.oneByteFile = .ok [0] ∧
      Codec.lzma.decode (Lzma.oneByteFile ++ [0xff]) = .ok [0] ∧
      (tuned 3 5).unwrap (Algorithm.lzma.id :: (Lzma.oneByteFile ++ [0xff])) = .ok [0] := by
  have slot : (tuned 3 5).slots .lzma = some .lzma := rfl
  have longer : Codec.lzma.decode (Lzma.oneByteFile ++ [0xff]) = .ok [0] :=
    lzma_decode_append_known Lzma.parse_one_byte_file rfl Codec.lzma_decode_one_byte_file [0xff]
  refine ⟨Codec.lzma_decode_one_byte_file, longer, ?_⟩
  rw [unwrap_cons _ slot, longer]
  rfl

end TaggedBlock.Registry
