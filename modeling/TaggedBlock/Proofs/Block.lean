import TaggedBlock.Proofs.Codec
import TaggedBlock.Proofs.Registry.Asking

set_option autoImplicit false

namespace TaggedBlock.Registry

theorem wrap_encoded {registry : Registry} {algorithm : Algorithm} {codec : Codec}
    {raw payload : Bytes} (slot : registry.slots algorithm = some codec)
    (encoded : codec.encode raw = .ok payload) :
    registry.wrap algorithm raw = .ok (algorithm.id :: payload) := by
  refine ((asks_for_wrap algorithm raw).of_known slot).trans ?_
  rw [writtenBy, encoded]
  rfl

theorem unwrap_cons {registry : Registry} {algorithm : Algorithm} {codec : Codec}
    (payload : Bytes) (slot : registry.slots algorithm = some codec) :
    registry.unwrap (algorithm.id :: payload) =
      (codec.decode payload).mapError (.corruptPayload algorithm) :=
  (asks_for_unwrap algorithm payload).of_known slot

theorem unwrap_corrupt {registry : Registry} {algorithm : Algorithm} {codec : Codec}
    {payload : Bytes} (slot : registry.slots algorithm = some codec)
    (failed : ∃ error, codec.decode payload = .error error) :
    ∃ source, registry.unwrap (algorithm.id :: payload) =
      .error (.corruptPayload algorithm source) := by
  obtain ⟨source, failed⟩ := failed
  refine ⟨source, ?_⟩
  rw [unwrap_cons payload slot, failed]
  rfl

theorem unwrap_wrap {writer reader : Registry} {algorithm : Algorithm} {codec other : Codec}
    {raw : Bytes} (slot : writer.slots algorithm = some codec)
    (counterpart : reader.slots algorithm = some other) (restores : codec.Restores other raw) :
    ∃ block, writer.wrap algorithm raw = .ok block ∧ block.head? = some algorithm.id ∧
      reader.unwrap block = .ok raw := by
  obtain ⟨payload, encoded, decoded⟩ := restores
  refine ⟨algorithm.id :: payload, wrap_encoded slot encoded, rfl, ?_⟩
  rw [unwrap_cons payload counterpart, decoded]
  rfl

theorem unwrap_wrap_across_tunings (level readerLevel : Int32) (quality readerQuality : UInt32)
    (algorithm : Algorithm) (raw : Bytes)
    (member : algorithm ∈ [Algorithm.none, .snappy, .lz4, .zstd, .brotli])
    (short : raw.length < 4294967296)
    (room : algorithm = .snappy → 32 + raw.length + raw.length / 6 ≤ 4294967295) :
    ∃ block, (tuned level quality).wrap algorithm raw = .ok block ∧
      block.head? = some algorithm.id ∧
      (tuned readerLevel readerQuality).unwrap block = .ok raw := by
  simp only [List.mem_cons, List.not_mem_nil, or_false] at member
  rcases member with rfl | rfl | rfl | rfl | rfl
  · exact unwrap_wrap rfl rfl (Codec.restores_identity raw)
  · exact unwrap_wrap rfl rfl (Codec.restores_snappy raw (room rfl))
  · exact unwrap_wrap rfl rfl (Codec.restores_lz4 raw short)
  · exact unwrap_wrap rfl rfl (Codec.restores_zstd level readerLevel raw)
  · exact unwrap_wrap rfl rfl (Codec.restores_brotli quality readerQuality raw)

theorem unwrap_wrap_across_extreme_tunings :
    ∃ block, (tuned (-7) 0).wrap .snappy [1, 1, 1, 1, 1, 1, 1, 1] = .ok block ∧
      block.head? = some Algorithm.snappy.id ∧
      (tuned 2147483647 4294967295).unwrap block = .ok [1, 1, 1, 1, 1, 1, 1, 1] :=
  unwrap_wrap_across_tunings (-7) 2147483647 0 4294967295 .snappy _ (by decide) (by decide)
    (fun _ => by decide)

section Oversize

variable {writer reader : Registry} {algorithm : Algorithm}

theorem unwrap_wrap_lz4_oversize (written : writer.slots algorithm = some .lz4)
    (read : reader.slots algorithm = some .lz4) (raw : Bytes) :
    (Codec.lz4.Restores .lz4 raw ↔ raw.length < 4294967296) ∧
      (4294967296 ≤ raw.length → ∃ payload needed,
        Codec.lz4.encode raw = .ok payload ∧
        raw.length % 4294967296 < needed ∧ needed ≤ raw.length ∧
        Codec.lz4.decode payload = .error ⟨.decompression, "lz4",
          (Lz4.Error.outputTooSmall (raw.length % 4294967296) needed).message⟩ ∧
        writer.wrap algorithm raw = .ok (algorithm.id :: payload) ∧
        reader.unwrap (algorithm.id :: payload) =
          .error (.corruptPayload algorithm ⟨.decompression, "lz4",
            (Lz4.Error.outputTooSmall (raw.length % 4294967296) needed).message⟩)) := by
  refine ⟨Codec.restores_lz4_iff raw, fun long => ?_⟩
  obtain ⟨payload, needed, encoded, more, inside, failed⟩ := Codec.lz4_decode_oversize raw long
  refine ⟨payload, needed, encoded, more, inside, failed, wrap_encoded written encoded, ?_⟩
  rw [unwrap_cons payload read, failed]
  rfl

end Oversize

theorem unwrap_wrap_lz4_oversize_zeros :
    ∃ payload needed, 0 < needed ∧ needed ≤ 4294967296 ∧
      (tuned 3 5).wrap .lz4 (List.replicate 4294967296 0) = .ok (Algorithm.lz4.id :: payload) ∧
      (tuned 3 5).unwrap (Algorithm.lz4.id :: payload) =
        .error (.corruptPayload .lz4 ⟨.decompression, "lz4",
          (Lz4.Error.outputTooSmall 0 needed).message⟩) := by
  have slot : (tuned 3 5).slots .lz4 = some .lz4 := rfl
  have length : (List.replicate 4294967296 (0 : UInt8)).length = 4294967296 :=
    List.length_replicate
  obtain ⟨payload, needed, -, more, inside, -, wrapped, failed⟩ :=
    (unwrap_wrap_lz4_oversize slot slot (List.replicate 4294967296 0)).2
      (Nat.le_of_eq length.symm)
  rw [length] at more inside failed
  exact ⟨payload, needed, more, inside, wrapped, failed⟩

theorem lz4_zeros_unreadable :
    Codec.lz4.encode (List.replicate 4294967296 0) =
        .ok ([0, 0, 0, 0, 0x1f, 0, 1, 0] ++
          (List.replicate 16843008 255 ++ [0xe7, 0x50, 0, 0, 0, 0, 0])) ∧
      Codec.lz4.decode ([0, 0, 0, 0, 0x1f, 0, 1, 0] ++
          (List.replicate 16843008 255 ++ [0xe7, 0x50, 0, 0, 0, 0, 0])) =
        .error ⟨.decompression, "lz4",
          "provided output is too small for the decompressed data, actual 0, expected 1"⟩ := by
  refine ⟨?_, ?_⟩
  · rw [Codec.encode, Lz4.encode_zeros]
  · rw [Codec.decode, Lz4.decode_zeros]
    rfl

-- The run ends at the mark, so before it neither a zero code at the end of the input nor a declared
-- size ever stops it.
theorem unwrap_wrap_lzma (level readerLevel : Int32) (quality readerQuality : UInt32)
    (raw : Bytes) :
    ∃ payload, (tuned level quality).wrap .lzma raw = .ok (5 :: payload) ∧
      (tuned readerLevel readerQuality).unwrap (5 :: payload) = .ok raw ∧
      ∀ header reading, Lzma.Boundary payload header reading →
        reading.isComplete header = false := by
  obtain ⟨decoded, boundaries⟩ := Lzma.decode_encode raw
  have slot : (tuned readerLevel readerQuality).slots .lzma = some .lzma := rfl
  refine ⟨Lzma.encode raw, wrap_encoded rfl rfl, ?_, boundaries⟩
  change (tuned readerLevel readerQuality).unwrap (Algorithm.lzma.id :: Lzma.encode raw) = .ok raw
  rw [unwrap_cons _ slot, map_error_eq_ok, Codec.decode, map_error_eq_ok]
  exact decoded

theorem head_eq_cons {algorithm : Algorithm} {block : Bytes}
    (tagged : block.head? = some algorithm.id) : ∃ payload, block = algorithm.id :: payload := by
  cases block with
  | nil => cases tagged
  | cons id payload =>
      cases tagged
      exact ⟨payload, rfl⟩

theorem unwrap_extended_or_cut {codec : Codec} (format : codec = .snappy ∨ codec = .lz4) :
    codec.PrefixFree ∧
      ∀ (registry : Registry) (algorithm : Algorithm), registry.slots algorithm = some codec →
        ∀ (block raw : Bytes), block.head? = some algorithm.id → registry.unwrap block = .ok raw →
          (∀ suffix, suffix ≠ [] → ∃ source, registry.unwrap (block ++ suffix) =
            .error (.corruptPayload algorithm source)) ∧
          ∀ cut, cut <+: block → cut ≠ block → cut.head? = some algorithm.id →
            ∃ source, registry.unwrap cut = .error (.corruptPayload algorithm source) := by
  have free : codec.PrefixFree := by
    rcases format with rfl | rfl
    · exact Codec.prefix_free_snappy
    · exact Codec.prefix_free_lz4
  refine ⟨free, fun registry algorithm slot block raw tagged accepted => ?_⟩
  obtain ⟨payload, rfl⟩ := head_eq_cons tagged
  rw [unwrap_cons payload slot, map_error_eq_ok] at accepted
  refine ⟨fun suffix filled => ?_, fun cut part strict begun => ?_⟩
  · exact unwrap_corrupt slot (free payload raw suffix accepted filled)
  · obtain ⟨left, rfl⟩ := head_eq_cons begun
    have inside : left <+: payload := (List.cons_prefix_cons.mp part).2
    exact unwrap_corrupt slot (free.cut accepted inside fun same => strict (by rw [same]))

-- The suffix reads as one more copy, and the cut falls behind a sequence that could be the last one.
theorem unwrap_extended_or_cut_overlapping :
    (tuned 3 5).unwrap [2, 5, 0, 0, 0, 0x10, 7, 1, 0, 0x0f] = .ok [7, 7, 7, 7, 7] ∧
      (∃ source, (tuned 3 5).unwrap ([2, 5, 0, 0, 0, 0x10, 7, 1, 0, 0x0f] ++ [1, 0, 0]) =
        .error (.corruptPayload .lz4 source)) ∧
      ∃ source, (tuned 3 5).unwrap [2, 5, 0, 0, 0, 0x10, 7] =
        .error (.corruptPayload .lz4 source) := by
  have slot : (tuned 3 5).slots .lz4 = some .lz4 := rfl
  have accepted : (tuned 3 5).unwrap [2, 5, 0, 0, 0, 0x10, 7, 1, 0, 0x0f] =
      .ok [7, 7, 7, 7, 7] := by
    change (tuned 3 5).unwrap (Algorithm.lz4.id :: [5, 0, 0, 0, 0x10, 7, 1, 0, 0x0f]) = _
    rw [unwrap_cons _ slot, map_error_eq_ok, Codec.decode, map_error_eq_ok]
    exact Lz4.decode_overlapping
  obtain ⟨longer, shorter⟩ := (unwrap_extended_or_cut (Or.inr rfl)).2 (tuned 3 5) .lz4 slot
    [2, 5, 0, 0, 0, 0x10, 7, 1, 0, 0x0f] [7, 7, 7, 7, 7] rfl accepted
  exact ⟨accepted, longer [1, 0, 0] (by decide),
    shorter [2, 5, 0, 0, 0, 0x10, 7] (by decide) (by decide) rfl⟩

end TaggedBlock.Registry
