import TaggedBlock.Codec
import TaggedBlock.Proofs.Brotli.Extension
import TaggedBlock.Proofs.Lz4.Format
import TaggedBlock.Proofs.Lz4.Oversize
import TaggedBlock.Proofs.Lzma.KnownSize
import TaggedBlock.Proofs.Lzma.RoundTrip
import TaggedBlock.Proofs.Results
import TaggedBlock.Proofs.Snappy.Format
import TaggedBlock.Proofs.Zstd.Behind

set_option autoImplicit false

namespace TaggedBlock.Codec

def Restores (writer reader : Codec) (raw : Bytes) : Prop :=
  ∃ payload, writer.encode raw = .ok payload ∧ reader.decode payload = .ok raw

theorem restores_identity (raw : Bytes) : Restores .identity .identity raw := ⟨raw, rfl, rfl⟩

theorem restores_snappy (raw : Bytes) (room : Snappy.worstSize raw.length ≤ Snappy.longest) :
    Restores .snappy .snappy raw := by
  obtain ⟨payload, encoded, decoded⟩ := Snappy.decode_encode raw room
  refine ⟨payload, ?_, ?_⟩
  · rw [encode, encoded]
    rfl
  · rw [decode, decoded]
    rfl

theorem restores_lz4 (raw : Bytes) (fits : raw.length < 4294967296) : Restores .lz4 .lz4 raw := by
  refine ⟨Lz4.encode raw, rfl, ?_⟩
  rw [decode, Lz4.decode_encode raw fits]
  rfl

theorem lz4_decode_oversize (raw : Bytes) (long : 4294967296 ≤ raw.length) :
    ∃ payload needed, lz4.encode raw = .ok payload ∧
      raw.length % 4294967296 < needed ∧ needed ≤ raw.length ∧
      lz4.decode payload = .error ⟨.decompression, "lz4",
        (Lz4.Error.outputTooSmall (raw.length % 4294967296) needed).message⟩ := by
  obtain ⟨needed, more, inside, failed⟩ := Lz4.decode_encode_oversize raw long
  refine ⟨Lz4.encode raw, needed, rfl, more, inside, ?_⟩
  rw [decode, failed]
  rfl

theorem restores_lz4_iff (raw : Bytes) :
    Restores .lz4 .lz4 raw ↔ raw.length < 4294967296 := by
  refine ⟨?_, restores_lz4 raw⟩
  rintro ⟨payload, encoded, decoded⟩
  refine Nat.lt_of_not_le fun long => ?_
  obtain ⟨written, needed, same, -, -, failed⟩ := lz4_decode_oversize raw long
  cases same.symm.trans encoded
  cases failed.symm.trans decoded

theorem restores_zstd (level other : Int32) (raw : Bytes) :
    Restores (.zstd level) (.zstd other) raw := by
  refine ⟨Zstd.encode level raw, rfl, ?_⟩
  rw [decode, Zstd.decode_encode level raw]
  rfl

theorem restores_brotli (quality other : UInt32) (raw : Bytes) :
    Restores (.brotli quality) (.brotli other) raw := by
  refine ⟨Brotli.encode raw, rfl, ?_⟩
  rw [decode, Brotli.decode_encode]
  rfl

theorem eq_failure_of_map_error {ε : Type} {read : Except ε Bytes} {stage : Stage} {name : String}
    {text : ε → String} {error : CodecError}
    (failed : (read.mapError fun error => CodecError.mk stage name (text error)) = .error error) :
    ∃ text, error = ⟨stage, name, text⟩ := by
  obtain ⟨inner, -, rfl⟩ := map_error_eq_error_iff.mp failed
  exact ⟨text inner, rfl⟩

def isLibrary : Codec → Bool
  | .custom _ => false
  | _ => true

theorem decode_error_of_library {codec : Codec} {payload : Bytes} {error : CodecError}
    (library : codec.isLibrary = true) (failed : codec.decode payload = .error error) :
    ∃ text, error = ⟨.decompression, codec.name, text⟩ := by
  cases codec with
  | identity => cases failed
  | snappy => exact eq_failure_of_map_error failed
  | lz4 => exact eq_failure_of_map_error failed
  | zstd level => exact eq_failure_of_map_error failed
  | brotli quality => exact eq_failure_of_map_error failed
  | lzma => exact eq_failure_of_map_error failed
  | custom custom => cases library

-- Cutting a file of unknown size shows as an error or changes nothing, just if every reading for
-- which the cut leaves nothing but a code of zero has the whole text out already.
theorem lzma_decode_cut_iff {cut missing raw rest : Bytes} {header : Lzma.Header}
    (parsed : Lzma.Header.parse (cut ++ missing) = .ok (header, rest))
    (unknown : header.size = none) (filled : missing ≠ [])
    (decoded : lzma.decode (cut ++ missing) = .ok raw) :
    ((∃ error, lzma.decode cut = .error error) ∨ lzma.decode cut = .ok raw) ↔
      ∀ reading, Lzma.Boundary (cut ++ missing) header reading → reading.Silent missing →
        reading.out.toList = raw := by
  rw [decode, map_error_eq_ok] at decoded
  rw [decode, exists_map_error_eq_error, map_error_eq_ok]
  exact Lzma.decode_cut_iff parsed unknown filled decoded

theorem lzma_decode_cut_iff_zero_file :
    Lzma.Header.parse (Lzma.zeroFile 5 ++ [0]) = .ok (.plain, List.replicate 5 0 ++ [0]) ∧
      lzma.decode (Lzma.zeroFile 5 ++ [0]) = .ok [0] ∧
      (((∃ error, lzma.decode (Lzma.zeroFile 5) = .error error) ∨
          lzma.decode (Lzma.zeroFile 5) = .ok [0]) ↔
        ∀ reading, Lzma.Boundary (Lzma.zeroFile 5 ++ [0]) .plain reading → reading.Silent [0] →
          reading.out.toList = [0]) := by
  have decoded : lzma.decode (Lzma.zeroFile 5 ++ [0]) = .ok [0] := by
    rw [decode, map_error_eq_ok]
    exact Lzma.decode_zero_file_append
  exact ⟨Lzma.parse_zero_file, decoded,
    lzma_decode_cut_iff Lzma.parse_zero_file rfl (List.cons_ne_nil _ _) decoded⟩

theorem lzma_decode_cut_unnoticed :
    lzma.decode (Lzma.zeroFile 5 ++ [0]) = .ok [0] ∧ lzma.decode (Lzma.zeroFile 5) = .ok [] := by
  refine ⟨?_, ?_⟩
  · rw [decode, map_error_eq_ok]
    exact Lzma.decode_zero_file_append
  · rw [decode, map_error_eq_ok]
    exact Lzma.decode_zero_file

theorem lzma_decode_one_byte_file : lzma.decode Lzma.oneByteFile = .ok [0] := by
  rw [decode, map_error_eq_ok]
  exact Lzma.decode_one_byte_file

theorem snappy_decode_eq_ok_iff (payload out : Bytes) :
    snappy.decode payload = .ok out ↔
      out.length ≤ 4294967295 ∧ ∃ header spelling elements,
        payload = header ++ spelling ∧ header.length ≤ 5 ∧
        Snappy.WrittenLength out.length header ∧ Snappy.Element.Spelled elements spelling ∧
        Snappy.Element.Expands [] elements out := by
  rw [decode, map_error_eq_ok]
  exact Snappy.decode_eq_ok_iff payload out

theorem lz4_decode_eq_ok_iff (payload out : Bytes) :
    lz4.decode payload = .ok out ↔
      out.length < 4294967296 ∧ ∃ phrases nibble tail spelled,
        payload = littleEndianDigits 4 out.length ++
          (phrases.flatMap Lz4.renderPhrase ++ Lz4.renderClosing nibble tail) ∧
        nibble < 16 ∧ Phrasing.Bounded Lz4.farthest phrases ∧
        Phrasing.Expands [] phrases spelled ∧ out = spelled ++ tail := by
  rw [decode, map_error_eq_ok]
  exact Lz4.decode_eq_ok_iff payload out

def PrefixFree (codec : Codec) : Prop :=
  ∀ payload raw suffix, codec.decode payload = .ok raw → suffix ≠ [] →
    ∃ error, codec.decode (payload ++ suffix) = .error error

theorem prefix_free_of_read {ε : Type} {codec : Codec} {read : Bytes → Except ε Bytes}
    {tag : ε → CodecError} (same : ∀ payload, codec.decode payload = (read payload).mapError tag)
    (free : ∀ {payload raw suffix : Bytes}, read payload = .ok raw → suffix ≠ [] →
      ∃ error, read (payload ++ suffix) = .error error) : codec.PrefixFree := by
  intro payload raw suffix decoded filled
  rw [same, map_error_eq_ok] at decoded
  rw [same, exists_map_error_eq_error]
  exact free decoded filled

theorem prefix_free_snappy : snappy.PrefixFree :=
  prefix_free_of_read (fun _ => rfl) Snappy.decode_append

theorem prefix_free_lz4 : lz4.PrefixFree := prefix_free_of_read (fun _ => rfl) Lz4.decode_append

theorem PrefixFree.cut {codec : Codec} (free : codec.PrefixFree) {payload raw cut : Bytes}
    (decoded : codec.decode payload = .ok raw) (part : cut <+: payload) (strict : cut ≠ payload) :
    ∃ error, codec.decode cut = .error error := by
  obtain ⟨missing, filled, rfl⟩ := exists_missing part strict
  cases short : codec.decode cut with
  | error error => exact ⟨error, rfl⟩
  | ok other =>
      obtain ⟨error, failed⟩ := free cut other missing short filled
      cases failed.symm.trans decoded

theorem brotli_decode_spans {quality : UInt32} {payload raw : Bytes}
    (decoded : (brotli quality).decode payload = .ok raw) :
    (∀ suffix, suffix ≠ [] →
      (brotli quality).decode (payload ++ suffix) =
        .error ⟨.decompression, "brotli",
          toString suffix.length ++ " trailing byte(s) after end of stream"⟩) ∧
      ∀ cut, cut <+: payload → cut ≠ payload →
        (brotli quality).decode cut = .error ⟨.decompression, "brotli", "truncated stream"⟩ := by
  rw [decode, map_error_eq_ok] at decoded
  refine ⟨fun suffix filled => ?_, fun cut part strict => ?_⟩
  · rw [decode, Brotli.decode_append decoded filled]
    rfl
  · obtain ⟨missing, filled, rfl⟩ := exists_missing part strict
    rw [decode, Brotli.decode_cut decoded filled]
    rfl

theorem brotli_decode_spans_letter :
    (brotli 5).decode [0x0b, 0x00, 0x80, 0x61, 0x03] = .ok [0x61] ∧
      (brotli 5).decode ([0x0b, 0x00, 0x80, 0x61, 0x03] ++ [0x4a, 0x55]) =
        .error ⟨.decompression, "brotli", "2 trailing byte(s) after end of stream"⟩ ∧
      (brotli 5).decode [0x0b, 0x00] = .error ⟨.decompression, "brotli", "truncated stream"⟩ := by
  have decoded : (brotli 5).decode [0x0b, 0x00, 0x80, 0x61, 0x03] = .ok [0x61] := by
    rw [decode, map_error_eq_ok]
    exact Brotli.decode_letter .standard
  obtain ⟨trailing, truncated⟩ := brotli_decode_spans decoded
  exact ⟨decoded, trailing [0x4a, 0x55] (by decide), truncated [0x0b, 0x00] (by decide) (by decide)⟩

theorem zstd_decode_eq {level : Int32} {payload raw : Bytes} (decoded : Zstd.decode payload = .ok raw) :
    (zstd level).decode payload = .ok raw := by
  rw [decode, map_error_eq_ok]
  exact decoded

-- One block, of two literals in a prefix code that the block describes.
def describingText : Bytes := [0x3d, 0, 0, 0x22, 0xc0, 0, 0x80, 0x10, 4, 0]

def describingFrame : Bytes := Zstd.codedFrame Zstd.plainHeader describingText []

theorem coded_describing : Zstd.Coded Zstd.plainFrame Zstd.plainHeader describingText []
    ⟨true, 2, 7⟩ #[0, 0] := by
  have yields : Zstd.Yields Zstd.plainFrame ⟨true, 2, 7⟩ [0x22, 0xc0, 0, 0x80, 0x10, 4, 0] .start
      ⟨some (.fork (.leaf 0) (.leaf 1)), none, .start⟩ #[] #[0, 0] :=
    ⟨by decide, by decide, by decide, rfl, rfl, by decide⟩
  exact ⟨rfl, rfl, by decide, .last yields rfl, rfl, fun has => nomatch has⟩

theorem read_describing_frame (buffers : Zstd.Buffers) (position : Nat) (rest : Bytes) :
    Zstd.readFrame buffers ⟨position, describingFrame ++ rest⟩ = .ok ([0, 0],
      buffers.forFrame Zstd.plainFrame, ⟨position + describingFrame.length, rest⟩) :=
  coded_describing.read_frame_streamed (fun _ known => nomatch known) buffers position rest
    fun small => nomatch small

end TaggedBlock.Codec
