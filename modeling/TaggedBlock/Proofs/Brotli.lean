import TaggedBlock.Proofs.Brotli.Stream

set_option autoImplicit false

namespace TaggedBlock.Brotli

open BitReader BitSource

theorem run_require (source : BitSource) (condition : Bool) (holds : condition = true) :
    (require condition).run source = .finished () source := by
  rw [holds]
  rfl

theorem mod_shift_left_add_mul (value first second weight : Nat) :
    value % (1 <<< first) * weight + (value >>> first) % (1 <<< second) * (weight <<< first) =
      value % (1 <<< (first + second)) * weight := by
  have shifted : weight <<< first = 1 <<< first * weight := by
    rw [Nat.shiftLeft_eq, Nat.one_shiftLeft, Nat.mul_comm]
  rw [shifted, ← mod_shift_left_add, Nat.add_mul, Nat.mul_comm (1 <<< first) (_ % _), Nat.mul_assoc]

theorem run_read_parts {bits fewest parts value : Nat} {source last : BitSource}
    (weight sum index : Nat) (spelled : Spells source (lowBits (bits * parts) value) last)
    (needed : index + parts ≤ fewest) :
    (Header.readParts bits fewest weight sum index parts).run source =
      .finished (sum + value % (1 <<< (bits * parts)) * weight) last := by
  induction parts generalizing source value weight sum index with
  | zero =>
      cases spelled
      rw [Nat.mul_zero, Nat.shiftLeft_zero, Nat.mod_one, Nat.zero_mul]
      rfl
  | succ parts ih =>
      rw [Nat.mul_succ, Nat.add_comm, low_bits_add] at spelled
      obtain ⟨middle, first, rest⟩ := spells_split spelled
      have needs : (value % (1 <<< bits) != 0 || parts != 0 || decide (index < fewest)) = true := by
        rw [decide_eq_true (show index < fewest by omega), Bool.or_true]
      rw [Header.readParts, run_bind _ (run_number first), run_bind _ (run_require middle _ needs),
        ih _ _ _ rest (by omega), Nat.mul_succ, Nat.add_comm (bits * parts),
        ← mod_shift_left_add_mul, Nat.add_assoc]

theorem run_read_stored (length : Nat) (rest : Bytes) (bound : length < 65536) :
    Header.read.run ⟨[], littleEndianDigits 3 (8 * length + 0x80000) ++ rest⟩ =
      .finished ⟨false, .stored (length + 1)⟩ ⟨List.replicate 4 false, rest⟩ := by
  have spelled := spells_digits 2 (8 * length + 0x80000) 4 rest (by decide) (by decide)
  have high : (8 * length + 0x80000) >>> 20 = 0 := by
    rw [Nat.shiftRight_eq_div_pow]
    omega
  -- Not the last one, four parts of the length, these parts, and the bit for stored bytes.
  have parted : lowBits 20 (8 * length + 0x80000) =
      [false] ++ (lowBits 2 (4 * length + 0x40000) ++
        (lowBits 16 (length + 0x10000) ++ lowBits 1 1)) := by
    have last : lowBits 1 (8 * length + 0x80000) = [false] := by
      rw [lowBits, Nat.testBit_zero]
      simp only [lowBits, List.cons.injEq, decide_eq_false_iff_not, and_true]
      omega
    rw [show 20 = 1 + (2 + (16 + 1)) from rfl, low_bits_add, low_bits_add, low_bits_add, last,
      ← Nat.shiftRight_add, ← Nat.shiftRight_add]
    simp only [Nat.shiftRight_eq_div_pow]
    rw [show (8 * length + 0x80000) / 2 ^ 1 = 4 * length + 0x40000 by omega,
      show (8 * length + 0x80000) / 2 ^ (1 + 2) = length + 0x10000 by omega,
      show (8 * length + 0x80000) / 2 ^ (1 + (2 + 16)) = 1 by omega]
  rw [high, low_bits_zero, parted] at spelled
  obtain ⟨one, isLast, spelled⟩ := spells_split spelled
  obtain ⟨two, parts, spelled⟩ := spells_split spelled
  obtain ⟨three, below, stored⟩ := spells_split spelled
  have none : (4 * length + 0x40000) % (1 <<< 2) = 0 := by
    change _ % 4 = 0
    omega
  have content : (Header.readContent false).run one =
      .finished (.stored (length + 1)) ⟨List.replicate 4 false, rest⟩ := by
    have part : (Header.readParts 4 4 1 0 0 4).run two =
        .finished (0 + (length + 0x10000) % 65536 * 1) three :=
      run_read_parts 1 0 0 below (Nat.le_refl 4)
    have value : 0 + (length + 0x10000) % 65536 * 1 = length := by omega
    rw [value] at part
    rw [Header.readContent, run_bind _ (run_number parts), none]
    change (Header.readParts 4 4 1 0 0 4 >>= _).run two = _
    rw [run_bind _ part]
    change (bit >>= _).run three = _
    rw [run_bind _ (run_bit stored)]
    rfl
  rw [Header.read, run_bind _ (run_bit isLast)]
  exact run_bind _ content

theorem take_bytes_append {pending : List Bool} {bytes : Bytes} (rest : Bytes)
    (padded : pending.all (! ·) = true) :
    takeBytes bytes.length ⟨pending, bytes ++ rest⟩ = .finished bytes ⟨[], rest⟩ := by
  rw [takeBytes, BitSource.isPadded, if_pos padded, split_bytes_append bytes rest rfl]
  rfl

variable (dictionary : Dictionary)

theorem read_all_step {window : Window} {recent next : Recent} {source middle last : BitSource}
    {header : Header} {out grown : Array UInt8} (read : Header.read.run source = .finished header middle)
    (content : readContent dictionary window header.content recent middle out =
      .finished (next, grown) last) (more : header.isLast = false) :
    (Stage.between window recent).readAll dictionary source out =
      (Stage.between window next).readAll dictionary last grown := by
  rw [Stage.read_all_eq (Stage.between_ne_ended window recent), Stage.read, read]
  simp only [Outcome.bind, content, more, Bool.not_false, if_pos]

theorem read_all_last {window : Window} {recent next : Recent} {source middle last : BitSource}
    {header : Header} {out grown : Array UInt8} (read : Header.read.run source = .finished header middle)
    (content : readContent dictionary window header.content recent middle out =
      .finished (next, grown) last) (isLast : header.isLast = true)
    (padded : last.isPadded = true) :
    (Stage.between window recent).readAll dictionary source out = .finished grown last := by
  rw [Stage.read_all_eq (Stage.between_ne_ended window recent), Stage.read, read]
  simp only [Outcome.bind, content, isLast, padded, Bool.not_true, Bool.false_eq_true, if_false,
    if_pos]
  exact Stage.read_all_ended dictionary last grown

theorem read_all_stored_block (window : Window) (recent : Recent) (chunk rest : Bytes)
    (out : Array UInt8) (filled : chunk ≠ []) (bound : chunk.length ≤ greatestStored) :
    (Stage.between window recent).readAll dictionary ⟨[], storedBlock chunk ++ rest⟩ out =
      (Stage.between window recent).readAll dictionary ⟨[], rest⟩ (out ++ chunk) := by
  have positive := List.length_pos_iff.mpr filled
  have whole : chunk.length - 1 + 1 = chunk.length := Nat.sub_add_cancel positive
  have read := run_read_stored (chunk.length - 1) (chunk ++ rest)
    (by rw [greatestStored] at bound; omega)
  rw [whole, ← List.append_assoc] at read
  have content : readContent dictionary window (.stored chunk.length) recent
      ⟨List.replicate 4 false, chunk ++ rest⟩ out = .finished (recent, out ++ chunk) ⟨[], rest⟩ := by
    rw [readContent, take_bytes_append rest (by decide)]
    rfl
  rw [storedBlock]
  exact read_all_step dictionary read content rfl

theorem read_all_stored_blocks (window : Window) (recent : Recent) (raw rest : Bytes)
    (out : Array UInt8) :
    (Stage.between window recent).readAll dictionary ⟨[], storedBlocks raw ++ rest⟩ out =
      (Stage.between window recent).readAll dictionary ⟨[], rest⟩ (out ++ raw) := by
  fun_induction storedBlocks raw generalizing out with
  | case1 raw empty =>
      rw [List.isEmpty_iff.mp empty]
      rfl
  | case2 raw filled ih =>
      have some : raw ≠ [] := fun empty => filled (List.isEmpty_iff.mpr empty)
      have chunk : raw.take greatestStored ≠ [] := by
        rw [Ne, List.take_eq_nil_iff]
        exact not_or.mpr ⟨by decide, some⟩
      rw [List.append_assoc, read_all_stored_block _ _ _ _ _ _ chunk (List.length_take_le _ _),
        ih, append_append_list, List.take_append_drop]

theorem read_all_opening (window : Window) (recent : Recent) (rest : Bytes) (out : Array UInt8) :
    (Stage.between window recent).readAll dictionary ⟨(lowFirst opening).drop 1, rest⟩ out =
      (Stage.between window recent).readAll dictionary ⟨[], rest⟩ out := by
  have read : Header.read.run ⟨(lowFirst opening).drop 1, rest⟩ =
      .finished ⟨false, .metadata 0⟩ ⟨[false], rest⟩ := rfl
  exact read_all_step dictionary read rfl rfl

theorem read_all_closing (window : Window) (recent : Recent) (out : Array UInt8) :
    (Stage.between window recent).readAll dictionary ⟨[], [closing]⟩ out =
      .finished out ⟨List.replicate 6 false, []⟩ := by
  have read : Header.read.run ⟨[], [closing]⟩ =
      .finished ⟨true, .nothing⟩ ⟨List.replicate 6 false, []⟩ := rfl
  exact read_all_last dictionary read rfl rfl rfl

theorem decode_encode (raw : Bytes) : decode dictionary (encode raw) = .ok raw := by
  have window : Window.read.run (.ofBytes (encode raw)) =
      .finished (.ofBits 16) ⟨(lowFirst opening).drop 1, storedBlocks raw ++ [closing]⟩ := rfl
  rw [decode_eq, Stage.read_all_eq Stage.opening_ne_ended, Stage.read, window]
  simp only [Outcome.map, Outcome.bind, read_all_opening, read_all_stored_blocks, read_all_closing,
    finish, List.isEmpty_nil, if_pos, Array.toList_appendList, List.nil_append]

end TaggedBlock.Brotli
