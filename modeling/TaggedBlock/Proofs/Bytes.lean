import TaggedBlock.Bytes

set_option autoImplicit false

namespace TaggedBlock

theorem to_nat_of_nat (value : Nat) (fits : value < 256) : (UInt8.ofNat value).toNat = value := by
  rw [UInt8.toNat_ofNat', Nat.mod_eq_of_lt fits]

theorem little_endian_digits_little_endian (bytes : Bytes) :
    littleEndianDigits bytes.length (littleEndian bytes) = bytes := by
  induction bytes with
  | nil => rfl
  | cons byte tail ih =>
      have bound : byte.toNat < 256 := byte.toNat_lt
      have low : UInt8.ofNat (byte.toNat + 256 * littleEndian tail) = byte := by
        rw [← UInt8.toNat_inj, UInt8.toNat_ofNat']
        omega
      have high : (byte.toNat + 256 * littleEndian tail) / 256 = littleEndian tail := by omega
      rw [List.length_cons, littleEndian, littleEndianDigits, low, high, ih]

theorem little_endian_lt (bytes : Bytes) : littleEndian bytes < 1 <<< (8 * bytes.length) := by
  induction bytes with
  | nil => decide
  | cons byte tail ih =>
      have bound : byte.toNat < 256 := byte.toNat_lt
      rw [List.length_cons, Nat.mul_succ, Nat.shiftLeft_add, littleEndian]
      omega

theorem little_endian_little_endian_digits_mod (count value : Nat) :
    littleEndian (littleEndianDigits count value) = value % (1 <<< (8 * count)) := by
  induction count generalizing value with
  | zero =>
      rw [Nat.mul_zero, Nat.shiftLeft_zero, Nat.mod_one]
      rfl
  | succ count ih =>
      have place : 1 <<< (8 * (count + 1)) = 256 * (1 <<< (8 * count)) := by
        rw [Nat.mul_succ, Nat.shiftLeft_add]
        omega
      rw [littleEndianDigits, littleEndian, ih, UInt8.toNat_ofNat', place, Nat.mod_mul]

theorem append_to_list (out grown : Array UInt8) : out ++ grown.toList = out ++ grown :=
  Array.ext' (by rw [Array.toList_appendList, Array.toList_append])

theorem append_append_list (out : Array UInt8) (first second : Bytes) :
    out ++ first ++ second = out ++ (first ++ second) :=
  Array.ext' (by simp only [Array.toList_appendList, List.append_assoc])

theorem push_copies_replicate (out : Array UInt8) (byte : UInt8) (count : Nat) :
    pushCopies out byte count = out ++ List.replicate count byte := by
  induction count generalizing out with
  | zero => simp [pushCopies]
  | succ count ih => simp only [pushCopies, ih, List.replicate_succ, Array.appendList_cons]

theorem exists_missing {cut whole : Bytes} (part : cut <+: whole) (strict : cut ≠ whole) :
    ∃ missing, missing ≠ [] ∧ cut ++ missing = whole := by
  obtain ⟨missing, rfl⟩ := part
  refine ⟨missing, ?_, rfl⟩
  rintro rfl
  exact strict (List.append_nil cut).symm

theorem split_bytes_append {count : Nat} (taken rest : Bytes) (size : taken.length = count) :
    splitBytes? count (taken ++ rest) = some (taken, rest) := by
  subst size
  simp [splitBytes?]

theorem split_bytes_extend {count : Nat} {bytes taken rest : Bytes} (suffix : Bytes)
    (split : splitBytes? count bytes = some (taken, rest)) :
    splitBytes? count (bytes ++ suffix) = some (taken, rest ++ suffix) := by
  obtain ⟨rfl, size⟩ := split_bytes_eq_some split
  rw [List.append_assoc]
  exact split_bytes_append taken (rest ++ suffix) size

theorem split_bytes_digits (count value : Nat) (rest : Bytes) :
    splitBytes? count (littleEndianDigits count value ++ rest) =
      some (littleEndianDigits count value, rest) :=
  split_bytes_append _ rest (length_little_endian_digits count value)

theorem split_bytes_eq_digits {count : Nat} {bytes digits rest : Bytes}
    (split : splitBytes? count bytes = some (digits, rest)) :
    bytes = littleEndianDigits count (littleEndian digits) ++ rest ∧
      littleEndian digits < 1 <<< (8 * count) := by
  obtain ⟨rfl, rfl⟩ := split_bytes_eq_some split
  rw [little_endian_digits_little_endian]
  exact ⟨rfl, little_endian_lt digits⟩

theorem copy_back_add (out : Array UInt8) (distance first second : Nat)
    (within : 0 < distance ∧ distance ≤ out.size)
    (still : 0 < distance ∧ distance ≤ (copyBack out distance first within).size) :
    copyBack (copyBack out distance first within) distance second still =
      copyBack out distance (first + second) within := by
  induction first generalizing out with
  | zero => simp only [copyBack, Nat.zero_add]
  | succ first ih =>
      simp only [Nat.succ_add, copyBack] at still ⊢
      exact ih _ _ still

theorem copy_back_extract (text : Array UInt8) (distance length place : Nat)
    (reach : place + length ≤ text.size) (positive : 0 < distance) (back : distance ≤ place)
    (same : ∀ step, step < length → text[place - distance + step]? = text[place + step]?)
    (within : 0 < distance ∧ distance ≤ (text.extract 0 place).size) :
    copyBack (text.extract 0 place) distance length within = text.extract 0 (place + length) := by
  induction length generalizing place with
  | zero => rfl
  | succ length ih =>
      have inText : place < text.size := by omega
      have size : (text.extract 0 place).size = place := by
        rw [Array.size_extract]
        omega
      have before : place - distance < text.size := by omega
      have last : (text.extract 0 place).size - distance < (text.extract 0 place).size := by omega
      have source : text[place - distance] = text[place] := by
        have first := same 0 (Nat.succ_pos _)
        simpa only [Nat.add_zero, Array.getElem?_eq_getElem inText,
          Array.getElem?_eq_getElem before, Option.some.injEq] using first
      have grown : (text.extract 0 place).push
          (text.extract 0 place)[(text.extract 0 place).size - distance] =
          text.extract 0 (place + 1) := by
        have pushed := Array.push_extract_getElem (i := 0) inText
        rw [Nat.zero_min, ← source] at pushed
        simpa only [size, Array.getElem_extract, Nat.zero_add] using pushed
      simp only [copyBack, grown]
      rw [ih (place + 1) (by omega) (by omega), Nat.add_right_comm, Nat.add_assoc]
      intro step below
      have next := same (step + 1) (by omega)
      rwa [show place - distance + (step + 1) = place + 1 - distance + step by omega,
        show place + (step + 1) = place + 1 + step by omega] at next

-- The second text is the first with that many bytes behind it, each of them equal to the byte that
-- stands `distance` before the end when its turn comes.
inductive Copied (distance : Nat) : (length : Nat) → Bytes → Bytes → Prop where
  | done (text : Bytes) : Copied distance 0 text text
  | step (length : Nat) (text whole : Bytes) (byte : UInt8)
      (source : text[text.length - distance]? = some byte)
      (rest : Copied distance length (text ++ [byte]) whole) :
      Copied distance (length + 1) text whole

theorem copied_iff (out : Array UInt8) (distance length : Nat) (whole : Bytes)
    (within : 0 < distance ∧ distance ≤ out.size) :
    Copied distance length out.toList whole ↔
      (copyBack out distance length within).toList = whole := by
  induction length generalizing out with
  | zero =>
      refine ⟨fun copied => ?_, fun same => ?_⟩
      · cases copied
        rfl
      · subst same
        exact .done _
  | succ length ih =>
      have inside : out.size - distance < out.size := by omega
      have source : out.toList[out.toList.length - distance]? = some out[out.size - distance] := by
        rw [Array.length_toList, Array.getElem?_toList, Array.getElem?_eq_getElem inside]
      refine ⟨fun copied => ?_, fun same => ?_⟩
      · cases copied with
        | step _ _ _ byte found rest =>
            cases found.symm.trans source
            rw [← Array.toList_push] at rest
            exact (ih _ _).mp rest
      · refine .step length _ _ _ source ?_
        rw [← Array.toList_push]
        exact (ih _ _).mpr same

end TaggedBlock
