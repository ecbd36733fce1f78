import TaggedBlock.Proofs.Lzma.Truncation

set_option autoImplicit false

namespace TaggedBlock.Lzma

namespace Reading

variable {header : Header} {size : Nat}

theorem complete_known (known : header.size = some size) (reading : Reading) :
    reading.isComplete header = true ↔ size ≤ reading.out.size := by
  rw [isComplete, Header.complete, known]
  exact decide_eq_true_iff

-- A run that ends with all bytes out never comes to a mark at the end: it is over before.
theorem finish_extend {reading : Reading} {out : Array UInt8} (suffix : Bytes)
    (known : header.size = some size) (finished : reading.finish header = .ok out)
    (reached : out.size = size) : (reading.extend suffix).finish header = .ok out := by
  induction reading using induction_advance header with
  | step reading ih =>
      by_cases complete : size ≤ reading.out.size
      · rw [finish_complete ((complete_known known reading).mpr complete)] at finished
        cases finished
        exact finish_complete ((complete_known known (reading.extend suffix)).mpr complete)
      · have incomplete : (reading.extend suffix).isComplete header = false :=
          Bool.eq_false_iff.mpr (mt (complete_known known _).mp complete)
        rw [finish_advance] at finished
        cases step : reading.advance header with
        | next next =>
            rw [step] at finished
            rw [finish_advance, advance_extend incomplete step]
            exact ih next step finished
        | failed error =>
            rw [step] at finished
            cases finished
        | stopped marked =>
            rw [step] at finished
            cases finished
            cases stopped_out step
            exact absurd (Nat.le_of_eq reached.symm) complete

end Reading

section Payload

variable {payload rest raw : Bytes} {header : Header} {size : Nat}

theorem conclude_known {run : Except Error (Array UInt8)} (known : header.size = some size) :
    conclude header run = .ok raw ↔ ∃ out, run = .ok out ∧ out.size = size ∧ out.toList = raw := by
  cases run with
  | error error => exact iff_of_false (fun same => nomatch same) (fun ⟨_, same, _⟩ => nomatch same)
  | ok out =>
      simp only [conclude, known]
      constructor
      · intro concluded
        split at concluded
        · rename_i reached
          cases concluded
          exact ⟨out, rfl, reached, rfl⟩
        · cases concluded
      · rintro ⟨_, same, reached, rfl⟩
        cases same
        rw [if_pos reached]

theorem decode_known (parsed : Header.parse payload = .ok (header, rest))
    (known : header.size = some size) (decoded : decode payload = .ok raw) :
    ∃ decoder out, RangeDecoder.start? rest = some decoder ∧
      (Reading.first header decoder).finish header = .ok out ∧ out.size = size ∧
      out.toList = raw := by
  cases started : RangeDecoder.start? rest with
  | none =>
      rw [decode, parsed] at decoded
      simp only [started] at decoded
      cases decoded
  | some decoder =>
      rw [decode_started parsed started, conclude_known known] at decoded
      obtain ⟨out, finished, reached, text⟩ := decoded
      exact ⟨decoder, out, rfl, finished, reached, text⟩

theorem decode_append_known (parsed : Header.parse payload = .ok (header, rest))
    (known : header.size = some size) (decoded : decode payload = .ok raw) (suffix : Bytes) :
    decode (payload ++ suffix) = .ok raw := by
  obtain ⟨decoder, out, started, finished, reached, text⟩ := decode_known parsed known decoded
  rw [decode_started (Header.parse_extend suffix parsed) (start_extend suffix started),
    conclude_known known]
  exact ⟨out, Reading.finish_extend suffix known finished reached, reached, text⟩

end Payload

def oneByteHeader : Header := { Header.plain with size := some 1 }

def oneByteFile : Bytes := oneByteHeader.render ++ List.replicate 6 0

theorem parse_one_byte_file :
    Header.parse oneByteFile = .ok (oneByteHeader, List.replicate 6 0) := rfl

theorem decode_one_byte_file : decode oneByteFile = .ok [0] := by
  obtain ⟨decoder, final, started, -, zeros, -⟩ := zeros_start
  have incomplete : (Reading.first oneByteHeader decoder).isComplete oneByteHeader = false := rfl
  have usual : oneByteHeader.parameters = Header.plain.parameters := rfl
  obtain ⟨after, step⟩ := Reading.advance_zeros usual zeros incomplete
  have ended : Reading.finish oneByteHeader ⟨.start, after, final, #[0]⟩ = .ok #[0] :=
    Reading.finish_complete rfl
  have finished : (Reading.first oneByteHeader decoder).finish oneByteHeader = .ok #[0] := by
    rw [Reading.finish_advance, step]
    exact ended
  rw [decode_started parse_one_byte_file started, conclude_known rfl]
  exact ⟨#[0], finished, rfl, rfl⟩

end TaggedBlock.Lzma
