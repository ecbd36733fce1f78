import TaggedBlock.Proofs.Brotli

set_option autoImplicit false

namespace TaggedBlock.Brotli

open BitReader BitReader.Outcome

theorem take_bytes_extends (suffix : Bytes) (length : Nat) (source : BitSource) :
    Extends suffix (takeBytes length source) (takeBytes length (source.extend suffix)) := by
  have padding : (source.extend suffix).isPadded = source.isPadded := rfl
  simp only [takeBytes, padding]
  split
  · cases split : splitBytes? length source.rest with
    | none => exact .starved _
    | some parts =>
        obtain ⟨bytes, rest⟩ := parts
        simp only [BitSource.extend, split_bytes_extend suffix split]
        exact .finished bytes (.ofBytes rest)
  · exact .refused

namespace Coding

variable (suffix : Bytes) (coding : Coding)

theorem read_literals_extends (count : Nat) (cursor : Cursor) (source : BitSource)
    (out : Array UInt8) :
    Extends suffix (coding.readLiterals count cursor source out)
      (coding.readLiterals count cursor (source.extend suffix) out) := by
  induction count generalizing cursor source out with
  | zero => exact .finished (cursor, out) source
  | succ count ih =>
      exact extends_bind (run_extends suffix _ source) fun literal middle => ih _ middle _

theorem take_command_extends (dictionary : Dictionary) (window remaining : Nat) (cursor : Cursor)
    (recent : Recent) (source : BitSource) (out : Array UInt8) :
    Extends suffix (coding.takeCommand dictionary window remaining cursor recent source out)
      (coding.takeCommand dictionary window remaining cursor recent (source.extend suffix) out) := by
  refine extends_bind (run_extends suffix _ source) fun (begun, command) behindCommand => ?_
  dsimp only
  split
  · exact .refused
  refine extends_bind (read_literals_extends suffix coding _ _ _ _) fun (inserted, text) behind => ?_
  dsimp only
  split
  · exact .finished _ _
  refine extends_bind (run_extends suffix _ behind) fun (copied, distance, later) last => ?_
  dsimp only
  split
  · exact .refused
  · exact .finished _ _

theorem stalls_extend (made : Nat) (source next : BitSource) (cursor after : Cursor) :
    stalls made (source.extend suffix) (next.extend suffix) cursor after =
      stalls made source next cursor after := by
  rw [stalls, stalls, BitSource.left_extend, BitSource.left_extend, decide_eq_decide]
  omega

theorem read_commands_step {dictionary : Dictionary} {window remaining : Nat}
    {cursor after : Cursor} {recent later : Recent} {source next : BitSource}
    {out grown : Array UInt8}
    (taken : coding.takeCommand dictionary window remaining cursor recent source out =
      .finished (after, later, grown) next) :
    coding.readCommands dictionary window remaining cursor recent source out =
      if remaining < grown.size - out.size then .refused
      else if grown.size - out.size = remaining then .finished (later, grown) next
      else if stalls (grown.size - out.size) source next cursor after then .refused
      else coding.readCommands dictionary window (remaining - (grown.size - out.size)) after later
        next grown := by
  rw [readCommands, taken]

theorem read_commands_extends (dictionary : Dictionary) (window remaining : Nat) (cursor : Cursor)
    (recent : Recent) (source : BitSource) (out : Array UInt8) :
    Extends suffix (coding.readCommands dictionary window remaining cursor recent source out)
      (coding.readCommands dictionary window remaining cursor recent (source.extend suffix) out) := by
  fun_induction readCommands coding dictionary window remaining cursor recent source out with
  | case1 remaining cursor recent source out refused =>
      have longer := extends_refused (take_command_extends suffix coding _ _ _ _ _ _ _) refused
      rw [readCommands, longer]
      exact .refused
  | case2 => exact .starved _
  | case3 remaining cursor recent source out after later grown next taken made beyond =>
      have longer := extends_finished (take_command_extends suffix coding _ _ _ _ _ _ _) taken
      rw [read_commands_step coding longer, if_pos beyond]
      exact .refused
  | case4 cursor recent source out after later grown next made taken fits =>
      have longer := extends_finished (take_command_extends suffix coding _ _ _ _ _ _ _) taken
      rw [read_commands_step coding longer, if_neg fits, if_pos rfl]
      exact .finished _ _
  | case5 remaining cursor recent source out after later grown next taken made fits more stalled =>
      have longer := extends_finished (take_command_extends suffix coding _ _ _ _ _ _ _) taken
      rw [read_commands_step coding longer, if_neg fits, if_neg more, stalls_extend, if_pos stalled]
      exact .refused
  | case6 remaining cursor recent source out after later grown next taken made fits more moves ih =>
      have longer := extends_finished (take_command_extends suffix coding _ _ _ _ _ _ _) taken
      rw [read_commands_step coding longer, if_neg fits, if_neg more, stalls_extend, if_neg moves]
      exact ih

end Coding

theorem read_content_extends (suffix : Bytes) (dictionary : Dictionary) (window : Window)
    (content : Content) (recent : Recent) (source : BitSource) (out : Array UInt8) :
    Extends suffix (readContent dictionary window content recent source out)
      (readContent dictionary window content recent (source.extend suffix) out) := by
  cases content with
  | nothing => exact .finished (recent, out) source
  | metadata length => exact extends_map _ (take_bytes_extends suffix length source)
  | stored length => exact extends_map _ (take_bytes_extends suffix length source)
  | coded length =>
      exact extends_bind (run_extends suffix _ source) fun coded middle =>
        Coding.read_commands_extends suffix coded.1 _ _ _ _ _ middle out

namespace Stage

theorem read_extends (suffix : Bytes) (dictionary : Dictionary) (stage : Stage)
    (source : BitSource) (out : Array UInt8) :
    Extends suffix (stage.read dictionary source out)
      (stage.read dictionary (source.extend suffix) out) := by
  cases stage with
  | opening => exact extends_map _ (run_extends suffix _ source)
  | between window recent =>
      refine extends_bind (run_extends suffix _ source) fun header middle => ?_
      refine extends_bind (read_content_extends suffix _ _ _ _ _ _) fun (next, grown) last => ?_
      have padding : (last.extend suffix).isPadded = last.isPadded := rfl
      dsimp only
      rw [padding]
      split
      · exact .finished _ last
      · split
        · exact .finished _ last
        · exact .refused
  | ended => exact .finished (Stage.ended, out) source

theorem read_all_extends (suffix : Bytes) (dictionary : Dictionary) (stage : Stage)
    (source : BitSource) (out : Array UInt8) :
    Extends suffix (stage.readAll dictionary source out)
      (stage.readAll dictionary (source.extend suffix) out) := by
  fun_induction readAll dictionary stage source out with
  | case1 source out =>
      rw [read_all_ended]
      exact .finished out source
  | case2 stage source out more refused =>
      rw [read_all_eq more, extends_refused (read_extends suffix _ _ _ _) refused]
      exact .refused
  | case3 => exact .starved _
  | case4 stage source out more next grown rest read ih =>
      rw [read_all_eq more, extends_finished (read_extends suffix _ _ _ _) read]
      exact ih

end Stage

theorem decode_letter (dictionary : Dictionary) :
    decode dictionary [0x0b, 0x00, 0x80, 0x61, 0x03] = .ok [0x61] := by
  have window : Window.read.run (.ofBytes [0x0b, 0x00, 0x80, 0x61, 0x03]) =
      .finished (.ofBits 22) ⟨List.replicate 4 false, [0x00, 0x80, 0x61, 0x03]⟩ := rfl
  have header : Header.read.run ⟨List.replicate 4 false, [0x00, 0x80, 0x61, 0x03]⟩ =
      .finished ⟨false, .stored 1⟩ ⟨[], [0x61, 0x03]⟩ := rfl
  have letter : readContent dictionary (.ofBits 22) (.stored 1) .start ⟨[], [0x61, 0x03]⟩ #[] =
      .finished (.start, #[0x61]) ⟨[], [0x03]⟩ := rfl
  have stream := (read_all_step dictionary header letter rfl).trans
    (read_all_closing dictionary (.ofBits 22) .start #[0x61])
  rw [decode_eq, Stage.read_all_eq Stage.opening_ne_ended, Stage.read, window]
  simp only [Outcome.map, Outcome.bind, stream, finish, List.isEmpty_nil, if_pos]

variable {dictionary : Dictionary}

theorem decode_eq_ok {payload raw : Bytes} (decoded : decode dictionary payload = .ok raw) :
    ∃ out source, Stage.opening.readAll dictionary (.ofBytes payload) #[] = .finished out source ∧
      source.rest = [] := by
  rw [decode_eq] at decoded
  cases read : Stage.opening.readAll dictionary (.ofBytes payload) #[] with
  | refused => rw [read] at decoded; cases decoded
  | starved => rw [read] at decoded; cases decoded
  | finished out source =>
      rw [read, finish] at decoded
      split at decoded
      · rename_i used
        exact ⟨out, source, rfl, List.isEmpty_iff.mp used⟩
      · cases decoded

theorem decode_append {payload raw suffix : Bytes} (decoded : decode dictionary payload = .ok raw)
    (filled : suffix ≠ []) :
    decode dictionary (payload ++ suffix) = .error (.trailing suffix.length) := by
  obtain ⟨out, source, read, used⟩ := decode_eq_ok decoded
  have longer : Stage.opening.readAll dictionary (.ofBytes (payload ++ suffix)) #[] =
      .finished out (source.extend suffix) :=
    extends_finished (Stage.read_all_extends suffix _ _ (.ofBytes payload) _) read
  have left : (source.extend suffix).rest = suffix := by
    rw [BitSource.extend, used, List.nil_append]
  rw [decode_eq, longer, finish, left]
  exact if_neg fun empty => filled (List.isEmpty_iff.mp empty)

theorem decode_cut {cut missing raw : Bytes}
    (decoded : decode dictionary (cut ++ missing) = .ok raw) (filled : missing ≠ []) :
    decode dictionary cut = .error .truncated := by
  obtain ⟨out, source, whole, used⟩ := decode_eq_ok decoded
  have outcomes : Extends missing (Stage.opening.readAll dictionary (.ofBytes cut) #[])
      (.finished out source) := by
    rw [← whole]
    exact Stage.read_all_extends missing _ _ (.ofBytes cut) _
  rw [decode_eq]
  cases short : Stage.opening.readAll dictionary (.ofBytes cut) #[] with
  | refused => cases extends_refused outcomes short
  | starved => rfl
  | finished value left =>
      -- What such a run left unread would stand before what is missing, and all of that is read.
      cases extends_finished outcomes short
      exact absurd (List.append_eq_nil_iff.mp used).2 filled

end TaggedBlock.Brotli
