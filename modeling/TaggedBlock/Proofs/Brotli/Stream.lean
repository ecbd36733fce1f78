import TaggedBlock.Brotli
import TaggedBlock.Proofs.BitReader

set_option autoImplicit false

namespace TaggedBlock.Brotli

open BitReader BitReader.Outcome

theorem copy_back_grows (out : Array UInt8) (distance length : Nat)
    (within : 0 < distance ∧ distance ≤ out.size) :
    out.toList <+: (copyBack out distance length within).toList := by
  induction length generalizing out with
  | zero => exact List.prefix_rfl
  | succ length ih =>
      refine List.IsPrefix.trans ?_ (ih _ _)
      rw [Array.toList_push]
      exact List.prefix_append _ _

namespace Coding

theorem read_literals_grows {coding : Coding} {count : Nat} {cursor : Cursor}
    {source last : BitSource} {out : Array UInt8} {result : Cursor × Array UInt8}
    (read : coding.readLiterals count cursor source out = .finished result last) :
    out.toList <+: result.2.toList := by
  induction count generalizing cursor source out with
  | zero =>
      cases read
      exact List.prefix_rfl
  | succ count ih =>
      obtain ⟨⟨after, byte⟩, middle, first, rest⟩ := Outcome.bind_eq_finished read
      refine List.IsPrefix.trans ?_ (ih rest)
      rw [Array.toList_push]
      exact List.prefix_append _ _

theorem copy_grows {dictionary : Dictionary} {window length distance : Nat} {recent later : Recent}
    {out : Array UInt8} {result : Recent × Array UInt8}
    (copied : copy? dictionary window length distance recent later out = some result) :
    out.toList <+: result.2.toList := by
  unfold copy? at copied
  dsimp only at copied
  split at copied
  · cases copied
    exact copy_back_grows out distance length _
  · split at copied
    · cases copied
    · obtain ⟨word, found, same⟩ := Option.map_eq_some_iff.mp copied
      rw [← same, Array.toList_appendList]
      exact List.prefix_append _ _

theorem take_command_grows {coding : Coding} {dictionary : Dictionary} {window remaining : Nat}
    {cursor : Cursor} {recent : Recent} {source last : BitSource} {out : Array UInt8}
    {result : Cursor × Recent × Array UInt8}
    (taken : coding.takeCommand dictionary window remaining cursor recent source out =
      .finished result last) : out.toList <+: result.2.2.toList := by
  obtain ⟨begun, command, behind, inserted, text, middle, -, second, third⟩ :=
    take_command_eq_finished taken
  have inserting := read_literals_grows second
  obtain ⟨rfl, -⟩ | ⟨copied, distance, later, -, copy⟩ := third
  · exact inserting
  · exact inserting.trans (copy_grows copy)

theorem read_commands_grows {coding : Coding} {dictionary : Dictionary} {window remaining : Nat}
    {cursor : Cursor} {recent : Recent} {source last : BitSource} {out : Array UInt8}
    {result : Recent × Array UInt8}
    (read : coding.readCommands dictionary window remaining cursor recent source out =
      .finished result last) : out.toList <+: result.2.toList := by
  fun_induction readCommands coding dictionary window remaining cursor recent source out with
  | case1 => cases read
  | case2 => cases read
  | case3 => cases read
  | case4 cursor recent source out after later grown next made taken fits =>
      cases read
      exact take_command_grows taken
  | case5 => cases read
  | case6 remaining cursor recent source out after later grown next taken made fits more moves ih =>
      exact (take_command_grows taken).trans (ih read)

end Coding

theorem read_content_grows {dictionary : Dictionary} {window : Window} {content : Content}
    {recent : Recent} {source last : BitSource} {out : Array UInt8} {result : Recent × Array UInt8}
    (read : readContent dictionary window content recent source out = .finished result last) :
    out.toList <+: result.2.toList := by
  cases content with
  | nothing =>
      cases read
      exact List.prefix_rfl
  | metadata length =>
      obtain ⟨bytes, taken, same⟩ := Outcome.map_eq_finished read
      cases same
      exact List.prefix_rfl
  | stored length =>
      obtain ⟨bytes, taken, same⟩ := Outcome.map_eq_finished read
      rw [← same, Array.toList_appendList]
      exact List.prefix_append _ _
  | coded length =>
      obtain ⟨⟨coding, cursor⟩, middle, first, rest⟩ := Outcome.bind_eq_finished read
      exact Coding.read_commands_grows rest

namespace Stage

theorem read_grows {dictionary : Dictionary} {stage : Stage} {source last : BitSource}
    {out : Array UInt8} {result : Stage × Array UInt8}
    (read : stage.read dictionary source out = .finished result last) :
    out.toList <+: result.2.toList := by
  cases stage with
  | opening =>
      obtain ⟨window, first, same⟩ := Outcome.map_eq_finished read
      cases same
      exact List.prefix_rfl
  | between window recent =>
      obtain ⟨header, middle, first, read⟩ := Outcome.bind_eq_finished read
      obtain ⟨⟨recent, grown⟩, behind, content, read⟩ := Outcome.bind_eq_finished read
      have growing := read_content_grows content
      dsimp only at read growing
      split at read
      · cases read
        exact growing
      · split at read
        · cases read
          exact growing
        · cases read
  | ended =>
      cases read
      exact List.prefix_rfl

-- The whole stream at once, for a caller with room for all of its text.
def readAll (dictionary : Dictionary) (stage : Stage) (source : BitSource) (out : Array UInt8) :
    Outcome (Array UInt8) :=
  if stage = .ended then .finished out source
  else
    match _ : stage.read dictionary source out with
    | .refused => .refused
    | .starved => .starved
    | .finished (next, grown) rest => next.readAll dictionary rest grown
termination_by source.left
decreasing_by exact left_read ‹_› ‹_›

theorem read_all_ended (dictionary : Dictionary) (source : BitSource) (out : Array UInt8) :
    Stage.ended.readAll dictionary source out = .finished out source := by
  rw [readAll, if_pos rfl]

theorem read_all_eq {dictionary : Dictionary} {stage : Stage} {source : BitSource}
    {out : Array UInt8} (more : stage ≠ .ended) :
    stage.readAll dictionary source out =
      (stage.read dictionary source out).bind fun result rest =>
        result.1.readAll dictionary rest result.2 := by
  rw [readAll, if_neg more]
  split
  · rename_i refused
    rw [refused]
    rfl
  · rename_i starved
    rw [starved]
    rfl
  · rename_i read
    rw [read]
    rfl

theorem opening_ne_ended : Stage.opening ≠ .ended := fun same => nomatch same

theorem between_ne_ended (window : Window) (recent : Recent) :
    Stage.between window recent ≠ .ended := fun same => nomatch same

end Stage

namespace Stream

def readAll (dictionary : Dictionary) (stream : Stream) : Outcome (Array UInt8) :=
  stream.stage.readAll dictionary stream.source stream.out

inductive Answers (dictionary : Dictionary) (stream : Stream) : Answer → Prop where
  | success (last : Stream) (whole : stream.readAll dictionary = .finished last.out last.source)
      (grows : stream.out.toList <+: last.out.toList) (onward : stream.given ≤ last.given)
      (given : last.given = last.out.size) : Answers dictionary stream (.success last)
  | moreOutput (next : Stream) (same : stream.readAll dictionary = next.readAll dictionary)
      (grows : stream.out.toList <+: next.out.toList) (onward : stream.given ≤ next.given)
      (held : next.given ≤ next.out.size) : Answers dictionary stream (.moreOutput next)
  | moreInput (whole : stream.readAll dictionary = .starved) : Answers dictionary stream .moreInput
  | failure (whole : stream.readAll dictionary = .refused) : Answers dictionary stream .failure

theorem answers_before {dictionary : Dictionary} {stream next : Stream} {answer : Answer}
    (same : stream.readAll dictionary = next.readAll dictionary)
    (grows : stream.out.toList <+: next.out.toList) (onward : stream.given ≤ next.given)
    (answers : Answers dictionary next answer) : Answers dictionary stream answer := by
  cases answers with
  | success last whole growing further given =>
      exact .success last (same.trans whole) (grows.trans growing) (Nat.le_trans onward further) given
  | moreOutput last whole growing further held =>
      exact .moreOutput last (same.trans whole) (grows.trans growing) (Nat.le_trans onward further)
        held
  | moreInput whole => exact .moreInput (same.trans whole)
  | failure whole => exact .failure (same.trans whole)

theorem settled_bounds {limit : Nat} {stream : Stream}
    (room : ¬(stream.isDue = true ∧ limit < stream.out.size))
    (held : stream.given ≤ stream.out.size) (begun : stream.given ≤ limit) :
    stream.given ≤ stream.settled ∧ stream.settled ≤ stream.out.size ∧ stream.settled ≤ limit := by
  unfold settled
  by_cases due : stream.isDue = true
  · have fits : ¬limit < stream.out.size := fun less => room ⟨due, less⟩
    rw [if_pos due]
    omega
  · rw [if_neg due]
    omega

theorem call_answers (dictionary : Dictionary) (limit : Nat) (stream : Stream)
    (held : stream.given ≤ stream.out.size) (begun : stream.given ≤ limit) :
    Answers dictionary stream (stream.call dictionary limit) := by
  fun_induction call dictionary limit stream with
  | case1 stream due =>
      exact .moreOutput _ rfl List.prefix_rfl begun (Nat.le_of_lt due.2)
  | case2 stream room given ended =>
      have due : stream.isDue = true := by rw [isDue, ended, Stage.isFull]
      have whole : stream.readAll dictionary = .finished stream.out stream.source := by
        rw [readAll, ended, Stage.read_all_ended]
      exact .success _ whole List.prefix_rfl (settled_bounds room held begun).1 (if_pos due)
  | case3 stream room more refused =>
      refine .failure ?_
      rw [readAll, Stage.read_all_eq more, refused]
      rfl
  | case4 stream room more starved =>
      refine .moreInput ?_
      rw [readAll, Stage.read_all_eq more, starved]
      rfl
  | case5 stream room given more stage out source read ih =>
      obtain ⟨onward, inside, fits⟩ := settled_bounds room held begun
      have grows := Stage.read_grows read
      have same : stream.readAll dictionary =
          readAll dictionary ⟨stage, source, out, given⟩ := by
        rw [readAll, Stage.read_all_eq more, read]
        rfl
      exact answers_before same grows onward (ih (Nat.le_trans inside grows.length_le) fits)

theorem answers_of_call {dictionary : Dictionary} {stream : Stream} {answer : Answer}
    (held : stream.given ≤ stream.out.size)
    (called : stream.call dictionary (stream.given + chunkSize) = answer) :
    Answers dictionary stream answer := by
  rw [← called]
  exact call_answers dictionary _ stream held (Nat.le_add_right _ chunkSize)

end Stream

def finish : Outcome (Array UInt8) → Except Error Bytes
  | .refused => .error .invalid
  | .starved => .error .truncated
  | .finished out source =>
    if source.rest.isEmpty then .ok out.toList else .error (.trailing source.rest.length)

theorem extract_append_extract {out grown : Array UInt8} {first second : Nat}
    (grows : out.toList <+: grown.toList) (inside : first ≤ out.size) (onward : first ≤ second) :
    out.extract 0 first ++ grown.extract first second = grown.extract 0 second := by
  obtain ⟨more, whole⟩ := grows
  have longer : grown = out ++ more := Array.ext' (by rw [← whole, Array.toList_appendList])
  have same : out.extract 0 first = grown.extract 0 first := by
    refine Array.ext' ?_
    rw [longer, Array.toList_extract, Array.toList_extract, Array.toList_appendList,
      List.extract_eq_take_drop, List.extract_eq_take_drop, List.drop_zero, List.drop_zero,
      Nat.sub_zero, List.take_append_of_le_length inside]
  rw [same, Array.extract_append_extract, Nat.min_eq_left (Nat.zero_le _), Nat.max_eq_right onward]

-- Text that is taken out by the chunk is the text that is read at once.
theorem drain_eq (dictionary : Dictionary) (stream : Stream) (text : Array UInt8)
    (held : stream.given ≤ stream.out.size) (taken : text = stream.out.extract 0 stream.given) :
    drain dictionary stream text = finish (stream.readAll dictionary) := by
  fun_induction drain dictionary stream text with
  | case1 stream text last called used =>
      cases Stream.answers_of_call held called with
      | success _ whole grows onward given =>
          rw [whole, finish, if_pos used, taken, extract_append_extract grows held onward, given,
            Array.extract_size]
  | case2 stream text last called unused =>
      cases Stream.answers_of_call held called with
      | success _ whole => rw [whole, finish, if_neg unused]
  | case3 stream text next called ih =>
      cases Stream.answers_of_call held called with
      | moreOutput _ same grows onward still =>
          rw [same]
          exact ih still (by rw [taken, extract_append_extract grows held onward])
  | case4 stream text called =>
      cases Stream.answers_of_call held called with
      | moreInput whole => rw [whole, finish]
  | case5 stream text called =>
      cases Stream.answers_of_call held called with
      | failure whole => rw [whole, finish]

theorem decode_eq (dictionary : Dictionary) (payload : Bytes) :
    decode dictionary payload =
      finish (Stage.opening.readAll dictionary (.ofBytes payload) #[]) :=
  drain_eq dictionary (.ofBytes payload) #[] (Nat.le_refl 0) rfl

end TaggedBlock.Brotli
