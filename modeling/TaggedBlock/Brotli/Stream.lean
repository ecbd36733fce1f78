import TaggedBlock.Brotli.Command

set_option autoImplicit false

namespace TaggedBlock.Brotli

open BitReader

structure Window where
  reach : Nat
  distanceBits : Nat
deriving DecidableEq, Repr

namespace Window

def ofBits (bits : Nat) : Window := ⟨(1 <<< bits) - 16, 24⟩

def readLarge : BitReader Window := do
  let reserved ← bit
  require (!reserved)
  let bits ← number 6
  require (10 ≤ bits && bits ≤ 30)
  return ⟨(1 <<< bits) - 16, 62⟩

def read : BitReader Window := do
  if ← bit then
    let high ← number 3
    if high = 0 then
      let low ← number 3
      if low = 1 then readLarge
      else return ofBits (if low = 0 then 17 else 8 + low)
    else return ofBits (17 + high)
  else return ofBits 16

theorem left_read {source final : BitSource} {window : Window}
    (result : read.run source = .finished window final) : final.left < source.left :=
  left_run_ask result

def ring (window : Window) : Nat := window.reach + 16

end Window

def takeBytes (length : Nat) (source : BitSource) : Outcome Bytes :=
  if source.isPadded then
    match splitBytes? length source.rest with
    | none => .starved
    | some (bytes, rest) => .finished bytes (.ofBytes rest)
  else .refused

theorem left_take_bytes {length : Nat} {source final : BitSource} {bytes : Bytes}
    (taken : takeBytes length source = .finished bytes final) : final.left ≤ source.left := by
  unfold takeBytes at taken
  split at taken
  · split at taken
    · cases taken
    · rename_i split
      cases taken
      have shorter := length_split_bytes split
      simp only [BitSource.left, BitSource.ofBytes, List.length_nil]
      omega
  · cases taken

def readContent (dictionary : Dictionary) (window : Window) (content : Content) (recent : Recent)
    (source : BitSource) (out : Array UInt8) : Outcome (Recent × Array UInt8) :=
  match content with
  | .nothing => .finished (recent, out) source
  | .metadata length => (takeBytes length source).map fun _ => (recent, out)
  | .stored length => (takeBytes length source).map fun (bytes : Bytes) => (recent, out ++ bytes)
  | .coded length =>
    ((Coding.read window.distanceBits).run source).bind fun (coding, cursor) source =>
      coding.readCommands dictionary window.reach length cursor recent source out

theorem left_read_content {dictionary : Dictionary} {window : Window} {content : Content}
    {recent : Recent} {source final : BitSource} {out : Array UInt8} {result : Recent × Array UInt8}
    (read : readContent dictionary window content recent source out = .finished result final) :
    final.left ≤ source.left := by
  cases content with
  | nothing => cases read; exact Nat.le_refl _
  | metadata length =>
    obtain ⟨bytes, taken, same⟩ := Outcome.map_eq_finished read
    exact left_take_bytes taken
  | stored length =>
    obtain ⟨bytes, taken, same⟩ := Outcome.map_eq_finished read
    exact left_take_bytes taken
  | coded length =>
    obtain ⟨coding, middle, first, rest⟩ := Outcome.bind_eq_finished read
    exact Nat.le_trans (Coding.left_read_commands rest) (left_run first)

inductive Stage where
  | opening
  | between (window : Window) (recent : Recent)
  | ended
deriving DecidableEq, Repr

namespace Stage

-- Reads the window or a meta-block. After the last one the rest of the byte has to be zero.
def read (dictionary : Dictionary) (stage : Stage) (source : BitSource) (out : Array UInt8) :
    Outcome (Stage × Array UInt8) :=
  match stage with
  | .opening => (Window.read.run source).map fun (window : Window) => (.between window .start, out)
  | .between window recent =>
    (Header.read.run source).bind fun header source =>
      (readContent dictionary window header.content recent source out).bind
        fun (recent, out) source =>
          if !header.isLast then .finished (.between window recent, out) source
          else if source.isPadded then .finished (.ended, out) source
          else .refused
  | .ended => .finished (.ended, out) source

theorem left_read {dictionary : Dictionary} {stage : Stage} {source final : BitSource}
    {out : Array UInt8} {result : Stage × Array UInt8}
    (read : stage.read dictionary source out = .finished result final) (more : stage ≠ .ended) :
    final.left < source.left := by
  cases stage with
  | opening =>
    obtain ⟨window, first, same⟩ := Outcome.map_eq_finished read
    exact Window.left_read first
  | between window recent =>
    obtain ⟨header, middle, first, read⟩ := Outcome.bind_eq_finished read
    obtain ⟨⟨recent, out⟩, last, content, read⟩ := Outcome.bind_eq_finished read
    have behindHeader := Header.left_read first
    have behindContent := left_read_content content
    dsimp only at read
    split at read
    · cases read
      omega
    · split at read
      · cases read
        omega
      · cases read
  | ended => exact absurd rfl more

def isFull (stage : Stage) (waiting : Nat) : Bool :=
  match stage with
  | .opening => false
  | .between window _ => window.ring ≤ waiting
  | .ended => true

end Stage

structure Stream where
  stage : Stage
  source : BitSource
  out : Array UInt8
  given : Nat

namespace Stream

def ofBytes (payload : Bytes) : Stream := ⟨.opening, .ofBytes payload, #[], 0⟩

inductive Answer where
  | success (stream : Stream)
  | moreOutput (stream : Stream)
  | moreInput
  | failure

def isDue (stream : Stream) : Bool := stream.stage.isFull (stream.out.size - stream.given)

def settled (stream : Stream) : Nat := if stream.isDue then stream.out.size else stream.given

-- Reads on while the caller's chunk, which ends at `limit`, takes what is due.
def call (dictionary : Dictionary) (limit : Nat) (stream : Stream) : Answer :=
  if stream.isDue ∧ limit < stream.out.size then .moreOutput { stream with given := limit }
  else
    let given := stream.settled
    if stream.stage = .ended then .success { stream with given }
    else
      match _ : stream.stage.read dictionary stream.source stream.out with
      | .refused => .failure
      | .starved => .moreInput
      | .finished (stage, out) source => call dictionary limit ⟨stage, source, out, given⟩
termination_by stream.source.left
decreasing_by exact Stage.left_read ‹_› ‹_›

theorem call_more_output {dictionary : Dictionary} {limit : Nat} {stream next : Stream}
    (called : stream.call dictionary limit = .moreOutput next) :
    next.source.left < stream.source.left ∨
      (limit < stream.out.size ∧ next = { stream with given := limit }) := by
  fun_induction call dictionary limit stream with
  | case1 stream due =>
    cases called
    exact Or.inr ⟨due.2, rfl⟩
  | case2 => cases called
  | case3 => cases called
  | case4 => cases called
  | case5 stream room given more stage out source read ih =>
    have onward := Stage.left_read read more
    obtain onward' | ⟨-, rfl⟩ := ih called
    · exact Or.inl (Nat.lt_trans onward' onward)
    · exact Or.inl onward

end Stream

end TaggedBlock.Brotli
