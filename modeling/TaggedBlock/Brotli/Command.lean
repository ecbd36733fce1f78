import TaggedBlock.Brotli.Dictionary
import TaggedBlock.Brotli.MetaBlock

set_option autoImplicit false

namespace TaggedBlock.Brotli

open BitReader

structure Command where
  insert : Nat
  beyond : Nat
  again : Bool
deriving DecidableEq, Repr

namespace Command

def shortestCopy : Nat := 2

def length (command : Command) : Nat := command.beyond + shortestCopy

def insertSteps : Array Step :=
  (ladder 0 [0, 0, 0, 0, 0, 0, 1, 1, 2, 2, 3, 3, 4, 4, 5, 5, 6, 7, 8, 9, 10, 12, 14, 24]).toArray

def beyondSteps : Array Step :=
  (ladder 0 [0, 0, 0, 0, 0, 0, 0, 0, 1, 1, 2, 2, 3, 3, 4, 4, 5, 5, 6, 7, 8, 9, 10, 24]).toArray

def groups : Array (Nat × Nat) :=
  #[(0, 0), (0, 8), (0, 0), (0, 8), (8, 0), (8, 8), (0, 16), (16, 0), (8, 16), (16, 8), (16, 16)]

def againBelow : Nat := 128

def ofSymbol (symbol : Nat) : BitReader Command := do
  let (insertBase, beyondBase) := groups[symbol / 64]?.getD (0, 0)
  let insertCode := insertBase + symbol / 8 % 8
  let beyondCode := beyondBase + symbol % 8
  let insert ← readStep insertSteps insertCode
  let beyond ← readStep beyondSteps beyondCode
  return ⟨insert, beyond, symbol < againBelow⟩

end Command

structure Recent where
  first : Nat
  second : Nat
  third : Nat
  fourth : Nat
deriving DecidableEq, Repr

namespace Recent

def start : Recent := ⟨4, 11, 15, 16⟩

def push (recent : Recent) (distance : Nat) : Recent :=
  ⟨distance, recent.first, recent.second, recent.third⟩

def distance (recent : Recent) (symbol : Nat) : Nat :=
  match symbol with
  | 0 => recent.first
  | 1 => recent.second
  | 2 => recent.third
  | 3 => recent.fourth
  | symbol =>
    let base := if symbol < 10 then recent.first else recent.second
    let turn := (symbol - 4) % 6
    if turn % 2 = 0 then base - (turn / 2 + 1) else base + (turn / 2 + 1)

end Recent

namespace Coding

def readCommand (coding : Coding) (cursor : Cursor) : BitReader (Cursor × Command) := do
  let commands ← cursor.commands.advance
  match coding.commandCodes[commands.current]? with
  | none => .refuse
  | some code =>
    let symbol ← code.reader
    let command ← Command.ofSymbol symbol
    return ({ cursor with commands }, command)

def readLiteral (coding : Coding) (cursor : Cursor) (last before : UInt8) :
    BitReader (Cursor × UInt8) := do
  let literals ← cursor.literals.advance
  let mode := coding.modes[literals.current]?.getD .low
  let context := mode.context last before
  let index := coding.literalMap[literals.current * literalContexts + context]?.getD 0
  match coding.literalCodes[index]? with
  | none => .refuse
  | some code =>
    let symbol ← code.reader
    return ({ cursor with literals }, UInt8.ofNat symbol)

def readFar (coding : Coding) (symbol : Nat) : BitReader Nat := do
  let scale := 1 <<< coding.postfixBits
  let low := symbol % scale
  let step := symbol / scale
  let bits := step / 2 + 1
  let middle ← number bits
  let high := ((2 + step % 2) <<< bits) - 4 + middle
  return coding.direct + high * scale + low + 1

def readDistance (coding : Coding) (cursor : Cursor) (recent : Recent) (length : Nat) :
    BitReader (Cursor × Nat × Recent) := do
  let distances ← cursor.distances.advance
  let context := distanceContext length
  let index := coding.distanceMap[distances.current * distanceContexts + context]?.getD 0
  match coding.distanceCodes[index]? with
  | none => .refuse
  | some code =>
    let symbol ← code.reader
    let cursor := { cursor with distances }
    if symbol = 0 then return (cursor, recent.first, recent)
    let distance ←
      if symbol < recentSymbols then pure (recent.distance symbol)
      else if symbol < recentSymbols + coding.direct then pure (symbol - recentSymbols + 1)
      else coding.readFar (symbol - recentSymbols - coding.direct)
    return (cursor, distance, recent.push distance)

def distanceOf (coding : Coding) (command : Command) (cursor : Cursor) (recent : Recent) :
    BitReader (Cursor × Nat × Recent) :=
  if command.again then .done (cursor, recent.first, recent)
  else coding.readDistance cursor recent command.length

def readLiterals (coding : Coding) : (count : Nat) → Cursor → BitSource → Array UInt8 →
    Outcome (Cursor × Array UInt8)
  | 0, cursor, source, out => .finished (cursor, out) source
  | count + 1, cursor, source, out =>
    let last := out[out.size - 1]?.getD 0
    let before := if out.size < 2 then 0 else out[out.size - 2]?.getD 0
    ((coding.readLiteral cursor last before).run source).bind fun (cursor, byte) source =>
      coding.readLiterals count cursor source (out.push byte)

theorem left_read_literals {coding : Coding} {count : Nat} {cursor : Cursor}
    {source final : BitSource} {out : Array UInt8} {result : Cursor × Array UInt8}
    (read : coding.readLiterals count cursor source out = .finished result final) :
    final.left ≤ source.left := by
  induction count generalizing cursor source out with
  | zero => cases read; exact Nat.le_refl _
  | succ count ih =>
    obtain ⟨literal, middle, first, rest⟩ := Outcome.bind_eq_finished read
    exact Nat.le_trans (ih rest) (left_run first)

-- A distance beyond the text or the window is an address in the dictionary, and does not become
-- recent.
def copy? (dictionary : Dictionary) (window length distance : Nat) (recent later : Recent)
    (out : Array UInt8) : Option (Recent × Array UInt8) :=
  let reach := min window out.size
  if within : 0 < distance ∧ distance ≤ reach then
    some (later, copyBack out distance length ⟨within.1, by omega⟩)
  else if distance = 0 then none
  else
    (dictionary.word? length (distance - reach - 1)).map fun (word : Bytes) => (recent, out ++ word)

-- A command that may make `remaining` more bytes. One with more literals than that is refused before
-- any of them is read, and the last one may do without its copy.
def takeCommand (coding : Coding) (dictionary : Dictionary) (window remaining : Nat)
    (cursor : Cursor) (recent : Recent) (source : BitSource) (out : Array UInt8) :
    Outcome (Cursor × Recent × Array UInt8) :=
  ((coding.readCommand cursor).run source).bind fun (cursor, command) source =>
    if remaining < command.insert then .refused
    else
      (coding.readLiterals command.insert cursor source out).bind fun (cursor, out) source =>
        if command.insert = remaining then .finished (cursor, recent, out) source
        else
          ((coding.distanceOf command cursor recent).run source).bind
            fun (cursor, distance, later) source =>
              match copy? dictionary window command.length distance recent later out with
              | none => .refused
              | some (recent, out) => .finished (cursor, recent, out) source

theorem take_command_eq_finished {coding : Coding} {dictionary : Dictionary}
    {window remaining : Nat} {cursor : Cursor} {recent : Recent} {source last : BitSource}
    {out : Array UInt8} {result : Cursor × Recent × Array UInt8}
    (taken : coding.takeCommand dictionary window remaining cursor recent source out =
      .finished result last) :
    ∃ begun command behind inserted text middle,
      (coding.readCommand cursor).run source = .finished (begun, command) behind ∧
      coding.readLiterals command.insert begun behind out = .finished (inserted, text) middle ∧
      ((result = (inserted, recent, text) ∧ last = middle) ∨
        ∃ copied distance later,
          (coding.distanceOf command inserted recent).run middle =
            .finished (copied, distance, later) last ∧
          copy? dictionary window command.length distance recent later text = some result.2) := by
  obtain ⟨⟨begun, command⟩, behind, first, taken⟩ := Outcome.bind_eq_finished taken
  dsimp only at taken
  split at taken
  · cases taken
  obtain ⟨⟨inserted, text⟩, middle, second, taken⟩ := Outcome.bind_eq_finished taken
  refine ⟨begun, command, behind, inserted, text, middle, first, second, ?_⟩
  dsimp only at taken
  split at taken
  · cases taken
    exact Or.inl ⟨rfl, rfl⟩
  obtain ⟨⟨copied, distance, later⟩, behindDistance, third, taken⟩ := Outcome.bind_eq_finished taken
  dsimp only at taken
  split at taken
  · cases taken
  · rename_i copy
    cases taken
    exact Or.inr ⟨copied, distance, later, third, copy⟩

theorem left_take_command {coding : Coding} {dictionary : Dictionary} {window remaining : Nat}
    {cursor : Cursor} {recent : Recent} {source last : BitSource} {out : Array UInt8}
    {result : Cursor × Recent × Array UInt8}
    (taken : coding.takeCommand dictionary window remaining cursor recent source out =
      .finished result last) : last.left ≤ source.left := by
  obtain ⟨begun, command, behind, inserted, text, middle, first, second, third⟩ :=
    take_command_eq_finished taken
  have begins := left_run first
  have inserts := left_read_literals second
  obtain ⟨-, rfl⟩ | ⟨copied, distance, later, found, -⟩ := third
  · omega
  · have finds := left_run found
    omega

def stalls (made : Nat) (source next : BitSource) (cursor after : Cursor) : Bool :=
  made = 0 ∧ source.left ≤ next.left ∧ (next.left = source.left → cursor.left ≤ after.left)

-- Takes commands until `remaining` more bytes are out. One that stalls would come again for ever.
def readCommands (coding : Coding) (dictionary : Dictionary) (window remaining : Nat)
    (cursor : Cursor) (recent : Recent) (source : BitSource) (out : Array UInt8) :
    Outcome (Recent × Array UInt8) :=
  match coding.takeCommand dictionary window remaining cursor recent source out with
  | .refused => .refused
  | .starved => .starved
  | .finished (after, recent, grown) next =>
    let made := grown.size - out.size
    if remaining < made then .refused
    else if made = remaining then .finished (recent, grown) next
    else if stalls made source next cursor after then .refused
    else coding.readCommands dictionary window (remaining - made) after recent next grown
termination_by (remaining, source.left, cursor.left)
decreasing_by
  simp only [stalls, decide_eq_true_eq, Prod.lex_def] at *
  omega

theorem left_read_commands {coding : Coding} {dictionary : Dictionary} {window remaining : Nat}
    {cursor : Cursor} {recent : Recent} {source final : BitSource} {out : Array UInt8}
    {result : Recent × Array UInt8}
    (read : coding.readCommands dictionary window remaining cursor recent source out =
      .finished result final) : final.left ≤ source.left := by
  fun_induction readCommands coding dictionary window remaining cursor recent source out with
  | case1 => cases read
  | case2 => cases read
  | case3 => cases read
  | case4 cursor recent source out after later grown next made taken fits =>
    cases read
    exact left_take_command taken
  | case5 => cases read
  | case6 remaining cursor recent source out after later grown next taken made fits more moves ih =>
    exact Nat.le_trans (ih read) (left_take_command taken)

end Coding

end TaggedBlock.Brotli
