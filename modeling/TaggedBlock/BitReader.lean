import TaggedBlock.Bytes

set_option autoImplicit false

namespace TaggedBlock

def lowFirst (byte : UInt8) : List Bool := [0, 1, 2, 3, 4, 5, 6, 7].map byte.toNat.testBit

-- The unread bits of the byte that is being read, then the bytes after it.
structure BitSource where
  pending : List Bool
  rest : Bytes
deriving DecidableEq, Repr

namespace BitSource

def ofBytes (bytes : Bytes) : BitSource := ⟨[], bytes⟩

def left (source : BitSource) : Nat := source.pending.length + 8 * source.rest.length

def next? (source : BitSource) : Option (Bool × BitSource) :=
  match source.pending, source.rest with
  | bit :: pending, rest => some (bit, ⟨pending, rest⟩)
  | [], byte :: rest =>
    match lowFirst byte with
    | bit :: pending => some (bit, ⟨pending, rest⟩)
    | [] => none
  | [], [] => none

theorem left_next {source next : BitSource} {bit : Bool} (read : source.next? = some (bit, next)) :
    next.left + 1 = source.left := by
  obtain ⟨pending, rest⟩ := source
  cases pending with
  | cons head tail =>
    cases read
    simp only [left, List.length_cons]
    omega
  | nil =>
    cases rest with
    | nil => cases read
    | cons byte rest =>
      cases read
      simp only [left, List.length_cons, List.length_nil, List.map_cons, List.map_nil]
      omega

def isPadded (source : BitSource) : Bool := source.pending.all (! ·)

end BitSource

inductive BitReader (α : Type) where
  | done (value : α)
  | refuse
  | ask (next : Bool → BitReader α)

namespace BitReader

inductive Outcome (α : Type) where
  | finished (value : α) (source : BitSource)
  | refused
  | starved

def Outcome.map {α β : Type} (f : α → β) : Outcome α → Outcome β
  | .finished value source => .finished (f value) source
  | .refused => .refused
  | .starved => .starved

theorem Outcome.map_eq_finished {α β : Type} {f : α → β} {outcome : Outcome α} {value : β}
    {source : BitSource} (mapped : outcome.map f = .finished value source) :
    ∃ inner, outcome = .finished inner source ∧ f inner = value := by
  cases outcome with
  | finished inner => cases mapped; exact ⟨inner, rfl, rfl⟩
  | refused => cases mapped
  | starved => cases mapped

@[inline] def Outcome.bind {α β : Type} (outcome : Outcome α) (next : α → BitSource → Outcome β) :
    Outcome β :=
  match outcome with
  | .finished value source => next value source
  | .refused => .refused
  | .starved => .starved

theorem Outcome.bind_eq_finished {α β : Type} {outcome : Outcome α}
    {next : α → BitSource → Outcome β} {value : β} {last : BitSource}
    (bound : outcome.bind next = .finished value last) :
    ∃ inner middle, outcome = .finished inner middle ∧ next inner middle = .finished value last := by
  cases outcome with
  | finished inner middle => exact ⟨inner, middle, rfl, bound⟩
  | refused => cases bound
  | starved => cases bound

def bind {α β : Type} : BitReader α → (α → BitReader β) → BitReader β
  | .done value, continue' => continue' value
  | .refuse, _ => .refuse
  | .ask next, continue' => .ask fun bit => (next bit).bind continue'

instance : Monad BitReader where
  pure := .done
  bind := bind

def run {α : Type} : BitReader α → BitSource → Outcome α
  | .done value, source => .finished value source
  | .refuse, _ => .refused
  | .ask next, source =>
    match source.next? with
    | none => .starved
    | some (bit, source) => (next bit).run source

theorem left_run {α : Type} {reader : BitReader α} {source final : BitSource} {value : α}
    (result : reader.run source = .finished value final) : final.left ≤ source.left := by
  induction reader generalizing source with
  | done => cases result; exact Nat.le_refl _
  | refuse => cases result
  | ask next ih =>
    simp only [run] at result
    split at result
    · cases result
    · rename_i first
      have behind := ih _ result
      have step := BitSource.left_next first
      omega

theorem left_run_ask {α : Type} {next : Bool → BitReader α} {source final : BitSource} {value : α}
    (result : (ask next).run source = .finished value final) : final.left < source.left := by
  simp only [run] at result
  split at result
  · cases result
  · rename_i first
    have behind := left_run result
    have step := BitSource.left_next first
    omega

def bit : BitReader Bool := .ask .done

def numberFrom (weight sum : Nat) : (bits : Nat) → BitReader Nat
  | 0 => .done sum
  | bits + 1 => .ask fun bit => numberFrom (2 * weight) (sum + bit.toNat * weight) bits

def number (bits : Nat) : BitReader Nat := numberFrom 1 0 bits

def require (condition : Bool) : BitReader Unit := if condition then .done () else .refuse

def timesAfter {α : Type} (reader : BitReader α) (before : List α) : (count : Nat) →
    BitReader (List α)
  | 0 => .done before.reverse
  | count + 1 => reader.bind fun value => timesAfter reader (value :: before) count

def times {α : Type} (reader : BitReader α) (count : Nat) : BitReader (List α) :=
  timesAfter reader [] count

end BitReader

end TaggedBlock
