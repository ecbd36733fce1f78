import TaggedBlock.Bytes

set_option autoImplicit false

namespace TaggedBlock.Zstd

-- What is left of a payload, and how much of it has been read. The payload comes in chunks.
structure Source where
  position : Nat
  bytes : Bytes
deriving DecidableEq, Repr

namespace Source

def chunk : Nat := 131075

def start (payload : Bytes) : Source := ⟨0, payload⟩

def ahead (source : Source) : Nat := chunk - source.position % chunk

def skip (source : Source) (count : Nat) : Source :=
  ⟨source.position + count, source.bytes.drop count⟩

def split? (source : Source) (count : Nat) : Option (Bytes × Source) :=
  (splitBytes? count source.bytes).map fun (taken, rest) => (taken, ⟨source.position + count, rest⟩)

theorem split_eq_some {source rest : Source} {count : Nat} {taken : Bytes}
    (split : source.split? count = some (taken, rest)) :
    source.bytes = taken ++ rest.bytes ∧ taken.length = count ∧
      rest.position = source.position + count := by
  obtain ⟨⟨first, tail⟩, whole, same⟩ := Option.map_eq_some_iff.1 split
  cases same
  obtain ⟨joined, size⟩ := split_bytes_eq_some whole
  exact ⟨joined, size, rfl⟩

theorem length_split {source rest : Source} {count : Nat} {taken : Bytes}
    (split : source.split? count = some (taken, rest)) :
    rest.bytes.length + count = source.bytes.length := by
  obtain ⟨joined, size, _⟩ := split_eq_some split
  rw [joined, List.length_append, size, Nat.add_comm]

end Source

end TaggedBlock.Zstd
