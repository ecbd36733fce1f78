import TaggedBlock.Error

set_option autoImplicit false

namespace TaggedBlock

structure Registry where
  slots : Algorithm → Option Codec
  slots_none : slots .none = some .identity

namespace Registry

def empty : Registry := ⟨fun algorithm => if algorithm = .none then some .identity else none, rfl⟩

def contains (registry : Registry) (algorithm : Algorithm) : Bool :=
  (registry.slots algorithm).isSome

def insert (registry : Registry) (algorithm : Algorithm) (codec : Codec)
    (other : algorithm ≠ .none) : Registry :=
  ⟨fun asked => if asked = algorithm then some codec else registry.slots asked,
    by rw [if_neg (Ne.symm other)]; exact registry.slots_none⟩

theorem ne_none_of_free {registry : Registry} {algorithm : Algorithm}
    (free : registry.slots algorithm = none) : algorithm ≠ .none := by
  rintro rfl
  rw [registry.slots_none] at free
  cases free

def register (registry : Registry) (algorithm : Algorithm) (codec : Codec) :
    Except Error Registry :=
  match free : registry.slots algorithm with
  | some _ => .error (.duplicateAlgorithm algorithm)
  | none => .ok (registry.insert algorithm codec (ne_none_of_free free))

def tuned (level : Int32) (quality : UInt32) : Registry :=
  ((((empty.insert .snappy .snappy (by decide)).insert .lz4 .lz4 (by decide)).insert
    .zstd (.zstd level) (by decide)).insert .brotli (.brotli quality) (by decide)).insert
    .lzma .lzma (by decide)

def builtin : Registry := tuned Codec.usualLevel Codec.usualQuality

def resolve (registry : Registry) (algorithm : Algorithm) : Except Error Codec :=
  match registry.slots algorithm with
  | some codec => .ok codec
  | none => .error (.unknownAlgorithm algorithm)

def algorithms (registry : Registry) : List Algorithm :=
  ((List.range 256).map fun id => (⟨UInt8.ofNat id⟩ : Algorithm)).filter registry.contains

@[simp] theorem slots_insert (registry : Registry) (algorithm asked : Algorithm) (codec : Codec)
    (other : algorithm ≠ .none) :
    (registry.insert algorithm codec other).slots asked =
      if asked = algorithm then some codec else registry.slots asked := rfl

end Registry

end TaggedBlock
