import TaggedBlock.Phrase

set_option autoImplicit false

namespace TaggedBlock.Lz4

def full : Nat := 15

def shortestCopy : Nat := 4

def extension (excess : Nat) : Bytes :=
  List.replicate (excess / 255) 255 ++ [UInt8.ofNat (excess % 255)]

def lengthTail (length : Nat) : Bytes := if length < full then [] else extension (length - full)

def token (fresh copied : Nat) : UInt8 := UInt8.ofNat (16 * min full fresh + min full copied)

def renderPhrase (phrase : Phrase) : Bytes :=
  let copied := phrase.length - shortestCopy
  token phrase.fresh.length copied :: lengthTail phrase.fresh.length ++ phrase.fresh ++
    littleEndianDigits 2 phrase.distance ++ lengthTail copied

def renderTail (tail : Bytes) : Bytes := token tail.length 0 :: lengthTail tail.length ++ tail

def render (phrasing : Phrasing) : Bytes :=
  phrasing.phrases.flatMap renderPhrase ++ renderTail phrasing.tail

def readExtension? : Bytes → Option (Nat × Bytes)
  | [] => none
  | byte :: rest =>
    if byte = 255 then (readExtension? rest).map fun (excess, rest) => (255 + excess, rest)
    else some (byte.toNat, rest)

def readLength? (half : Nat) (source : Bytes) : Option (Nat × Bytes) :=
  if half = full then (readExtension? source).map fun (excess, rest) => (full + excess, rest)
  else some (half, source)

theorem length_read_extension {source rest : Bytes} {excess : Nat}
    (read : readExtension? source = some (excess, rest)) : rest.length ≤ source.length := by
  induction source generalizing excess with
  | nil => cases read
  | cons byte source ih =>
    simp only [readExtension?] at read
    split at read
    · obtain ⟨⟨lower, tail⟩, inner, same⟩ := Option.map_eq_some_iff.1 read
      cases same
      exact Nat.le_trans (ih inner) (Nat.le_succ _)
    · cases read
      exact Nat.le_succ _

theorem length_read_length {half length : Nat} {source rest : Bytes}
    (read : readLength? half source = some (length, rest)) : rest.length ≤ source.length := by
  simp only [readLength?] at read
  split at read
  · obtain ⟨⟨excess, tail⟩, inner, same⟩ := Option.map_eq_some_iff.1 read
    cases same
    exact length_read_extension inner
  · cases read
    exact Nat.le_refl _

end TaggedBlock.Lz4
