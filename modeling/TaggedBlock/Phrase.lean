import Std.Data.HashMap
import TaggedBlock.Bytes

set_option autoImplicit false

namespace TaggedBlock

structure Phrase where
  fresh : Bytes
  distance : Nat
  length : Nat
deriving DecidableEq, Repr

structure Phrasing where
  phrases : List Phrase
  tail : Bytes
deriving DecidableEq, Repr

namespace Phrasing

-- No copy begins in the last bytes of a text, which leaves short texts without any.
def quietEnd : Nat := 12

def freshEnd : Nat := 5

def shortestCopy : Nat := 4

def agreeUntil (text : Array UInt8) (earlier later stop : Nat) (order : earlier < later)
    (within : stop ≤ text.size) : Nat :=
  if below : later < stop then
    if text[earlier] = text[later] then
      agreeUntil text (earlier + 1) (later + 1) stop (by omega) within
    else later
  else later
termination_by stop - later

def word (text : Array UInt8) (place : Nat) : Nat :=
  littleEndian (text.extract place (place + 4)).toList

def repeatEnd (farthest : Nat) (text : Array UInt8) (candidate place : Nat) : Nat :=
  if near : candidate < place ∧ place - candidate ≤ farthest then
    agreeUntil text candidate place (text.size - freshEnd) near.1 (Nat.sub_le _ _)
  else place

-- Walks the text from `place`; the bytes from `start` on are not yet in a phrase.
def search (farthest : Nat) (text : Array UInt8) (start place : Nat) (seen : Std.HashMap Nat Nat)
    (found : Array Phrase) : Phrasing :=
  if place + quietEnd ≤ text.size then
    let key := word text place
    let candidate := (seen[key]?).getD place
    let stop := repeatEnd farthest text candidate place
    if place + shortestCopy ≤ stop then
      search farthest text stop stop (seen.insert key place)
        (found.push ⟨(text.extract start place).toList, place - candidate, stop - place⟩)
    else search farthest text start (place + 1) (seen.insert key place) found
  else ⟨found.toList, (text.extract start text.size).toList⟩
termination_by text.size - place
decreasing_by
  all_goals simp +zetaDelta only [quietEnd, shortestCopy] at *; omega

def ofBytes (farthest : Nat) (text : Bytes) : Phrasing :=
  search farthest text.toArray 0 0 ∅ #[]

end Phrasing

end TaggedBlock
