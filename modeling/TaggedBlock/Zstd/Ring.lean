import TaggedBlock.Zstd.FrameHeader

set_option autoImplicit false

namespace TaggedBlock.Zstd

-- The sizes of the buffers that are kept from frame to frame, and for how many frames in a row they
-- have been much larger than needed.
structure Buffers where
  input : Nat
  output : Nat
  idle : Nat
deriving DecidableEq, Repr

namespace Buffers

def start : Buffers := ⟨0, 0, 0⟩

def tooLarge : Nat := 3

def longIdle : Nat := 128

def fit (buffers : Buffers) (input output : Nat) : Buffers :=
  let idle :=
    if tooLarge * (input + output) ≤ buffers.input + buffers.output then buffers.idle + 1 else 0
  if buffers.input < input ∨ buffers.output < output ∨ longIdle ≤ idle then ⟨input, output, idle⟩
  else { buffers with idle }

def leastWindow : Nat := 1024

def leastInput : Nat := 4

def ringSize (window block : Nat) : Nat := window + 2 * block + 64

def ringFor (header : FrameHeader) : Nat :=
  ringSize (max header.effectiveWindow leastWindow) header.blockBound

def forFrame (buffers : Buffers) (header : FrameHeader) : Buffers :=
  buffers.fit (max header.blockBound leastInput)
    (min (ringFor header) (header.contentSize.getD (ringFor header)))

def forSkipped (buffers : Buffers) (size : Nat) : Buffers :=
  buffers.fit leastInput (min (ringSize leastWindow 0) size)

end Buffers

-- Where the output of a frame stands in a buffer of that size: it was begun anew when the output was
-- as long as `start`, and the time before when it was as long as `before`.
structure Ring where
  size : Nat
  start : Nat
  before : Nat
deriving DecidableEq, Repr

namespace Ring

def plain (size : Nat) : Ring := ⟨size, 0, 0⟩

def limit (ring : Ring) : Nat := ring.start + ring.size

-- What stands now where bytes of the turn before were written: this turn may have written over them.
def reread (ring : Ring) (out : Array UInt8) (first count : Nat) : Bytes :=
  (List.range' first count).map fun index =>
    let place := index - ring.before
    out[if place < out.size - ring.start then ring.start + place else index]?.getD 0

def copy? (ring : Ring) (out : Array UInt8) (distance length : Nat) : Option (Array UInt8) :=
  if within : 0 < distance ∧ distance ≤ out.size then
    if distance ≤ out.size - ring.before ∧ out.size + length ≤ ring.limit then
      let first := out.size - distance
      let earlier := min length (ring.start - first)
      some (copyBack (out ++ ring.reread out first earlier) distance (length - earlier)
        ⟨within.1, by rw [size_append]; omega⟩)
    else none
  else none

-- Begins the buffer anew if a block might not fit any more, unless all content fits.
def turn (ring : Ring) (header : FrameHeader) (out : Array UInt8) : Ring :=
  if header.contentSize.all (ring.size < ·) ∧ ring.limit < out.size + header.blockBound then
    { ring with start := out.size, before := ring.start }
  else ring

def pour? (ring : Ring) (header : FrameHeader) (bytes : Bytes) (out : Array UInt8) :
    Option (Ring × Array UInt8) :=
  let out := out ++ bytes
  if out.size ≤ ring.limit then some (ring.turn header out, out) else none

def pourParts? (ring : Ring) (header : FrameHeader) (ahead : Nat) (bytes : Bytes)
    (out : Array UInt8) : Option (Ring × Array UInt8) := do
  let (ring, out) ← ring.pour? header (bytes.take ahead) out
  ring.pour? header (bytes.drop ahead) out

end Ring

end TaggedBlock.Zstd
