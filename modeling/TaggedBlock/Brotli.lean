import TaggedBlock.Brotli.Error
import TaggedBlock.Brotli.Stream

set_option autoImplicit false

namespace TaggedBlock.Brotli

def chunkSize : Nat := 4096

def drain (dictionary : Dictionary) (stream : Stream) (text : Array UInt8) : Except Error Bytes :=
  match _ : stream.call dictionary (stream.given + chunkSize) with
  | .success last =>
    if last.source.rest.isEmpty then
      .ok (text ++ last.out.extract stream.given last.given).toList
    else .error (.trailing last.source.rest.length)
  | .moreOutput next => drain dictionary next (text ++ next.out.extract stream.given next.given)
  | .moreInput => .error .truncated
  | .failure => .error .invalid
termination_by (stream.source.left, stream.out.size - stream.given)
decreasing_by
  obtain further | ⟨room, rfl⟩ := Stream.call_more_output ‹_›
  · exact .left _ _ further
  · rw [chunkSize] at room
    exact .right _ (by dsimp only [chunkSize]; omega)

def decode (dictionary : Dictionary) (payload : Bytes) : Except Error Bytes :=
  drain dictionary (.ofBytes payload) #[]

-- The window of 2^16 bytes, then a metadata block without content, which ends with a whole byte, so
-- that all that follows begins with one.
def opening : UInt8 := 0x0c

def closing : UInt8 := 0x03

def greatestStored : Nat := 0x10000

def storedBlock (chunk : Bytes) : Bytes :=
  littleEndianDigits 3 (8 * (chunk.length - 1) + 0x80000) ++ chunk

def storedBlocks (raw : Bytes) : Bytes :=
  if raw.isEmpty then []
  else storedBlock (raw.take greatestStored) ++ storedBlocks (raw.drop greatestStored)
termination_by raw.length
decreasing_by
  rename_i nonempty
  cases raw with
  | nil => simp at nonempty
  | cons byte raw => simp only [List.length_drop, List.length_cons, greatestStored]; omega

def encode (raw : Bytes) : Bytes := opening :: storedBlocks raw ++ [closing]

end TaggedBlock.Brotli
