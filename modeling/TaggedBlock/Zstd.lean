import TaggedBlock.Zstd.Frame

set_option autoImplicit false

namespace TaggedBlock.Zstd

def FrameHeader.isSmall (header : FrameHeader) : Bool := header.contentSize.any (· ≤ room)

-- Where the input begins that the decoder has when it comes to the end of a header: at the header,
-- unless that lies across the end of a chunk.
def Source.atHand (source body : Source) : Source :=
  if body.position ≤ source.position + source.ahead then source else source.skip source.ahead

def readFrame (buffers : Buffers) (source : Source) : Except Error (Bytes × Buffers × Source) :=
  if beginsFrame source.bytes then
    match openFrame source with
    | .error error => .error error
    | .ok (header, body) =>
      match if header.isSmall then decodeAtOnce? (source.atHand body) else none with
      | some result => result.map fun (content, rest) => (content, buffers, rest)
      | none => decodeStream buffers header body
  else if beginsSkippable source.bytes then
    match skipFrame? source with
    | none => .error .incomplete
    | some (size, rest) => .ok ([], buffers.forSkipped size, rest)
  else .error .unknownDescriptor

theorem Source.length_at_hand (source body : Source) :
    (source.atHand body).bytes.length ≤ source.bytes.length := by
  unfold atHand
  split
  · exact Nat.le_refl _
  · simp only [skip, List.length_drop]
    omega

theorem length_read_frame {buffers next : Buffers} {source rest : Source} {content : Bytes}
    (read : readFrame buffers source = .ok (content, next, rest)) :
    rest.bytes.length < source.bytes.length := by
  unfold readFrame at read
  split at read
  · split at read
    · cases read
    · rename_i header body opened
      split at read
      · rename_i result atOnce
        simp only [Except.map] at read
        split at read
        · cases read
        · cases read
          split at atOnce
          · have shorter := length_decode_at_once atOnce
            have held := source.length_at_hand body
            omega
          · cases atOnce
      · have behindHeader := length_open_frame opened
        have behindBlocks := length_decode_stream read
        omega
  · split at read
    · split at read
      · cases read
      · rename_i skipped
        cases read
        exact length_skip_frame skipped
    · cases read

def readFrames (buffers : Buffers) (source : Source) (out : Array UInt8) :
    Except Error (Array UInt8) :=
  if source.bytes.isEmpty then .ok out
  else
    match _ : readFrame buffers source with
    | .error error => .error error
    | .ok (content, buffers, rest) => readFrames buffers rest (out ++ content)
termination_by source.bytes.length
decreasing_by exact length_read_frame ‹_›

def decode (payload : Bytes) : Except Error Bytes :=
  if payload.isEmpty then .error .emptyPayload
  else (readFrames .start (.start payload) #[]).map Array.toList

def seeksRuns (level : Int32) : Bool := 0 ≤ level

def encodeBlock (level : Int32) (isLast : Bool) (chunk : Bytes) : Bytes :=
  match chunk with
  | byte :: rest =>
    if seeksRuns level ∧ rest.all (· == byte) then
      BlockHeader.render ⟨isLast, BlockHeader.repeated, chunk.length⟩ ++ [byte]
    else BlockHeader.render ⟨isLast, BlockHeader.stored, chunk.length⟩ ++ chunk
  | [] => BlockHeader.render ⟨isLast, BlockHeader.stored, 0⟩

def encodeBlocks (level : Int32) (raw : Bytes) : Bytes :=
  if raw.length ≤ greatestBlock then encodeBlock level true raw
  else
    encodeBlock level false (raw.take greatestBlock) ++
      encodeBlocks level (raw.drop greatestBlock)
termination_by raw.length
decreasing_by
  simp only [List.length_drop, greatestBlock] at *
  omega

def plainHeader : Bytes := [0, 56]

def encode (level : Int32) (raw : Bytes) : Bytes :=
  magic ++ plainHeader ++ encodeBlocks level raw

end TaggedBlock.Zstd
