import TaggedBlock.Zstd.Block
import TaggedBlock.Zstd.Checksum

set_option autoImplicit false

namespace TaggedBlock.Zstd

def magic : Bytes := [0x28, 0xb5, 0x2f, 0xfd]

def beginsFrame (bytes : Bytes) : Bool := (bytes.take magic.length).isPrefixOf magic

def beginsSkippable (bytes : Bytes) : Bool :=
  match bytes with
  | [] => true
  | kind :: rest => kind.toNat / 16 == 5 && (rest.take 3).isPrefixOf [0x2a, 0x4d, 0x18]

def skipFrame? (source : Source) : Option (Nat × Source) := do
  let (_, source) ← source.split? magic.length
  let (size, source) ← source.split? 4
  let (_, rest) ← source.split? (littleEndian size)
  return (littleEndian size, rest)

def openFrame (source : Source) : Except Error (FrameHeader × Source) :=
  match source.split? magic.length with
  | none => .error .incomplete
  | some (_, source) => FrameHeader.parse source

theorem length_skip_frame {source rest : Source} {size : Nat}
    (skipped : skipFrame? source = some (size, rest)) :
    rest.bytes.length < source.bytes.length := by
  simp only [skipFrame?, bind, Option.bind_eq_some_iff] at skipped
  obtain ⟨⟨first, second⟩, opened, ⟨digits, third⟩, sized, ⟨content, last⟩, split, same⟩ := skipped
  cases same
  have behindMagic := Source.length_split opened
  have behindSize := Source.length_split sized
  have behindContent := Source.length_split split
  dsimp only at *
  omega

theorem length_open_frame {source body : Source} {header : FrameHeader}
    (opened : openFrame source = .ok (header, body)) :
    body.bytes.length < source.bytes.length := by
  unfold openFrame at opened
  split at opened
  · cases opened
  · rename_i split
    have behindMagic := Source.length_split split
    have behindHeader := FrameHeader.length_parse opened
    omega

def skipBlocks? (source : Source) : Option Source :=
  match _ : BlockHeader.parse? source with
  | none => none
  | some (header, source) =>
    if header.kind = BlockHeader.reserved then none
    else
      match _ : source.split? header.contentSize with
      | none => none
      | some (_, source) => if header.isLast then some source else skipBlocks? source
termination_by source.bytes.length
decreasing_by
  have behindHeader := BlockHeader.length_parse ‹_›
  have behindContent := Source.length_split ‹_›
  omega

def verify (header : FrameHeader) (content : Bytes) (source : Source) : Except Error Source :=
  match source.split? header.checksumLength with
  | none => .error .incomplete
  | some (checksum, rest) =>
    if header.hasChecksum ∧ littleEndian checksum ≠ Checksum.low content then
      .error .wrongChecksum
    else .ok rest

theorem length_verify {header : FrameHeader} {content : Bytes} {source rest : Source}
    (verified : verify header content source = .ok rest) :
    rest.bytes.length ≤ source.bytes.length := by
  unfold verify at verified
  split at verified
  · cases verified
  · rename_i split
    split at verified
    · cases verified
    · cases verified
      have shorter := Source.length_split split
      omega

def decodeWhole (header : FrameHeader) (decoding : Decoding) (source : Source) :
    Except Error (Array UInt8 × Source) :=
  match _ : BlockHeader.parse? source with
  | none => .error .incomplete
  | some (block, source) =>
    match _ : source.split? block.contentSize with
    | none => .error .incomplete
    | some (content, source) =>
      match decoding.block? header.blockBound block content with
      | none => .error .corrupt
      | some decoding =>
        if block.isLast then
          if header.contentSize.all (decoding.out.size = ·) then .ok (decoding.out, source)
          else .error .corrupt
        else decodeWhole header decoding source
termination_by source.bytes.length
decreasing_by
  have behindHeader := BlockHeader.length_parse ‹_›
  have behindContent := Source.length_split ‹_›
  omega

theorem length_decode_whole {header : FrameHeader} {decoding : Decoding} {source rest : Source}
    {out : Array UInt8} (decoded : decodeWhole header decoding source = .ok (out, rest)) :
    rest.bytes.length ≤ source.bytes.length := by
  fun_induction decodeWhole header decoding source with
  | case1 => cases decoded
  | case2 => cases decoded
  | case3 => cases decoded
  | case4 decoding source block middle parsed content rest split next block last fits =>
    cases decoded
    have behindHeader := BlockHeader.length_parse parsed
    have behindContent := Source.length_split split
    omega
  | case5 => cases decoded
  | case6 decoding source block middle parsed content after split next block more ih =>
    have behindHeader := BlockHeader.length_parse parsed
    have behindContent := Source.length_split split
    have behindBlocks := ih decoded
    omega

-- What a call may write.
def room : Nat := 8192

def decodeAtOnce? (source : Source) : Option (Except Error (Bytes × Source)) :=
  if beginsFrame source.bytes then
    match openFrame source with
    | .error _ => none
    | .ok (header, blocks) =>
      match (skipBlocks? blocks).bind (·.split? header.checksumLength) with
      | none => none
      | some (_, rest) =>
        if rest.position ≤ source.position + source.ahead then
          some <|
            if header.dictionary ≠ 0 then .error .corrupt
            else
              match decodeWhole header (.start (.plain room)) blocks with
              | .error error => .error error
              | .ok (out, behind) =>
                (verify header out.toList behind).map fun rest => (out.toList, rest)
        else none
  else if beginsSkippable source.bytes then
    match skipFrame? source with
    | none => none
    | some (_, rest) =>
      if rest.position ≤ source.position + source.ahead then some (.ok ([], rest)) else none
  else none

theorem length_decode_at_once {source rest : Source} {content : Bytes}
    (decoded : decodeAtOnce? source = some (.ok (content, rest))) :
    rest.bytes.length < source.bytes.length := by
  unfold decodeAtOnce? at decoded
  split at decoded
  · split at decoded
    · cases decoded
    · rename_i header blocks opened
      split at decoded
      · cases decoded
      · split at decoded
        · have frame := Option.some.inj decoded
          split at frame
          · cases frame
          · split at frame
            · cases frame
            · rename_i whole
              simp only [Except.map] at frame
              split at frame
              · cases frame
              · rename_i verified
                cases frame
                have behindHeader := length_open_frame opened
                have behindBlocks := length_decode_whole whole
                have behindChecksum := length_verify verified
                omega
        · cases decoded
  · split at decoded
    · split at decoded
      · cases decoded
      · rename_i skipped
        split at decoded
        · cases decoded
          exact length_skip_frame skipped
        · cases decoded
    · cases decoded

namespace Decoding

-- A block of a frame that is decoded as it arrives. Stored bytes are taken as far as they are there;
-- any other block has to be there as a whole.
def receive (decoding : Decoding) (frame : FrameHeader) (block : BlockHeader) (source : Source) :
    Except Error (Decoding × Source) :=
  if block.kind = BlockHeader.stored then
    let content := source.bytes.take block.size
    match decoding.ring.pourParts? frame source.ahead content decoding.out with
    | none => .error .corrupt
    | some (ring, out) =>
      if content.length < block.size then .error .incomplete
      else .ok ({ decoding with ring, out }, source.skip block.size)
  else
    match source.split? block.contentSize with
    | none => .error .incomplete
    | some (content, rest) =>
      match decoding.block? frame.blockBound block content with
      | none => .error .corrupt
      | some next =>
        if next.out.size ≤ decoding.out.size + frame.blockBound then
          .ok ({ next with ring := next.ring.turn frame next.out }, rest)
        else .error .corrupt

theorem length_receive {decoding next : Decoding} {frame : FrameHeader} {block : BlockHeader}
    {source rest : Source} (received : decoding.receive frame block source = .ok (next, rest)) :
    rest.bytes.length ≤ source.bytes.length := by
  simp only [receive] at received
  split at received
  · split at received
    · cases received
    · split at received
      · cases received
      · cases received
        simp only [Source.skip, List.length_drop]
        omega
  · split at received
    · cases received
    · rename_i split
      have shorter := Source.length_split split
      split at received
      · cases received
      · split at received
        · cases received
          omega
        · cases received

end Decoding

-- The blocks of a frame that is decoded as it arrives. A block without content yields nothing, and
-- after it the content size is not looked at.
def decodeBlocks (frame : FrameHeader) (decoding : Decoding) (source : Source) :
    Except Error (Array UInt8 × Source) :=
  match _ : BlockHeader.parse? source with
  | none => .error .incomplete
  | some (block, source) =>
    if block.kind = BlockHeader.reserved ∨ frame.blockBound < block.contentSize then
      .error .corrupt
    else if block.contentSize = 0 then
      if block.isLast then .ok (decoding.out, source) else decodeBlocks frame decoding source
    else
      match _ : decoding.receive frame block source with
      | .error error => .error error
      | .ok (decoding, source) =>
        if block.isLast then
          if frame.contentSize.all (decoding.out.size = ·) then .ok (decoding.out, source)
          else .error .corrupt
        else decodeBlocks frame decoding source
termination_by source.bytes.length
decreasing_by
  · exact BlockHeader.length_parse ‹_›
  · have behindHeader := BlockHeader.length_parse ‹_›
    have behindContent := Decoding.length_receive ‹_›
    omega

theorem length_decode_blocks {frame : FrameHeader} {decoding : Decoding} {source rest : Source}
    {out : Array UInt8} (decoded : decodeBlocks frame decoding source = .ok (out, rest)) :
    rest.bytes.length ≤ source.bytes.length := by
  fun_induction decodeBlocks frame decoding source with
  | case1 => cases decoded
  | case2 => cases decoded
  | case3 decoding source block rest parsed allowed empty last =>
    cases decoded
    exact Nat.le_of_lt (BlockHeader.length_parse parsed)
  | case4 decoding source block middle parsed allowed empty more ih =>
    have behindHeader := BlockHeader.length_parse parsed
    have behindBlocks := ih decoded
    omega
  | case5 => cases decoded
  | case6 decoding source block middle parsed allowed filled next rest received last fits =>
    cases decoded
    have behindHeader := BlockHeader.length_parse parsed
    have behindContent := Decoding.length_receive received
    omega
  | case7 => cases decoded
  | case8 decoding source block middle parsed allowed filled next after received more ih =>
    have behindHeader := BlockHeader.length_parse parsed
    have behindContent := Decoding.length_receive received
    have behindBlocks := ih decoded
    omega

def greatestWindow : Nat := 0x8000001

def decodeStream (buffers : Buffers) (header : FrameHeader) (source : Source) :
    Except Error (Bytes × Buffers × Source) :=
  if header.dictionary ≠ 0 ∨ greatestWindow < header.effectiveWindow then .error .corrupt
  else
    let buffers := buffers.forFrame header
    match decodeBlocks header (.start (.plain buffers.output)) source with
    | .error error => .error error
    | .ok (out, source) =>
      (verify header out.toList source).map fun rest => (out.toList, buffers, rest)

theorem length_decode_stream {buffers next : Buffers} {header : FrameHeader} {source rest : Source}
    {content : Bytes} (decoded : decodeStream buffers header source = .ok (content, next, rest)) :
    rest.bytes.length ≤ source.bytes.length := by
  unfold decodeStream at decoded
  split at decoded
  · cases decoded
  · simp only at decoded
    split at decoded
    · cases decoded
    · rename_i blocks
      simp only [Except.map] at decoded
      split at decoded
      · cases decoded
      · rename_i verified
        cases decoded
        have behindBlocks := length_decode_blocks blocks
        have behindChecksum := length_verify verified
        omega

end TaggedBlock.Zstd
