import TaggedBlock.Proofs.Zstd.Truncation

set_option autoImplicit false

namespace TaggedBlock.Zstd

namespace Coded

variable {header : FrameHeader} {head text checksum : Bytes} {last : BlockHeader}
  {final : Array UInt8} (coded : Coded header head text checksum last final)
include coded

theorem outline : openFrame (.start (codedFrame head text checksum)) = .ok (header,
      ⟨magic.length + head.length, text ++ checksum⟩) ∧
    Blocks ⟨magic.length + head.length, text ++ checksum⟩ last
      ⟨magic.length + head.length + text.length, checksum⟩ := by
  refine ⟨?_, coded.blocks.blocks _ checksum⟩
  have opened := coded.open_frame 0 []
  rwa [List.append_nil, List.append_nil, Nat.zero_add] at opened

end Coded

def emptyBlock (isLast : Bool) : BlockHeader := ⟨isLast, BlockHeader.stored, 0⟩

def padding (count : Nat) : Bytes := (List.replicate count (emptyBlock false).render).flatten

theorem yields_empty (frame : FrameHeader) (isLast : Bool) (inheritance : Inheritance)
    (out : Array UInt8) :
    Yields frame (emptyBlock isLast) [] inheritance inheritance out out := by
  have stored := yields_stored frame isLast inheritance out [] (Nat.zero_le _)
  rwa [Array.appendList_nil] at stored

theorem Text.padded {frame : FrameHeader} {earlier : Inheritance} {out final : Array UInt8}
    {text : Bytes} {last : BlockHeader} (whole : Text frame earlier out text last final)
    (count : Nat) : Text frame earlier out (padding count ++ text) last final := by
  induction count with
  | zero => exact whole
  | succ count ih =>
      rw [padding, List.replicate_succ, List.flatten_cons, ← padding, List.append_assoc]
      have more := Text.more (yields_empty frame false earlier out) Bool.false_ne_true ih
      rwa [List.nil_append] at more

end TaggedBlock.Zstd
