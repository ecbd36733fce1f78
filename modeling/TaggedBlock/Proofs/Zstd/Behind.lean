import TaggedBlock.Proofs.Zstd.Truncation

set_option autoImplicit false

namespace TaggedBlock.Zstd

-- A payload of which it is known how far it reaches, whatever comes behind it: one that does not go
-- beyond the first chunk, or one of frames that keep to the format.
def Settled (payload raw : Bytes) : Prop :=
  (payload.length ≤ Source.chunk ∧ decode payload = .ok raw) ∨
    (payload ≠ [] ∧ Frames payload raw)

def shortest : Nat := 8

section Short

variable {source body rest : Source} {header : FrameHeader} {content : Bytes}

end Short

namespace Settled

variable {payload raw : Bytes} (settled : Settled payload raw)
include settled

-- The sizes of the buffers and the place are all that is handed on; what is read of the suffix does
-- not depend on any table, distance or text of the payload.
theorem decode_append :
    ∃ later, ∀ suffix, decode (payload ++ suffix) =
      (readFrames later ⟨payload.length, suffix⟩ #[]).map (raw ++ ·.toList) := by
  have onward : ∃ later, ∀ suffix, decode (payload ++ suffix) =
      (readFrames later ⟨payload.length, suffix⟩ ((#[] : Array UInt8) ++ raw)).map
        Array.toList := by
    rcases settled with ⟨inside, decoded⟩ | ⟨filled, frames⟩
    · exact decode_extend inside decoded
    · exact decode_frames_append frames filled
  obtain ⟨later, same⟩ := onward
  refine ⟨later, fun suffix => ?_⟩
  have apart := read_frames_behind later ⟨payload.length, suffix⟩ ((#[] : Array UInt8) ++ raw) #[]
  rw [Array.append_empty] at apart
  rw [same, apart]
  cases readFrames later ⟨payload.length, suffix⟩ #[] with
  | error error => rfl
  | ok more =>
      simp only [Except.map, Array.toList_append, Array.toList_appendList, List.nil_append]

theorem frames_append {text content : Bytes} (frames : Frames text content) :
    decode (payload ++ text) = .ok (raw ++ content) := by
  obtain ⟨later, onward⟩ := settled.decode_append
  obtain ⟨last, read⟩ := read_frames_append frames later payload.length #[]
  have alone := read []
  rw [List.append_nil, read_frames_nil] at alone
  rw [onward, alone]
  simp only [Except.map, Array.toList_appendList, List.nil_append]

theorem decoded : decode payload = .ok raw := by
  have alone := settled.frames_append .nil
  rwa [List.append_nil, List.append_nil] at alone

end Settled

section Overlong

end Overlong

end TaggedBlock.Zstd
