import TaggedBlock.Registry

set_option autoImplicit false

namespace TaggedBlock

structure Block where
  algorithm : Algorithm
  payload : Bytes
deriving DecidableEq

namespace Block

def headerLength : Nat := 1

def parse (bytes : Bytes) : Except Error Block :=
  match bytes with
  | [] => .error (.malformedBlock 0)
  | id :: payload => .ok ⟨⟨id⟩, payload⟩

def toBytes (block : Block) : Bytes := block.algorithm.id :: block.payload

def length (block : Block) : Nat := headerLength + block.payload.length

def isEmpty (_block : Block) : Bool := false

theorem parse_to_bytes (block : Block) : parse block.toBytes = .ok block := rfl

theorem length_to_bytes (block : Block) : block.toBytes.length = block.length := by
  simp [toBytes, length, headerLength, Nat.add_comm]

end Block

namespace Registry

def wrap (registry : Registry) (algorithm : Algorithm) (raw : Bytes) : Except Error Bytes :=
  match registry.resolve algorithm with
  | .error error => .error error
  | .ok codec =>
    match codec.encode raw with
    | .error source => .error (.encodeFailed algorithm source)
    | .ok payload => .ok (Block.mk algorithm payload).toBytes

-- Reads a block with the codec of its own algorithm, and with no other.
def unwrap (registry : Registry) (bytes : Bytes) : Except Error Bytes :=
  match Block.parse bytes with
  | .error error => .error error
  | .ok block =>
    match registry.resolve block.algorithm with
    | .error error => .error error
    | .ok codec =>
      match codec.decode block.payload with
      | .error source => .error (.corruptPayload block.algorithm source)
      | .ok raw => .ok raw

def readsVerbatim (registry : Registry) (bytes : Bytes) : Bool :=
  match Block.parse bytes with
  | .error _ => false
  | .ok block => ((registry.slots block.algorithm).map Codec.isVerbatim).getD false

end Registry

end TaggedBlock
