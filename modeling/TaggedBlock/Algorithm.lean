import TaggedBlock.Text.Blank
import TaggedBlock.Text.Lower

set_option autoImplicit false

namespace TaggedBlock

structure Algorithm where
  id : UInt8
deriving DecidableEq

namespace Algorithm

def none : Algorithm := ⟨0⟩
def snappy : Algorithm := ⟨1⟩
def lz4 : Algorithm := ⟨2⟩
def zstd : Algorithm := ⟨3⟩
def brotli : Algorithm := ⟨4⟩
def lzma : Algorithm := ⟨5⟩

def assigned : List Algorithm := [none, snappy, lz4, zstd, brotli, lzma]

def name? (algorithm : Algorithm) : Option String :=
  if algorithm = none then some "none"
  else if algorithm = snappy then some "snappy"
  else if algorithm = lz4 then some "lz4"
  else if algorithm = zstd then some "zstd"
  else if algorithm = brotli then some "brotli"
  else if algorithm = lzma then some "lzma"
  else Option.none

def ofName? (text : String) : Option Algorithm :=
  let spelling := String.ofList (Text.lower (Text.trim text.toList))
  assigned.find? fun algorithm => algorithm.name? == some spelling

def display (algorithm : Algorithm) : String :=
  match algorithm.name? with
  | some name => name ++ " (" ++ toString algorithm.id.toNat ++ ")"
  | Option.none => "#" ++ toString algorithm.id.toNat

def diagnostic (algorithm : Algorithm) : String :=
  "AlgorithmId(" ++ toString algorithm.id.toNat ++ ")"

theorem of_name_name (algorithm : Algorithm) (member : algorithm ∈ assigned) :
    algorithm.name?.bind ofName? = some algorithm := by
  simp only [assigned, List.mem_cons, List.not_mem_nil, or_false] at member
  rcases member with rfl | rfl | rfl | rfl | rfl | rfl <;> decide +kernel

end Algorithm

end TaggedBlock
