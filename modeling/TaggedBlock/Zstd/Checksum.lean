import TaggedBlock.Bytes

set_option autoImplicit false

namespace TaggedBlock.Zstd.Checksum

def prime1 : UInt64 := 0x9e3779b185ebca87
def prime2 : UInt64 := 0xc2b2ae3d27d4eb4f
def prime3 : UInt64 := 0x165667b19e3779f9
def prime4 : UInt64 := 0x85ebca77c2b2ae63
def prime5 : UInt64 := 0x27d4eb2f165667c5

def rotate (value : UInt64) (bits : UInt64) : UInt64 :=
  (value <<< bits) ||| (value >>> (64 - bits))

def word (bytes : Bytes) : UInt64 := UInt64.ofNat (littleEndian bytes)

def round (lane input : UInt64) : UInt64 := rotate (lane + input * prime2) 31 * prime1

structure Lanes where
  first : UInt64
  second : UInt64
  third : UInt64
  fourth : UInt64

namespace Lanes

def start : Lanes := ⟨prime1 + prime2, prime2, 0, 0 - prime1⟩

def stripeSize : Nat := 32

def stripe (lanes : Lanes) (bytes : Bytes) : Lanes :=
  ⟨round lanes.first (word (bytes.take 8)),
    round lanes.second (word ((bytes.drop 8).take 8)),
    round lanes.third (word ((bytes.drop 16).take 8)),
    round lanes.fourth (word ((bytes.drop 24).take 8))⟩

def stripes (lanes : Lanes) : (count : Nat) → Bytes → Lanes × Bytes
  | 0, bytes => (lanes, bytes)
  | count + 1, bytes => (lanes.stripe bytes).stripes count (bytes.drop stripeSize)

def merge (sum lane : UInt64) : UInt64 := (sum ^^^ round 0 lane) * prime1 + prime4

def join (lanes : Lanes) : UInt64 :=
  let sum := rotate lanes.first 1 + rotate lanes.second 7 + rotate lanes.third 12 +
    rotate lanes.fourth 18
  [lanes.first, lanes.second, lanes.third, lanes.fourth].foldl merge sum

end Lanes

def eight (sum : UInt64) (bytes : Bytes) : UInt64 :=
  rotate (sum ^^^ round 0 (word bytes)) 27 * prime1 + prime4

def four (sum : UInt64) (bytes : Bytes) : UInt64 :=
  rotate (sum ^^^ (word bytes * prime1)) 23 * prime2 + prime3

def one (sum : UInt64) (byte : UInt8) : UInt64 :=
  rotate (sum ^^^ (byte.toUInt64 * prime5)) 11 * prime1

def tail (sum : UInt64) (bytes : Bytes) : UInt64 :=
  match bytes with
  | a :: b :: c :: d :: e :: f :: g :: h :: rest => tail (eight sum [a, b, c, d, e, f, g, h]) rest
  | a :: b :: c :: d :: rest => rest.foldl one (four sum [a, b, c, d])
  | rest => rest.foldl one sum

def avalanche (sum : UInt64) : UInt64 :=
  let sum := (sum ^^^ (sum >>> 33)) * prime2
  let sum := (sum ^^^ (sum >>> 29)) * prime3
  sum ^^^ (sum >>> 32)

def ofBytes (bytes : Bytes) : UInt64 :=
  let length := bytes.length
  let (lanes, rest) := Lanes.start.stripes (length / Lanes.stripeSize) bytes
  let sum := if length < Lanes.stripeSize then prime5 else lanes.join
  avalanche (tail (sum + UInt64.ofNat length) rest)

def low (bytes : Bytes) : Nat := (ofBytes bytes).toNat % 0x100000000

end TaggedBlock.Zstd.Checksum
