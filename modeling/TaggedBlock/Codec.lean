import TaggedBlock.Brotli
import TaggedBlock.Lz4
import TaggedBlock.Lzma
import TaggedBlock.Snappy
import TaggedBlock.Text.Quoted
import TaggedBlock.Zstd

set_option autoImplicit false

namespace TaggedBlock

inductive Stage where
  | compression
  | decompression
deriving DecidableEq, Repr

def Stage.word : Stage → String
  | .compression => "compression"
  | .decompression => "decompression"

def Stage.title : Stage → String
  | .compression => "Compression"
  | .decompression => "Decompression"

structure CodecError where
  stage : Stage
  codec : String
  text : String
deriving DecidableEq, Repr

def CodecError.message (error : CodecError) : String :=
  error.codec ++ " " ++ error.stage.word ++ " error: " ++ error.text

def CodecError.diagnostic (error : CodecError) : String :=
  error.stage.title ++ " \x7b codec: " ++ Text.quoted error.codec ++ ", message: " ++
    Text.quoted error.text ++ " \x7d"

structure CustomCodec where
  name : String
  encode : Bytes → Except CodecError Bytes
  decode : Bytes → Except CodecError Bytes

inductive Codec where
  | identity
  | snappy
  | lz4
  | zstd (level : Int32)
  | brotli (quality : UInt32)
  | lzma
  | custom (codec : CustomCodec)

namespace Codec

def usualLevel : Int32 := 3

def usualQuality : UInt32 := 5

def name : Codec → String
  | .identity => "none"
  | .snappy => "snappy"
  | .lz4 => "lz4"
  | .zstd _ => "zstd"
  | .brotli _ => "brotli"
  | .lzma => "lzma"
  | .custom codec => codec.name

def diagnostic (codec : Codec) : String := "Codec(" ++ Text.quoted codec.name ++ ")"

def isVerbatim : Codec → Bool
  | .identity => true
  | _ => false

-- Brotli's quality asks for a smaller stream and never for a certain one; this encoder stores.
def encode (codec : Codec) (raw : Bytes) : Except CodecError Bytes :=
  match codec with
  | .identity => .ok raw
  | .snappy => (Snappy.encode raw).mapError fun error => ⟨.compression, "snappy", error.message⟩
  | .lz4 => .ok (Lz4.encode raw)
  | .zstd level => .ok (Zstd.encode level raw)
  | .brotli _ => .ok (Brotli.encode raw)
  | .lzma => .ok (Lzma.encode raw)
  | .custom codec => codec.encode raw

def decode (codec : Codec) (payload : Bytes) : Except CodecError Bytes :=
  match codec with
  | .identity => .ok payload
  | .snappy =>
    (Snappy.decode payload).mapError fun error => ⟨.decompression, "snappy", error.message⟩
  | .lz4 => (Lz4.decode payload).mapError fun error => ⟨.decompression, "lz4", error.message⟩
  | .zstd _ => (Zstd.decode payload).mapError fun error => ⟨.decompression, "zstd", error.message⟩
  | .brotli _ =>
    (Brotli.decode .standard payload).mapError fun error => ⟨.decompression, "brotli", error.message⟩
  | .lzma => (Lzma.decode payload).mapError fun error => ⟨.decompression, "lzma", error.message⟩
  | .custom codec => codec.decode payload

end Codec

end TaggedBlock
