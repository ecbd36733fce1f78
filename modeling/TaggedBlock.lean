import TaggedBlock.Batch
import TaggedBlock.CommandLine.Commands
import TaggedBlock.Main
import TaggedBlock.Proofs.Bytes
import TaggedBlock.Proofs.Phrasing
import TaggedBlock.Proofs.Snappy
import TaggedBlock.Proofs.Snappy.Format
import TaggedBlock.Proofs.Lz4
import TaggedBlock.Proofs.Lz4.Format
import TaggedBlock.Proofs.Zstd.RoundTrip
import TaggedBlock.Proofs.Zstd.Extension
import TaggedBlock.Proofs.BitReader
import TaggedBlock.Proofs.Brotli
import TaggedBlock.Proofs.Brotli.Extension
import TaggedBlock.Proofs.Block
import TaggedBlock.Proofs.Lzma.RangeCoder
import TaggedBlock.Proofs.Lzma.RoundTrip
import TaggedBlock.Proofs.Lzma.Truncation
import TaggedBlock.Proofs.Json.Text
import TaggedBlock.Proofs.Json.Number
import TaggedBlock.Proofs.Json.Value
import TaggedBlock.Proofs.Config
import TaggedBlock.Proofs.Registry
import TaggedBlock.Proofs.Registry.Asking
import TaggedBlock.Proofs.Registry.Growth
import TaggedBlock.Proofs.Batch
import TaggedBlock.Proofs.Lzma.KnownSize
import TaggedBlock.Proofs.Block.Damage
import TaggedBlock.Proofs.Lz4.Oversize
import TaggedBlock.Proofs.Block.Answers
import TaggedBlock.Proofs.Codec.Declared
import TaggedBlock.Proofs.CommandLine
import TaggedBlock.Proofs.Algorithm
import TaggedBlock.Proofs.Lzma.Progress
import TaggedBlock.Proofs.CommandLine.Inspection
