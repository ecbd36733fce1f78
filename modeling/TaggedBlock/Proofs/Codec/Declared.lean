import TaggedBlock.Proofs.Codec
import TaggedBlock.Proofs.Zstd.Declared

set_option autoImplicit false

namespace TaggedBlock.Codec

end TaggedBlock.Codec
