set_option autoImplicit false

namespace TaggedBlock.Zstd

inductive Error where
  | emptyPayload
  | incomplete
  | unknownDescriptor
  | wrongChecksum
  | corrupt
deriving DecidableEq, Repr

def Error.message : Error → String
  | .emptyPayload => "empty payload"
  | .incomplete => "incomplete frame"
  | .unknownDescriptor => "Unknown frame descriptor"
  | .wrongChecksum => "Restored data doesn't match checksum"
  | .corrupt => "*"

end TaggedBlock.Zstd
