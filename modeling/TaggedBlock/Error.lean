import TaggedBlock.Algorithm
import TaggedBlock.Codec
import TaggedBlock.Files.Error
import TaggedBlock.Json.Error

set_option autoImplicit false

namespace TaggedBlock

inductive Error where
  | unknownAlgorithm (algorithm : Algorithm)
  | duplicateAlgorithm (algorithm : Algorithm)
  | malformedBlock (length : Nat)
  | corruptPayload (algorithm : Algorithm) (source : CodecError)
  | encodeFailed (algorithm : Algorithm) (source : CodecError)
  | unknownName (name : String)
  | config (source : Json.Error)
  | file (source : FileError)
deriving DecidableEq

namespace Error

def message : Error → String
  | .unknownAlgorithm algorithm => "unknown compression algorithm " ++ algorithm.display
  | .duplicateAlgorithm algorithm =>
    "compression algorithm " ++ algorithm.display ++ " registered twice"
  | .malformedBlock length =>
    "malformed block: " ++ toString length ++ " byte(s) is shorter than the block header"
  | .corruptPayload algorithm source =>
    "corrupt payload for algorithm " ++ algorithm.display ++ ": " ++ source.message
  | .encodeFailed algorithm source =>
    "encoding with algorithm " ++ algorithm.display ++ " failed: " ++ source.message
  | .unknownName name => "unknown compression algorithm name '" ++ name ++ "'"
  | .config source => "invalid configuration: " ++ source.message
  | .file source => "IO error: " ++ source.message

def cause? : Error → Option String
  | .corruptPayload _ source => some source.message
  | .encodeFailed _ source => some source.message
  | .config source => some source.message
  | .file source => some source.message
  | _ => none

def diagnostic : Error → String
  | .unknownAlgorithm algorithm => "UnknownAlgorithm(" ++ algorithm.diagnostic ++ ")"
  | .duplicateAlgorithm algorithm => "DuplicateAlgorithm(" ++ algorithm.diagnostic ++ ")"
  | .malformedBlock length => "MalformedBlock \x7b len: " ++ toString length ++ " \x7d"
  | .corruptPayload algorithm source =>
    "CorruptPayload \x7b algorithm: " ++ algorithm.diagnostic ++ ", source: " ++
      source.diagnostic ++ " \x7d"
  | .encodeFailed algorithm source =>
    "EncodeFailed \x7b algorithm: " ++ algorithm.diagnostic ++ ", source: " ++
      source.diagnostic ++ " \x7d"
  | .unknownName name => "UnknownAlgorithmName(" ++ Text.quoted name ++ ")"
  | .config source => "Config(" ++ source.diagnostic ++ ")"
  | .file source => "Io(" ++ source.diagnostic ++ ")"

end Error

end TaggedBlock
