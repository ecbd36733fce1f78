import TaggedBlock.Json.Pretty
import TaggedBlock.Registry

set_option autoImplicit false

namespace TaggedBlock

structure Config where
  algorithm : String := "snappy"
  level : Int32 := Codec.usualLevel
  quality : UInt32 := Codec.usualQuality
deriving DecidableEq

namespace Config

inductive Field where
  | algorithm
  | level
  | quality
deriving DecidableEq, Repr

namespace Field

def name : Field → String
  | .algorithm => "algorithm"
  | .level => "zstd_level"
  | .quality => "brotli_quality"

def all : List Field := [.algorithm, .level, .quality]

def ofName? (name : String) : Option Field := all.find? fun field => field.name == name

end Field

def chosen (config : Config) : Except Error Algorithm :=
  match Algorithm.ofName? config.algorithm with
  | some algorithm => .ok algorithm
  | none => .error (.unknownName config.algorithm)

def registry (config : Config) : Registry := Registry.tuned config.level config.quality

def members (config : Config) : List (String × Json.Scalar) :=
  [(Field.algorithm.name, .string config.algorithm),
    (Field.level.name, .integer config.level.toInt),
    (Field.quality.name, .integer config.quality.toNat)]

def toJson (config : Config) : String := String.ofList (Json.writeObject config.members)

def diagnostic (config : Config) : String :=
  "Config \x7b algorithm: " ++ Text.quoted config.algorithm ++ ", zstd_level: " ++
    toString config.level.toInt ++ ", brotli_quality: " ++ toString config.quality.toNat ++ " \x7d"

end Config

end TaggedBlock
