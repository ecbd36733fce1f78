import TaggedBlock.Block
import TaggedBlock.Config

set_option autoImplicit false

namespace TaggedBlock.Log

inductive Level where
  | trace
  | debug
  | info
  | warn
deriving DecidableEq, Repr

def Level.name : Level → String
  | .trace => "TRACE"
  | .debug => "DEBUG"
  | .info => "INFO"
  | .warn => "WARN"

def Level.weight : Level → Nat
  | .trace => 0
  | .debug => 1
  | .info => 2
  | .warn => 3

structure Record where
  level : Level
  target : String
  text : String
deriving DecidableEq, Repr

def Record.line (record : Record) : String :=
  record.level.name ++ " " ++ record.target ++ ": " ++ record.text

def Record.reaches (record : Record) (level : Level) : Bool :=
  level.weight ≤ record.level.weight

def built (registry : Registry) : Record :=
  ⟨.debug, "blockpress::registry", "compression registry built with algorithms [" ++
    ", ".intercalate (registry.algorithms.map Algorithm.display) ++ "]"⟩

def loaded (path : String) (config : Config) : Record :=
  ⟨.debug, "blockpress::config", "loaded compression config from " ++ path ++ ": " ++
    config.diagnostic⟩

def wrapped (algorithm : Algorithm) (raw : Bytes) (result : Except Error Bytes) : List Record :=
  match result with
  | .error _ => []
  | .ok block =>
    [⟨.trace, "blockpress::block", "wrapped " ++ toString raw.length ++ " -> " ++
      toString block.length ++ " bytes with " ++ algorithm.display⟩]

def unwrapped (bytes : Bytes) (result : Except Error Bytes) : List Record :=
  match Block.parse bytes, result with
  | .ok block, .ok raw =>
    [⟨.trace, "blockpress::block", "unwrapped " ++ toString block.length ++ " -> " ++
      toString raw.length ++ " bytes with " ++ block.algorithm.display⟩]
  | .ok _, .error (.unknownAlgorithm algorithm) =>
    [⟨.warn, "blockpress::block", "block tagged with unregistered algorithm " ++
      algorithm.display⟩]
  | .ok block, .error (.corruptPayload algorithm source) =>
    [⟨.warn, "blockpress::block", "corrupt " ++ toString block.length ++
      " byte block payload for " ++ algorithm.display ++ ": " ++ source.message⟩]
  | _, _ => []

def done (text : String) : Record := ⟨.info, "blockpress", text⟩

end TaggedBlock.Log
