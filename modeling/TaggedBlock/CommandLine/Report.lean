import TaggedBlock.Block
import TaggedBlock.Json.Pretty

set_option autoImplicit false

namespace TaggedBlock.CommandLine

structure Report where
  path : String
  algorithm : Algorithm
  payloadLength : Nat
  blockLength : Nat
  readable : Bool
deriving DecidableEq

namespace Report

def ofBlock (registry : Registry) (path : String) (block : Block) : Report :=
  ⟨path, block.algorithm, block.payload.length, block.length, registry.contains block.algorithm⟩

def word (value : Bool) : String := if value then "true" else "false"

def lines (report : Report) : List String :=
  ["── Block ────────────────────────────────────────────────",
    "  Path          " ++ report.path,
    "  Algorithm     " ++ report.algorithm.display,
    "  Payload       " ++ toString report.payloadLength ++ " B",
    "  Block         " ++ toString report.blockLength ++ " B",
    "  Readable      " ++ word report.readable]

def members (report : Report) : List (String × Json.Scalar) :=
  [("algorithm", (report.algorithm.name?.map .string).getD .null),
    ("algorithm_id", .integer report.algorithm.id.toNat),
    ("block_bytes", .integer report.blockLength),
    ("path", .string report.path),
    ("payload_bytes", .integer report.payloadLength),
    ("readable", .boolean report.readable)]

def json (report : Report) : String := String.ofList (Json.writeObject report.members)

end Report

def alignRight (width : Nat) (text : String) : String :=
  String.ofList (List.replicate (width - text.length) ' ') ++ text

def alignLeft (width : Nat) (text : String) : String :=
  text ++ String.ofList (List.replicate (width - text.length) ' ')

def row (id name mark : String) : String :=
  alignRight 4 id ++ "  " ++ alignLeft 8 name ++ " " ++ mark

def algorithmRow (registry : Registry) (chosen : Option Algorithm) (algorithm : Algorithm) :
    String :=
  let name := ((registry.slots algorithm).map Codec.name).getD ""
  row (toString algorithm.id.toNat) name (if chosen = some algorithm then "*" else "")

def algorithmTable (registry : Registry) (chosen : Option Algorithm) : List String :=
  row "Id" "Name" "Default" :: registry.algorithms.map (algorithmRow registry chosen)

end TaggedBlock.CommandLine
