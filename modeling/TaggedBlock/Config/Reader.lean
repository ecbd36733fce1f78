import TaggedBlock.Config
import TaggedBlock.Json.Scalar

set_option autoImplicit false

namespace TaggedBlock.Config

open Json

def leastLevel : Int := -0x80000000
def greatestLevel : Int := 0x7fffffff
def greatestQuality : Int := 0xffffffff

def readField (config : Config) (field : Field) (text : List Char) :
    Except Halt (Config × List Char) :=
  match field with
  | .algorithm =>
    (readStringValue text).map fun (algorithm, rest) => ({ config with algorithm }, rest)
  | .level =>
    (readIntegerValue "i32" leastLevel greatestLevel text).map fun (level, rest) =>
      ({ config with level := Int32.ofInt level }, rest)
  | .quality =>
    (readIntegerValue "u32" 0 greatestQuality text).map fun (quality, rest) =>
      ({ config with quality := UInt32.ofNat quality.toNat }, rest)

inductive Next where
  | member (key : String) (rest : List Char)
  | closed (rest : List Char)

def readKey (text : List Char) : Except Halt Next :=
  (readString text).map fun (key, rest) => .member key rest

def readNext (isFirst : Bool) (text : List Char) : Except Halt Next :=
  match skipSpace text with
  | [] => .error (.before .endInObject [])
  | c :: rest =>
    if c = '\x7d' then .ok (.closed rest)
    else if isFirst then
      if c = '"' then readKey rest else .error (.on .keyMustBeString (c :: rest))
    else if c = ',' then
      match skipSpace rest with
      | [] => .error (.before .endInValue [])
      | '"' :: rest => readKey rest
      | '\x7d' :: rest => .error (.on .trailingComma ('\x7d' :: rest))
      | rest => .error (.on .keyMustBeString rest)
    else .error (.on .expectedCommaOrObjectEnd (c :: rest))

-- A fault of a key: blanks after it count as read, and so does the end of the object after them.
def atKey (fault : Fault) (text : List Char) : Halt :=
  match skipSpace text with
  | '\x7d' :: rest => .before fault rest
  | rest => .before fault rest

def readColon (text : List Char) : Except Halt (List Char) :=
  match skipSpace text with
  | [] => .error (.before .endInObject [])
  | ':' :: rest => .ok rest
  | rest => .error (.on .expectedColon rest)

def readMembers (missing : List Field) (isFirst : Bool) (config : Config) (text : List Char) :
    Except Halt (Config × List Char) :=
  match readNext isFirst text with
  | .error halt => .error halt
  | .ok (.closed rest) => .ok (config, rest)
  | .ok (.member key rest) =>
    match Field.ofName? key with
    | none => .error (atKey (.unknownField key (Field.all.map Field.name)) rest)
    | some field =>
      if _ : field ∈ missing then
        match readColon rest with
        | .error halt => .error halt
        | .ok rest =>
          match readField config field rest with
          | .error halt => .error halt
          | .ok (config, rest) => readMembers (missing.erase field) false config rest
      else .error (atKey (.duplicateField key) rest)
termination_by missing.length
decreasing_by
  have shorter := List.length_erase_of_mem ‹field ∈ missing›
  have filled := List.length_pos_of_mem ‹field ∈ missing›
  omega

def readListEnd (text : List Char) : Except Halt (List Char) :=
  match skipSpace text with
  | [] => .error (.before .endInList [])
  | ']' :: rest => .ok rest
  | ',' :: rest =>
    match skipSpace rest with
    | ']' :: rest => .error (.on .trailingComma (']' :: rest))
    | rest => .error (.on .trailingCharacters rest)
  | rest => .error (.on .trailingCharacters rest)

def readElementStart (isFirst : Bool) (text : List Char) :
    Except Halt (Bool × List Char) :=
  match skipSpace text with
  | [] => .error (.before .endInList [])
  | c :: rest =>
    if c = ']' then .ok (false, rest)
    else if isFirst then .ok (true, c :: rest)
    else if c = ',' then
      match skipSpace rest with
      | [] => .error (.before .endInValue [])
      | ']' :: rest => .error (.on .trailingComma (']' :: rest))
      | rest => .ok (true, rest)
    else .error (.on .expectedCommaOrListEnd (c :: rest))

def readElements (isFirst : Bool) (config : Config) : List Field → List Char →
    Except Halt (Config × List Char)
  | [], text => (readListEnd text).map (config, ·)
  | field :: fields, text =>
    match readElementStart isFirst text with
    | .error halt => .error halt
    | .ok (false, rest) => .ok (config, rest)
    | .ok (true, rest) =>
      match readField config field rest with
      | .error halt => .error halt
      | .ok (config, rest) => readElements false config fields rest

def readValue (text : List Char) : Except Halt (Config × List Char) :=
  match skipSpace text with
  | [] => .error (.before .endInValue [])
  | '[' :: rest => readElements true {} Field.all rest
  | '\x7b' :: rest => readMembers Field.all true {} rest
  | rest => .error (refuse "struct Config" rest)

def readDocument (text : List Char) : Except Halt Config :=
  match readValue text with
  | .error halt => .error halt
  | .ok (config, rest) =>
    match skipSpace rest with
    | [] => .ok config
    | rest => .error (.on .trailingCharacters rest)

def ofJson (text : String) : Except Error Config :=
  let text := text.toList
  match readDocument text with
  | .error halt => .error (.config (halt.toError text))
  | .ok config => config.chosen.map fun _ => config

def ofFile (content : Except FileError Bytes) : Except Error Config :=
  match content with
  | .error error => .error (.file error)
  | .ok bytes =>
    match String.fromUTF8? ⟨bytes.toArray⟩ with
    | none => .error (.file .notText)
    | some text => ofJson text

end TaggedBlock.Config
