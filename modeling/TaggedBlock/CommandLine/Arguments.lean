set_option autoImplicit false

namespace TaggedBlock.CommandLine

inductive Command where
  | wrap (input output : String) (algorithm : Option String)
  | unwrap (input output : String)
  | inspect (input : String) (json : Bool)
  | algorithms
deriving DecidableEq, Repr

structure Request where
  config : Option String
  verbose : Bool
  command : Command
deriving DecidableEq, Repr

inductive Stop where
  | help
  | misuse
deriving DecidableEq, Repr

inductive Flag where
  | config
  | verbose
  | output
  | algorithm
  | json
deriving DecidableEq, Repr

namespace Flag

def longName : Flag → String
  | .config => "config"
  | .verbose => "verbose"
  | .output => "output"
  | .algorithm => "algorithm"
  | .json => "json"

def letter? : Flag → Option Char
  | .config => some 'c'
  | .verbose => some 'v'
  | .output => some 'o'
  | .algorithm => some 'a'
  | .json => none

def takesValue : Flag → Bool
  | .config | .output | .algorithm => true
  | .verbose | .json => false

def isPath : Flag → Bool
  | .config | .output => true
  | .verbose | .algorithm | .json => false

def shared : List Flag := [.config, .verbose]

end Flag

structure Given where
  flags : List (Flag × String) := []
  words : List String := []

namespace Given

def value? (given : Given) (flag : Flag) : Option String := given.flags.lookup flag

def has (given : Given) (flag : Flag) : Bool := (given.value? flag).isSome

def record (given : Given) (flag : Flag) (value : String) : Except Stop Given :=
  if given.has flag || (flag.isPath && value.isEmpty) then .error .misuse
  else .ok { given with flags := (flag, value) :: given.flags }

end Given

def looksLikeFlag (argument : String) : Bool :=
  match argument.toList with
  | '-' :: _ :: _ => true
  | _ => false

abbrev Waiting := Option Flag

def readLetters (allowed : List Flag) (given : Given) : List Char → Except Stop (Given × Waiting)
  | [] => .ok (given, none)
  | letter :: rest =>
    if letter = 'h' then .error .help
    else
      match allowed.find? fun flag => flag.letter? == some letter with
      | none => .error .misuse
      | some flag =>
        if flag.takesValue then
          match rest with
          | [] => .ok (given, some flag)
          | '=' :: value => (given.record flag (String.ofList value)).map (·, none)
          | value => (given.record flag (String.ofList value)).map (·, none)
        else
          match given.record flag "" with
          | .error stop => .error stop
          | .ok given => readLetters allowed given rest

def readLong (allowed : List Flag) (given : Given) (text : List Char) :
    Except Stop (Given × Waiting) :=
  let name := String.ofList (text.takeWhile (· != '='))
  let value := text.dropWhile (· != '=')
  if name = "help" ∧ value = [] then .error .help
  else
    match allowed.find? fun flag => flag.longName == name with
    | none => .error .misuse
    | some flag =>
      match flag.takesValue, value with
      | true, [] => .ok (given, some flag)
      | true, _ :: value => (given.record flag (String.ofList value)).map (·, none)
      | false, [] => (given.record flag "").map (·, none)
      | false, _ :: _ => .error .misuse

def readFlag (allowed : List Flag) (given : Given) (argument : String) :
    Except Stop (Given × Waiting) :=
  match argument.toList with
  | '-' :: '-' :: text => readLong allowed given text
  | '-' :: letters => readLetters allowed given letters
  | _ => .error .misuse

structure Side where
  allowed : List Flag
  takesWords : Bool

-- Reads arguments to the end of a side; the second part is what follows it. After two dashes all
-- arguments are words.
def readSide (side : Side) (waiting : Waiting) (given : Given) :
    List String → Except Stop (Given × List String)
  | [] => if waiting.isSome then .error .misuse else .ok (given, [])
  | argument :: rest =>
    match waiting with
    | some flag =>
      if looksLikeFlag argument then .error .misuse
      else
        match given.record flag argument with
        | .error stop => .error stop
        | .ok given => readSide side none given rest
    | none =>
      if argument = "--" then
        if side.takesWords then .ok ({ given with words := given.words ++ rest }, [])
        else .error .misuse
      else if looksLikeFlag argument then
        match readFlag side.allowed given argument with
        | .error stop => .error stop
        | .ok (given, waiting) => readSide side waiting given rest
      else if side.takesWords then
        readSide side none { given with words := given.words ++ [argument] } rest
      else .ok (given, argument :: rest)

def flagsOf? : String → Option (List Flag)
  | "wrap" => some [.output, .algorithm]
  | "unwrap" => some [.output]
  | "inspect" => some [.json]
  | "algorithms" => some []
  | _ => none

def commandOf? (name : String) (given : Given) : Option Command :=
  match name, given.words, given.value? .output with
  | "wrap", [input], some output => some (.wrap input output (given.value? .algorithm))
  | "unwrap", [input], some output => some (.unwrap input output)
  | "inspect", [input], _ => some (.inspect input (given.has .json))
  | "algorithms", [], _ => some .algorithms
  | _, _, _ => none

def explains : List String → Bool
  | [] => true
  | [name] => name == "help" || (flagsOf? name).isSome
  | _ => false

-- The request that arguments make. A shared flag after the name of the command wins over one
-- before it.
def parse (arguments : List String) : Except Stop Request := do
  let (before, rest) ← readSide ⟨Flag.shared, false⟩ none {} arguments
  match rest with
  | [] => throw .misuse
  | name :: rest =>
    if name = "help" then throw (if explains rest then .help else .misuse)
    match flagsOf? name with
    | none => throw .misuse
    | some flags =>
      let (after, _) ← readSide ⟨Flag.shared ++ flags, true⟩ none {} rest
      if after.words.any String.isEmpty then throw .misuse
      match commandOf? name after with
      | none => throw .misuse
      | some command =>
        return {
          config := (after.value? .config).or (before.value? .config)
          verbose := after.has .verbose || before.has .verbose
          command }

end TaggedBlock.CommandLine
