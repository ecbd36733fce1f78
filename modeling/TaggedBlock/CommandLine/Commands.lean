import TaggedBlock.CommandLine.Action
import TaggedBlock.CommandLine.Arguments
import TaggedBlock.CommandLine.Report
import TaggedBlock.Config.Reader

set_option autoImplicit false

namespace TaggedBlock.CommandLine

def withConfig (path : Option String) (next : Config → Action) : Action :=
  match path with
  | none => next {}
  | some path =>
    .read path fun content =>
      match Config.ofFile content with
      | .error error => .fail (.library error)
      | .ok config => .log (Log.loaded path config) (next config)

def withFile (path : String) (next : Bytes → Action) : Action :=
  .read path fun content =>
    match content with
    | .error error => .fail (.file error)
    | .ok bytes => next bytes

def writeFile (path : String) (content : Bytes) (text : String) : Action :=
  .write path content fun result =>
    match result with
    | .error error => .fail (.file error)
    | .ok () => .log (Log.done text) .finish

def sized (path : String) (bytes : Bytes) : String :=
  path ++ " (" ++ toString bytes.length ++ " B)"

def algorithmFor (config : Config) (name : Option String) : Except Error Algorithm :=
  match name with
  | none => config.chosen
  | some name =>
    match Algorithm.ofName? name with
    | some algorithm => .ok algorithm
    | none => .error (.unknownName name)

def wrap (config : Config) (input output : String) (name : Option String) : Action :=
  match algorithmFor config name with
  | .error error => .fail (.library error)
  | .ok algorithm =>
    withFile input fun raw =>
      let result := config.registry.wrap algorithm raw
      Action.logAll (Log.wrapped algorithm raw result) <|
        match result with
        | .error error => .fail (.library error)
        | .ok block =>
          writeFile output block ("wrapped " ++ sized input raw ++ " -> " ++ sized output block ++
            " with " ++ algorithm.display)

def unwrap (config : Config) (input output : String) : Action :=
  withFile input fun block =>
    let result := config.registry.unwrap block
    Action.logAll (Log.unwrapped block result) <|
      match result with
      | .error error => .fail (.library error)
      | .ok raw =>
        writeFile output raw ("unwrapped " ++ sized input block ++ " -> " ++ sized output raw)

def inspect (config : Config) (input : String) (json : Bool) : Action :=
  withFile input fun bytes =>
    match Block.parse bytes with
    | .error error => .fail (.library error)
    | .ok block =>
      let report := Report.ofBlock config.registry input block
      Action.printAll (if json then [report.json] else report.lines) .finish

def algorithms (config : Config) : Action :=
  Action.printAll (algorithmTable config.registry config.chosen.toOption) .finish

def perform (config : Config) : Command → Action
  | .wrap input output name => wrap config input output name
  | .unwrap input output => unwrap config input output
  | .inspect input json => inspect config input json
  | .algorithms => algorithms config

def Request.action (request : Request) : Action :=
  withConfig request.config fun config =>
    .log (Log.built config.registry) (perform config request.command)

def Request.level (request : Request) : Log.Level := if request.verbose then .debug else .info

structure Response where
  status : Nat
  folder : Folder
  failure : Option Failure
  records : List Log.Record
  lines : List String

def Response.ofStop (folder : Folder) : Stop → Response
  | .help => ⟨0, folder, none, [], []⟩
  | .misuse => ⟨2, folder, none, [], []⟩

def Request.respond (request : Request) (folder : Folder) : Response :=
  let outcome := request.action.run folder
  ⟨if outcome.failure.isSome then 1 else 0, outcome.folder, outcome.failure,
    outcome.records.filter (·.reaches request.level), outcome.lines⟩

def respond (arguments : List String) (folder : Folder) : Response :=
  match parse arguments with
  | .error stop => .ofStop folder stop
  | .ok request => request.respond folder

end TaggedBlock.CommandLine
