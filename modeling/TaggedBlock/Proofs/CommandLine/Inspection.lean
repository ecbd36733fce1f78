import TaggedBlock.Proofs.Algorithm
import TaggedBlock.Proofs.CommandLine
import TaggedBlock.Proofs.Json.Unique
import TaggedBlock.Proofs.Registry.Asking

set_option autoImplicit false

namespace TaggedBlock.CommandLine

-- What an action shows: why it failed, if it did, and the lines it printed.
structure Seen where
  failure : Option Failure
  lines : List String

def Seen.after (seen : Seen) (lines : List String) : Seen := ⟨seen.failure, lines ++ seen.lines⟩

def Action.seen (files : FileSystem) : Action → files.State → Seen
  | .finish, _ => ⟨none, []⟩
  | .fail failure, _ => ⟨some failure, []⟩
  | .log _ next, state => next.seen files state
  | .print line next, state => (next.seen files state).after [line]
  | .read path next, state => (next (files.read state path)).seen files state
  | .write path content next, state =>
    match files.write state path content with
    | .error error => (next (.error error)).seen files state
    | .ok final => (next (.ok ())).seen files final

def Response.seen (response : Response) : Seen := ⟨response.failure, response.lines⟩

section Writing

variable {files : FileSystem} {state : files.State} {path : String} {content : Bytes}
  {next : Except FileError Unit → Action}

theorem Action.seen_of_write_error {error : FileError}
    (failed : files.write state path content = .error error) :
    (Action.write path content next).seen files state = (next (.error error)).seen files state := by
  rw [seen, failed]

theorem Action.seen_of_written {final : files.State}
    (written : files.write state path content = .ok final) :
    (Action.write path content next).seen files state = (next (.ok ())).seen files final := by
  rw [seen, written]

end Writing

theorem Action.seen_folder (action : Action) (folder : Folder) :
    action.seen Folder.files folder = ⟨(action.run folder).failure, (action.run folder).lines⟩ := by
  induction action generalizing folder with
  | finish => rfl
  | fail failure => rfl
  | log record next ih => exact ih folder
  | print line next ih => exact congrArg (·.after [line]) (ih folder)
  | read path next ih => exact ih _ folder
  | write path content next ih =>
      rw [run]
      cases written : folder.write path content with
      | error error =>
          have failed : Folder.files.write folder path content = .error error := written
          exact (seen_of_write_error failed).trans (ih _ folder)
      | ok final =>
          have done : Folder.files.write folder path content = .ok final := written
          exact (seen_of_written done).trans (ih _ final)

theorem Request.seen_respond (request : Request) (folder : Folder) :
    (request.respond folder).seen = request.action.seen Folder.files folder :=
  (request.action.seen_folder folder).symm

namespace Report

def ofHead (registry : Registry) (path : String) (tag : UInt8) (length : Nat) : Report :=
  ⟨path, ⟨tag⟩, length - Block.headerLength, length, registry.contains ⟨tag⟩⟩

theorem of_block_eq (registry : Registry) (path : String) (tag : UInt8) (payload : Bytes) :
    ofBlock registry path ⟨⟨tag⟩, payload⟩ = ofHead registry path tag (tag :: payload).length := by
  simp [ofBlock, ofHead, Block.length, Block.headerLength, Nat.add_comm]

def shown (json : Bool) (report : Report) : List String :=
  if json then [report.json] else report.lines

theorem word_inj {value other : Bool} (same : word value = word other) : value = other := by
  cases value <;> cases other
  · rfl
  · exact absurd same (by decide)
  · exact absurd same (by decide)
  · rfl

variable {report other : Report}

theorem lines_inj (same : report.lines = other.lines) : report = other := by
  simp only [lines, List.cons.injEq, String.append_right_inj, String.append_left_inj, true_and,
    and_true] at same
  obtain ⟨path, algorithm, payload, block, readable⟩ := same
  obtain ⟨_, _, _, _, _⟩ := report
  obtain ⟨_, _, _, _, _⟩ := other
  rw [mk.injEq]
  exact ⟨path, Algorithm.display_inj algorithm, Text.to_string_nat_inj payload,
    Text.to_string_nat_inj block, word_inj readable⟩

theorem json_inj (same : report.json = other.json) : report = other := by
  have equal := Json.write_object_inj (String.ofList_injective same)
  simp only [members, List.cons.injEq, Prod.mk.injEq, true_and, and_true,
    Json.Scalar.integer.injEq, Json.Scalar.string.injEq, Json.Scalar.boolean.injEq] at equal
  obtain ⟨-, algorithm, block, path, payload, readable⟩ := equal
  obtain ⟨_, ⟨_⟩, _, _, _⟩ := report
  obtain ⟨_, ⟨_⟩, _, _, _⟩ := other
  rw [mk.injEq, Algorithm.mk.injEq]
  exact ⟨path, UInt8.toNat_inj.mp (Int.ofNat.inj algorithm), Int.ofNat.inj payload,
    Int.ofNat.inj block, readable⟩

theorem shown_inj {json : Bool} (same : report.shown json = other.shown json) : report = other := by
  cases json with
  | false => exact lines_inj same
  | true => exact json_inj (List.cons.inj same).1

structure Describes (report : Report) (registry : Registry) (path : String) (bytes : Bytes) :
    Prop where
  path : report.path = path
  algorithm : bytes.head? = some report.algorithm.id
  payloadLength : report.payloadLength = bytes.length - 1
  blockLength : report.blockLength = bytes.length
  readable : report.readable = true ↔
    ∀ algorithm, registry.unwrap bytes ≠ .error (.unknownAlgorithm algorithm)
  wrapped : ∀ algorithm raw, registry.wrap algorithm raw = .ok bytes →
    report.readable = true ∧ report.algorithm = algorithm

theorem describes_of_head (registry : Registry) (path : String) (tag : UInt8) (payload : Bytes) :
    (ofHead registry path tag (tag :: payload).length).Describes registry path
      (tag :: payload) where
  path := rfl
  algorithm := rfl
  payloadLength := rfl
  blockLength := rfl
  readable := registry.contains_iff_unwrap tag payload
  wrapped := by
    rintro ⟨id⟩ raw wrapped
    obtain ⟨known, head⟩ := Registry.known_of_wrap wrapped
    cases Option.some.inj head
    exact ⟨known, rfl⟩

end Report

structure Tells (registry : Registry) (path : String) (json : Bool) (bytes : Bytes)
    (seen : Seen) : Prop where
  failed : seen.failure ≠ none ↔ bytes = []
  malformed : bytes = [] → registry.unwrap bytes = .error (.malformedBlock 0) ∧
    seen = ⟨some (.library (.malformedBlock 0)), []⟩
  reported : bytes ≠ [] → ∃ report : Report, report.Describes registry path bytes ∧
    ∀ other : Report, seen.lines = other.shown json ↔ other = report

-- All that is seen of an inspection, from the first byte and the length.
def inspected (registry : Registry) (path : String) (json : Bool) (head : Option UInt8)
    (length : Nat) : Seen :=
  match head with
  | none => ⟨some (.library (.malformedBlock 0)), []⟩
  | some tag => ⟨none, (Report.ofHead registry path tag length).shown json⟩

theorem tells_inspected (registry : Registry) (path : String) (json : Bool) (bytes : Bytes) :
    Tells registry path json bytes (inspected registry path json bytes.head? bytes.length) := by
  cases bytes with
  | nil =>
      refine ⟨iff_of_true nofun rfl, fun _ => ⟨rfl, rfl⟩, fun filled => absurd rfl filled⟩
  | cons tag payload =>
      refine ⟨iff_of_false (fun failed => failed rfl) nofun, nofun, fun _ => ?_⟩
      refine ⟨_, Report.describes_of_head registry path tag payload, fun other => ?_⟩
      constructor
      · exact fun same => (Report.shown_inj same).symm
      · rintro rfl
        rfl

section Inspecting

variable {files : FileSystem} {state : files.State}

theorem Action.seen_print_all (lines : List String) (next : Action) :
    (printAll lines next).seen files state = (next.seen files state).after lines := by
  induction lines with
  | nil => rfl
  | cons line lines ih => exact congrArg (·.after [line]) ih

theorem seen_with_config {flag : Option String} {next : Config → Action} {config : Config}
    (accepted : configOf files state flag = .ok config) :
    (withConfig flag next).seen files state = (next config).seen files state := by
  cases flag with
  | none =>
      cases accepted
      rfl
  | some path =>
      rw [configOf] at accepted
      rw [withConfig, Action.seen, accepted, Action.seen]

theorem seen_with_file {path : String} {next : Bytes → Action} {bytes : Bytes}
    (readable : files.read state path = .ok bytes) :
    (withFile path next).seen files state = (next bytes).seen files state := by
  rw [withFile, Action.seen, readable]

theorem seen_inspect (config : Config) {path : String} {bytes : Bytes} (json : Bool)
    (readable : files.read state path = .ok bytes) :
    (inspect config path json).seen files state =
      inspected config.registry path json bytes.head? bytes.length := by
  rw [inspect, seen_with_file readable]
  cases bytes with
  | nil => rfl
  | cons tag payload =>
      rw [Block.parse]
      simp only [Report.of_block_eq]
      rw [Action.seen_print_all, Action.seen, Seen.after, List.append_nil]
      rfl

end Inspecting

structure Looks (files : FileSystem) (state : files.State) (request : Request) (path : String)
    (json : Bool) (config : Config) (bytes : Bytes) : Prop where
  command : request.command = .inspect path json
  accepted : configOf files state request.config = .ok config
  readable : files.read state path = .ok bytes

theorem Looks.seen {files : FileSystem} {state : files.State} {request : Request} {path : String}
    {json : Bool} {config : Config} {bytes : Bytes}
    (looks : Looks files state request path json config bytes) :
    request.action.seen files state =
      inspected config.registry path json bytes.head? bytes.length := by
  rw [Request.action, seen_with_config looks.accepted, Action.seen, looks.command, perform]
  exact seen_inspect config json looks.readable

-- Two looks at files that agree in the first byte and the length show the same, whatever else is
-- in the files and wherever they are.
theorem inspect_agrees {files : FileSystem} {state : files.State} {request : Request}
    {path : String} {json : Bool} {config : Config} {bytes : Bytes}
    (looks : Looks files state request path json config bytes) :
    Tells config.registry path json bytes (request.action.seen files state) ∧
    (∀ (others : FileSystem) (other : others.State) (again : Request) (changed : Config)
      (altered : Bytes), Looks others other again path json changed altered →
      changed.registry = config.registry → altered.head? = bytes.head? →
      altered.length = bytes.length →
        again.action.seen others other = request.action.seen files state) ∧
    ∀ folder : Folder, (request.respond folder).seen = request.action.seen Folder.files folder := by
  refine ⟨?_, ?_, request.seen_respond⟩
  · rw [looks.seen]
    exact tells_inspected config.registry path json bytes
  · intro others other again changed altered second registry head length
    rw [looks.seen, second.seen, registry, head, length]

theorem inspect_agrees_damaged :
    Looks Folder.files [("a", [1, 0])] ⟨none, false, .inspect "./a" true⟩ "./a" true {} [1, 0] ∧
      Looks Folder.files [("a", [1, 1])] ⟨none, true, .inspect "./a" true⟩ "./a" true {} [1, 1] ∧
      Tells (Config.registry {}) "./a" true [1, 0]
        (Request.respond ⟨none, false, .inspect "./a" true⟩ [("a", [1, 0])]).seen ∧
      (Request.respond ⟨none, true, .inspect "./a" true⟩ [("a", [1, 1])]).seen =
        (Request.respond ⟨none, false, .inspect "./a" true⟩ [("a", [1, 0])]).seen := by
  have looks : Looks Folder.files [("a", [1, 0])] ⟨none, false, .inspect "./a" true⟩ "./a" true {}
      [1, 0] := ⟨rfl, rfl, rfl⟩
  have again : Looks Folder.files [("a", [1, 1])] ⟨none, true, .inspect "./a" true⟩ "./a" true {}
      [1, 1] := ⟨rfl, rfl, rfl⟩
  obtain ⟨tells, only, shown⟩ := inspect_agrees looks
  rw [shown, (inspect_agrees again).2.2]
  exact ⟨looks, again, tells, only _ _ _ _ _ again rfl rfl rfl⟩

end TaggedBlock.CommandLine
