import TaggedBlock.CommandLine.Commands
import TaggedBlock.Proofs.Files

set_option autoImplicit false

namespace TaggedBlock.CommandLine

def Action.ends (files : FileSystem) : Action → files.State → files.State × Option Failure
  | .finish, state => (state, none)
  | .fail failure, state => (state, some failure)
  | .log _ next, state => next.ends files state
  | .print _ next, state => next.ends files state
  | .read path next, state => (next (files.read state path)).ends files state
  | .write path content next, state =>
    match files.write state path content with
    | .error error => (next (.error error)).ends files state
    | .ok final => (next (.ok ())).ends files final

section Writing

variable {files : FileSystem} {state : files.State} {path : String} {content : Bytes}
  {next : Except FileError Unit → Action}

theorem Action.ends_of_write_error {error : FileError}
    (failed : files.write state path content = .error error) :
    (Action.write path content next).ends files state = (next (.error error)).ends files state := by
  rw [ends, failed]

theorem Action.ends_of_written {final : files.State}
    (written : files.write state path content = .ok final) :
    (Action.write path content next).ends files state = (next (.ok ())).ends files final := by
  rw [ends, written]

end Writing

theorem Action.ends_folder (action : Action) (folder : Folder) :
    action.ends Folder.files folder = ((action.run folder).folder, (action.run folder).failure) := by
  induction action generalizing folder with
  | finish => rfl
  | fail failure => rfl
  | log record next ih => exact ih folder
  | print line next ih => exact ih folder
  | read path next ih => exact ih _ folder
  | write path content next ih =>
      rw [run]
      cases written : folder.write path content with
      | error error =>
          have failed : Folder.files.write folder path content = .error error := written
          exact (ends_of_write_error failed).trans (ih _ folder)
      | ok final =>
          have done : Folder.files.write folder path content = .ok final := written
          exact (ends_of_written done).trans (ih _ final)

-- The effect is there if and only if nothing failed, and a failure leaves the state as it was.
structure AllOrNothing {State : Type} (effect : State → Prop) (state next : State)
    (failure : Option Failure) : Prop where
  done : failure = none ↔ effect next
  undone : failure ≠ none → next = state

section Performing

variable {files : FileSystem} {state : files.State} {action : Action}
  {effect other : files.State → Prop}

def Action.Performs (files : FileSystem) (state : files.State) (action : Action)
    (effect : files.State → Prop) : Prop :=
  AllOrNothing effect state (action.ends files state).1 (action.ends files state).2

namespace Action.Performs

theorem congr (performs : action.Performs files state effect)
    (same : ∀ next, effect next ↔ other next) : action.Performs files state other :=
  ⟨performs.done.trans (same _), performs.undone⟩

theorem finish (holds : effect state) : Action.finish.Performs files state effect :=
  ⟨iff_of_true rfl holds, fun _ => rfl⟩

theorem fail (failure : Failure) (never : ¬ effect state) :
    (Action.fail failure).Performs files state effect :=
  ⟨iff_of_false nofun never, fun _ => rfl⟩

theorem log_all (records : List Log.Record) (performs : action.Performs files state effect) :
    (Action.logAll records action).Performs files state effect := by
  induction records with
  | nil => exact performs
  | cons record records ih => exact ih

theorem print_all (lines : List String) (performs : action.Performs files state effect) :
    (Action.printAll lines action).Performs files state effect := by
  induction lines with
  | nil => exact performs
  | cons line lines ih => exact ih

section Result

variable {α ε : Type} {result : Except ε α} {onward : α → files.State → Prop}

theorem of_ok {value : α} (found : result = .ok value)
    (performs : action.Performs files state (onward value)) :
    action.Performs files state fun next => ∃ value, result = .ok value ∧ onward value next := by
  refine performs.congr fun next => ⟨fun rest => ⟨value, found, rest⟩, ?_⟩
  rintro ⟨_, same, rest⟩
  cases found.symm.trans same
  exact rest

theorem of_error {error : ε} (failed : result = .error error) (failure : Failure) :
    (Action.fail failure).Performs files state
      fun next => ∃ value, result = .ok value ∧ onward value next :=
  .fail failure fun ⟨_, found, _⟩ => nomatch failed.symm.trans found

end Result

theorem with_file {path : String} {next : Bytes → Action} {onward : Bytes → files.State → Prop}
    (performs : ∀ bytes, (next bytes).Performs files state (onward bytes)) :
    (withFile path next).Performs files state
      fun final => ∃ bytes, files.read state path = .ok bytes ∧ onward bytes final := by
  rw [Performs, CommandLine.withFile, ends]
  cases files.read state path with
  | error error => exact of_error rfl (.file error)
  | ok bytes => exact of_ok rfl (performs bytes)

theorem write_file (path : String) (content : Bytes) (text : String) :
    (writeFile path content text).Performs files state
      fun final => files.Replaced state final path content := by
  rw [Performs, CommandLine.writeFile]
  cases written : files.write state path content with
  | error error =>
      rw [ends_of_write_error written]
      refine ⟨iff_of_false nofun fun replaced => ?_, fun _ => rfl⟩
      cases written.symm.trans replaced.written
  | ok final =>
      rw [ends_of_written written]
      exact ⟨iff_of_true rfl (FileSystem.replaced_iff.mpr written), fun failed => absurd rfl failed⟩

end Action.Performs

end Performing

def configOf (files : FileSystem) (state : files.State) (path : Option String) :
    Except Error Config :=
  match path with
  | none => .ok {}
  | some path => Config.ofFile (files.read state path)

theorem algorithm_for_eq_ok_iff (config : Config) (name : Option String) (algorithm : Algorithm) :
    algorithmFor config name = .ok algorithm ↔
      Algorithm.ofName? (name.getD config.algorithm) = some algorithm := by
  cases name with
  | none =>
      rw [algorithmFor, Config.chosen, Option.getD_none]
      cases Algorithm.ofName? config.algorithm with
      | none => exact iff_of_false nofun nofun
      | some other => rw [Except.ok.injEq, Option.some.injEq]
  | some name =>
      rw [algorithmFor, Option.getD_some]
      cases Algorithm.ofName? name with
      | none => exact iff_of_false nofun nofun
      | some other => rw [Except.ok.injEq, Option.some.injEq]

section Commands

variable {files : FileSystem} {state : files.State}

theorem performs_with_config {path : Option String} {next : Config → Action}
    {onward : Config → files.State → Prop}
    (performs : ∀ config, (next config).Performs files state (onward config)) :
    (withConfig path next).Performs files state
      fun final => ∃ config, configOf files state path = .ok config ∧ onward config final := by
  cases path with
  | none => exact .of_ok rfl (performs {})
  | some path =>
      rw [withConfig, Action.Performs, Action.ends, configOf]
      cases Config.ofFile (files.read state path) with
      | error error => exact Action.Performs.of_error rfl (.library error)
      | ok config => exact Action.Performs.of_ok rfl (performs config)

theorem performs_wrap (config : Config) (input output : String) (name : Option String) :
    (wrap config input output name).Performs files state fun next =>
      ∃ algorithm, algorithmFor config name = .ok algorithm ∧
        ∃ raw, files.read state input = .ok raw ∧
          ∃ block, config.registry.wrap algorithm raw = .ok block ∧
            files.Replaced state next output block := by
  rw [wrap]
  cases algorithmFor config name with
  | error error => exact .of_error rfl (.library error)
  | ok algorithm =>
      refine .of_ok rfl (.with_file fun raw => .log_all _ ?_)
      cases config.registry.wrap algorithm raw with
      | error error => exact .of_error rfl (.library error)
      | ok block => exact .of_ok rfl (.write_file output block _)

theorem performs_unwrap (config : Config) (input output : String) :
    (unwrap config input output).Performs files state fun next =>
      ∃ block, files.read state input = .ok block ∧
        ∃ raw, config.registry.unwrap block = .ok raw ∧ files.Replaced state next output raw := by
  rw [unwrap]
  refine .with_file fun block => .log_all _ ?_
  cases config.registry.unwrap block with
  | error error => exact .of_error rfl (.library error)
  | ok raw => exact .of_ok rfl (.write_file output raw _)

theorem performs_inspect (config : Config) (input : String) (json : Bool) :
    (inspect config input json).Performs files state fun next =>
      ∃ bytes, files.read state input = .ok bytes ∧
        ∃ block, Block.parse bytes = .ok block ∧ next = state := by
  rw [inspect]
  refine .with_file fun bytes => ?_
  cases Block.parse bytes with
  | error error => exact .of_error rfl (.library error)
  | ok block => exact .of_ok rfl (.print_all _ (.finish rfl))

theorem performs_algorithms (config : Config) :
    (algorithms config).Performs files state fun next => next = state :=
  .print_all _ (.finish rfl)

end Commands

-- What a command is for, given its configuration. All that it reads, it reads before it writes.
def Command.Effect (files : FileSystem) (config : Config) (state next : files.State) :
    Command → Prop
  | .wrap input output name =>
    ∃ algorithm, Algorithm.ofName? (name.getD config.algorithm) = some algorithm ∧
      ∃ raw, files.read state input = .ok raw ∧
        ∃ block, config.registry.wrap algorithm raw = .ok block ∧
          files.Replaced state next output block
  | .unwrap input output =>
    ∃ block, files.read state input = .ok block ∧
      ∃ raw, config.registry.unwrap block = .ok raw ∧ files.Replaced state next output raw
  | .inspect input _ =>
    ∃ bytes, files.read state input = .ok bytes ∧
      ∃ block, Block.parse bytes = .ok block ∧ next = state
  | .algorithms => next = state

def Command.isReadOnly : Command → Bool
  | .wrap _ _ _ => false
  | .unwrap _ _ => false
  | .inspect _ _ => true
  | .algorithms => true

def Request.Effect (files : FileSystem) (request : Request) (state next : files.State) : Prop :=
  ∃ config, configOf files state request.config = .ok config ∧
    request.command.Effect files config state next

theorem performs_perform {files : FileSystem} {state : files.State} (config : Config)
    (command : Command) :
    (perform config command).Performs files state fun next =>
      command.Effect files config state next := by
  cases command with
  | wrap input output name =>
      refine (performs_wrap config input output name).congr fun next => exists_congr fun algorithm => ?_
      rw [algorithm_for_eq_ok_iff]
  | unwrap input output => exact performs_unwrap config input output
  | inspect input json => exact performs_inspect config input json
  | algorithms => exact performs_algorithms config

theorem Request.performs_action (request : Request) (files : FileSystem) (state : files.State) :
    request.action.Performs files state (request.Effect files state) :=
  performs_with_config fun config => .log_all [Log.built config.registry] (performs_perform config _)

theorem Command.unchanged_of_effect {files : FileSystem} {config : Config}
    {state next : files.State} {command : Command} (readOnly : command.isReadOnly = true)
    (effect : command.Effect files config state next) : next = state := by
  cases command with
  | wrap input output name => cases readOnly
  | unwrap input output => cases readOnly
  | inspect input json =>
      obtain ⟨_, _, _, _, same⟩ := effect
      exact same
  | algorithms => exact effect

theorem AllOrNothing.unchanged {State : Type} {effect : State → Prop} {state next : State}
    {failure : Option Failure} (settled : AllOrNothing effect state next failure)
    (same : effect next → next = state) : next = state := by
  by_cases failed : failure = none
  · exact same (settled.done.mp failed)
  · exact settled.undone failed

theorem Request.status_eq_zero_iff (request : Request) (folder : Folder) :
    (request.respond folder).status = 0 ↔ (request.respond folder).failure = none := by
  simp only [Request.respond]
  cases (request.action.run folder).failure with
  | none => exact iff_of_true rfl rfl
  | some failure => exact iff_of_false nofun nofun

theorem request_all_or_nothing (request : Request) :
    (∀ (files : FileSystem) (state : files.State),
      AllOrNothing (request.Effect files state) state (request.action.ends files state).1
          (request.action.ends files state).2 ∧
        (request.command.isReadOnly = true → (request.action.ends files state).1 = state)) ∧
    ∀ folder : Folder,
      AllOrNothing (request.Effect Folder.files folder) folder (request.respond folder).folder
          (request.respond folder).failure ∧
        (request.command.isReadOnly = true → (request.respond folder).folder = folder) ∧
        ((request.respond folder).status = 0 ↔ (request.respond folder).failure = none) := by
  have general : ∀ (files : FileSystem) (state : files.State),
      AllOrNothing (request.Effect files state) state (request.action.ends files state).1
          (request.action.ends files state).2 ∧
        (request.command.isReadOnly = true → (request.action.ends files state).1 = state) := by
    intro files state
    have settled : AllOrNothing (request.Effect files state) state _ _ :=
      request.performs_action files state
    refine ⟨settled, fun readOnly => settled.unchanged ?_⟩
    rintro ⟨config, -, effect⟩
    exact Command.unchanged_of_effect readOnly effect
  refine ⟨general, fun folder => ?_⟩
  have settled := general Folder.files folder
  rw [Action.ends_folder] at settled
  exact ⟨settled.1, settled.2, request.status_eq_zero_iff folder⟩

theorem request_all_or_nothing_in_place :
    (Request.respond ⟨none, false, .wrap "a" "./a" (some "none")⟩ [("a", [7])]).failure = none ∧
      Request.Effect Folder.files ⟨none, false, .wrap "a" "./a" (some "none")⟩ [("a", [7])]
        [("a", [0, 7])] ∧
      (Request.respond ⟨none, false, .unwrap "b" "a"⟩ [("a", [7])]).failure ≠ none ∧
      (Request.respond ⟨none, false, .unwrap "b" "a"⟩ [("a", [7])]).folder = [("a", [7])] ∧
      Command.isReadOnly (.inspect "a" true) = true ∧
      (Request.respond ⟨none, false, .inspect "a" true⟩ [("a", [7])]).folder = [("a", [7])] := by
  have wrapped := (request_all_or_nothing ⟨none, false, .wrap "a" "./a" (some "none")⟩).2
    [("a", [7])]
  have missing := (request_all_or_nothing ⟨none, false, .unwrap "b" "a"⟩).2 [("a", [7])]
  have inspected := (request_all_or_nothing ⟨none, false, .inspect "a" true⟩).2 [("a", [7])]
  have finished : (Request.respond ⟨none, false, .wrap "a" "./a" (some "none")⟩
      [("a", [7])]).failure = none := by decide +kernel
  have replaced : (Request.respond ⟨none, false, .wrap "a" "./a" (some "none")⟩
      [("a", [7])]).folder = [("a", [0, 7])] := by decide +kernel
  have failed : (Request.respond ⟨none, false, .unwrap "b" "a"⟩ [("a", [7])]).failure ≠ none := by
    decide +kernel
  have effect := wrapped.1.done.mp finished
  rw [replaced] at effect
  exact ⟨finished, effect, failed, missing.1.undone failed, rfl, inspected.2.1 rfl⟩

end TaggedBlock.CommandLine
