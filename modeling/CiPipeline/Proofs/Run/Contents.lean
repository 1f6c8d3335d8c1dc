import CiPipeline.Machine.Launch
import CiPipeline.Proofs.Definition.Visit
import CiPipeline.Proofs.Run.Lookup
import CiPipeline.Proofs.Run.Trace

/-!
# Contents — what comes of a file command

A file command ends in one of four ways, and each way has its own condition on the operation and on the
file.  Three of them are failures, which leave everything as it was; the fourth puts the contents of the
file into the variable.

* `Command.FailsWith`, `Command.Delivers`: how an execution ends;
* `Command.got`, `Command.got_iff`: what a file command gets, an error or a text;
* `Command.failsWith_iff`, `Command.delivers_iff`: it fails with the error or delivers the text;
* `Entry.bytes?`, `FileSystem.readText_ok_iff`: what can be read on a machine;
* `file_command_outcome`: each way with its condition.
-/

namespace CiPipeline

variable {σ : Type} {env : Environment σ}

namespace Command

/-! ## Ends of executions -/

/-- An execution fails with an error and a code.  It records neither data nor output, and it leaves the
store, the rest of the context and its surroundings as they were. -/
structure FailsWith (env : Environment σ) (c : Command) (world : Context × σ)
    (error : CommandError) (code : Int) : Prop where
  state : (execute env c world).1.state = .failed
  error : (execute env c world).1.result.error = some error
  code : (execute env c world).1.result.code = code
  data : (execute env c world).1.result.data = none
  output : (execute env c world).1.result.output = none
  world : (execute env c world).2 = world

/-- An execution passes with data, which it puts into a variable.  Nothing else is changed. -/
structure Delivers (env : Environment σ) (c : Command) (world : Context × σ) (variableName : String)
    (contents : String) : Prop where
  state : (execute env c world).1.state = .passed
  error : (execute env c world).1.result.error = none
  code : (execute env c world).1.result.code = 0
  data : (execute env c world).1.result.data = some contents
  output : (execute env c world).1.result.output = none
  bound : ∀ name, (execute env c world).2.1.store.get? name =
    if variableName = name then some (.text contents) else world.1.store.get? name
  context : (execute env c world).2.1 =
    { world.1 with store := (execute env c world).2.1.store }
  surroundings : (execute env c world).2.2 = world.2

variable {c : Command} {world : Context × σ} {error other : CommandError} {code code' : Int}
  {operation : FileOperation} {path : Path} {variableName contents : String}

theorem FailsWith.unique (fails : FailsWith env c world error code)
    (again : FailsWith env c world other code') : error = other :=
  Option.some.inj (fails.error.symm.trans again.error)

theorem FailsWith.not_delivers (fails : FailsWith env c world error code) :
    ¬ Delivers env c world variableName contents := by
  intro delivers
  cases fails.state.symm.trans delivers.state

theorem Delivers.unique {contents' : String} (delivers : Delivers env c world variableName contents)
    (again : Delivers env c world variableName contents') : contents = contents' :=
  Option.some.inj (delivers.data.symm.trans again.data)

/-! ## Executions of file commands -/

theorem failsWith_of_dispatch
    (ends : dispatch env c.action world.1 world.2 = (.ofError error, world)) :
    FailsWith env c world error error.code := by
  have executed : execute env c world =
      ({ c with state := .failed, result := .ofError error }, world) := by
    rw [execute_eq, ends, ← stateOf_ofError error]
  constructor
  all_goals rw [executed]
  all_goals rfl

theorem delivers_of_dispatch
    (ends : dispatch env c.action world.1 world.2 =
      (.ofData contents,
        { world.1 with store := world.1.store.insert variableName (.text contents) }, world.2)) :
    Delivers env c world variableName contents := by
  have executed : execute env c world =
      ({ c with state := .passed, result := .ofData contents },
        { world.1 with store := world.1.store.insert variableName (.text contents) }, world.2) := by
    rw [execute_eq, ends]
    rfl
  constructor
  case bound =>
    intro name
    rw [executed]
    exact world.1.store.get?_insert variableName name (.text contents)
  all_goals rw [executed]
  all_goals rfl

/-- What a file command gets: the text that it reads, or the error that it fails with. -/
def got (env : Environment σ) (operation : FileOperation) (path : Path) (world : Context × σ) :
    Except CommandError String :=
  match operation with
  | .write => .error (.unsupportedOperation .write)
  | .read =>
    if env.present (world.1.resolve path) world.2 then
      match env.readText (world.1.resolve path) world.2 with
      | .ok contents => .ok contents
      | .error problem => .error (.io problem)
    else .error (.fileNotFound (world.1.resolve path))

theorem dispatch_file_eq (env : Environment σ) (operation : FileOperation) (path : Path)
    (variableName : String) (world : Context × σ) :
    dispatch env (.file operation path variableName) world.1 world.2 =
      match got env operation path world with
      | .error error => (.ofError error, world)
      | .ok contents => (.ofData contents,
          { world.1 with store := world.1.store.insert variableName (.text contents) }, world.2) := by
  cases operation with
  | write => rfl
  | read =>
      simp only [dispatch, runFile, got]
      split
      · cases env.readText (world.1.resolve path) world.2 with
        | error problem => rfl
        | ok contents => rfl
      · rfl

/-- The condition of each thing that a file command gets. -/
theorem got_iff (env : Environment σ) (operation : FileOperation) (path : Path)
    (world : Context × σ) :
    (got env operation path world = .error (.unsupportedOperation operation) ↔
      operation ≠ .read) ∧
    (got env operation path world = .error (.fileNotFound (world.1.resolve path)) ↔
      operation = .read ∧ env.present (world.1.resolve path) world.2 = false) ∧
    (∀ problem, got env operation path world = .error (.io problem) ↔
      operation = .read ∧ env.present (world.1.resolve path) world.2 = true ∧
        env.readText (world.1.resolve path) world.2 = .error problem) ∧
    ∀ contents, got env operation path world = .ok contents ↔
      operation = .read ∧ env.present (world.1.resolve path) world.2 = true ∧
        env.readText (world.1.resolve path) world.2 = .ok contents := by
  cases operation with
  | write => simp [got]
  | read =>
      cases present : env.present (world.1.resolve path) world.2 with
      | false => simp [got, present]
      | true =>
          cases result : env.readText (world.1.resolve path) world.2 with
          | error problem => simp [got, present, result]
          | ok contents => simp [got, present, result]

section File

variable (file : c.action = .file operation path variableName) (env : Environment σ)
  (world : Context × σ)
include file

/-- A file command fails with the error that it gets, or delivers the text. -/
theorem file_cases :
    (∃ error, got env operation path world = .error error ∧ FailsWith env c world error error.code) ∨
      ∃ contents, got env operation path world = .ok contents ∧
        Delivers env c world variableName contents := by
  have ends := dispatch_file_eq env operation path variableName world
  rw [← file] at ends
  cases result : got env operation path world with
  | error error =>
      rw [result] at ends
      exact .inl ⟨error, rfl, failsWith_of_dispatch ends⟩
  | ok contents =>
      rw [result] at ends
      exact .inr ⟨contents, rfl, delivers_of_dispatch ends⟩

theorem failsWith_iff (error : CommandError) : FailsWith env c world error error.code ↔
    got env operation path world = .error error := by
  rcases file_cases file env world with ⟨met, result, fails⟩ | ⟨contents, result, delivers⟩
  · rw [result, Except.error.injEq]
    refine ⟨fun again => fails.unique again, ?_⟩
    rintro rfl
    exact fails
  · rw [result]
    exact iff_of_false (fun fails => fails.not_delivers delivers) (by simp)

theorem delivers_iff (contents : String) : Delivers env c world variableName contents ↔
    got env operation path world = .ok contents := by
  rcases file_cases file env world with ⟨met, result, fails⟩ | ⟨read, result, delivers⟩
  · rw [result]
    exact iff_of_false fails.not_delivers (by simp)
  · rw [result, Except.ok.injEq]
    refine ⟨fun again => delivers.unique again, ?_⟩
    rintro rfl
    exact delivers

theorem fails_missing_iff :
    FailsWith env c world (.fileNotFound (world.1.resolve path)) (-3) ↔
      operation = .read ∧ env.present (world.1.resolve path) world.2 = false :=
  (failsWith_iff file env world _).trans (got_iff env operation path world).2.1

theorem fails_unreadable_iff (problem : IoProblem) :
    FailsWith env c world (.io problem) (-10000) ↔
      operation = .read ∧ env.present (world.1.resolve path) world.2 = true ∧
        env.readText (world.1.resolve path) world.2 = .error problem :=
  (failsWith_iff file env world _).trans ((got_iff env operation path world).2.2.1 problem)

theorem delivers_readable_iff (contents : String) :
    Delivers env c world variableName contents ↔
      operation = .read ∧ env.present (world.1.resolve path) world.2 = true ∧
        env.readText (world.1.resolve path) world.2 = .ok contents :=
  (delivers_iff file env world contents).trans ((got_iff env operation path world).2.2.2 contents)

/-- Whatever a file command fails with, it records the error alone and leaves its world as it was. -/
theorem kept_of_failed (failed : (execute env c world).1.state = .failed) :
    ∃ error, FailsWith env c world error error.code := by
  rcases file_cases file env world with ⟨error, _, fails⟩ | ⟨_, _, delivers⟩
  · exact ⟨error, fails⟩
  · cases failed.symm.trans delivers.state

end File

/-- Without an operation that reads, the surroundings make no difference. -/
theorem execute_unread {σ' : Type} (env' : Environment σ')
    (file : c.action = .file operation path variableName) (other : operation ≠ .read)
    (context : Context) (s : σ) (s' : σ') :
    (execute env' c (context, s')).1 = (execute env c (context, s)).1 := by
  cases operation with
  | read => exact absurd rfl other
  | write =>
      rw [execute_eq, execute_eq, file]
      rfl

end Command

/-! ## Reading on a machine -/

/-- The bytes that can be read at an entry; directories have none. -/
def Entry.bytes? : Entry → Option ByteArray
  | .file contents _ => some contents
  | .device => some .empty
  | .program _ => some FileSystem.programBytes
  | .directory => none
  | .link _ => none

theorem fromUTF8?_eq_some_iff {bytes : ByteArray} {text : String} :
    String.fromUTF8? bytes = some text ↔ bytes = text.toUTF8 := by
  constructor
  · intro decoded
    unfold String.fromUTF8? at decoded
    split at decoded
    · cases decoded
      rfl
    · cases decoded
  · rintro rfl
    exact Definition.fromUTF8?_toUTF8 text

namespace FileSystem

variable {fs : FileSystem} {directory : Location} {path : Path}

theorem readBytes_ok_iff {bytes : ByteArray} :
    fs.readBytes directory path = .ok bytes ↔
      ∃ e, fs.entryAt directory path = some e ∧ e.bytes? = some bytes := by
  unfold readBytes entryAt
  cases fs.locateExisting directory path with
  | error problem => simp
  | ok location =>
      cases held : fs.entry? location with
      | none => simp [held]
      | some e =>
          cases e with
          | file contents executable => simp [held, Entry.bytes?]
          | directory => simp [held, Entry.bytes?]
          | link target => simp [held, Entry.bytes?]
          | device => simp [held, Entry.bytes?]
          | program name => simp [held, Entry.bytes?]

/-- A text is read when it is encoded by all the bytes of an entry. -/
theorem readText_ok_iff {text : String} :
    fs.readText directory path = .ok text ↔
      ∃ e, fs.entryAt directory path = some e ∧ e.bytes? = some text.toUTF8 := by
  rw [← readBytes_ok_iff, readText]
  cases fs.readBytes directory path with
  | error problem => simp
  | ok bytes =>
      rw [Except.ok.injEq, ← fromUTF8?_eq_some_iff]
      cases decoded : String.fromUTF8? bytes with
      | none => simp [decoded]
      | some read => simp [decoded]

theorem readText_error_iff :
    (∃ problem, fs.readText directory path = .error problem) ↔
      ∀ e, fs.entryAt directory path = some e → ∀ text : String, e.bytes? ≠ some text.toUTF8 := by
  cases result : fs.readText directory path with
  | error problem =>
      refine iff_of_true ⟨problem, rfl⟩ fun e found text bytes => ?_
      cases result.symm.trans (readText_ok_iff.2 ⟨e, found, bytes⟩)
  | ok text =>
      rcases readText_ok_iff.1 result with ⟨e, found, bytes⟩
      exact iff_of_false (by simp) fun none => none e found text bytes

end FileSystem

section Machine

variable {c : Command} {operation : FileOperation} {path : Path} {variableName : String}
  (file : c.action = .file operation path variableName) (context : Context) (w : World)
include file

theorem World.fails_missing_iff :
    c.FailsWith World.environment (context, w) (.fileNotFound (context.resolve path)) (-3) ↔
      operation = .read ∧ w.files.entryAt w.directory (context.resolve path) = none := by
  have present : World.environment.present (context.resolve path) w =
      (w.files.entryAt w.directory (context.resolve path)).isSome := rfl
  rw [Command.fails_missing_iff file World.environment (context, w), present, Option.isSome_eq_false_iff,
    Option.isNone_iff_eq_none]

theorem World.delivers_iff (contents : String) :
    c.Delivers World.environment (context, w) variableName contents ↔
      operation = .read ∧ ∃ e, w.files.entryAt w.directory (context.resolve path) = some e ∧
        e.bytes? = some contents.toUTF8 := by
  rw [Command.delivers_readable_iff file]
  refine and_congr_right fun _ => ?_
  have present : World.environment.present (context.resolve path) w =
      (w.files.entryAt w.directory (context.resolve path)).isSome := rfl
  have result : World.environment.readText (context.resolve path) w = .ok contents ↔ _ :=
    FileSystem.readText_ok_iff
  rw [present, result]
  -- What can be read is there.
  exact and_iff_right_of_imp fun ⟨e, found, _⟩ => Option.isSome_iff_exists.2 ⟨e, found⟩

theorem World.fails_unreadable_iff :
    (∃ problem, c.FailsWith World.environment (context, w) (.io problem) (-10000)) ↔
      operation = .read ∧
        ∃ e, w.files.entryAt w.directory (context.resolve path) = some e ∧
          ∀ text : String, e.bytes? ≠ some text.toUTF8 := by
  simp only [Command.fails_unreadable_iff file, exists_and_left]
  refine and_congr_right fun _ => ?_
  have present : World.environment.present (context.resolve path) w =
      (w.files.entryAt w.directory (context.resolve path)).isSome := rfl
  have result : (∃ problem, World.environment.readText (context.resolve path) w = .error problem) ↔
      _ := FileSystem.readText_error_iff
  rw [present, result]
  cases w.files.entryAt w.directory (context.resolve path) with
  | none => simp
  | some e => simp

end Machine

/-! ## The outcome -/

/-- A file command that does not read fails, whatever its surroundings are.  One that reads fails when it
finds nothing at the path, resolved against the base directory; when something is there that cannot be
read as a text, it fails with the problem; and else it passes, with the whole text as its data and as the
value of its variable, whatever this held.  Failing commands record their error alone and change nothing.

On a machine, a file is read when the text is encoded by all of its bytes; directories and other bytes
are the files that are there and cannot be read. -/
theorem file_command_outcome (c : Command) {operation : FileOperation} {path : Path}
    {variableName : String} (file : c.action = .file operation path variableName) :
    (∀ {σ : Type} (env : Environment σ) (world : Context × σ),
      (c.FailsWith env world (.unsupportedOperation operation) (-2) ↔ operation ≠ .read) ∧
      (operation ≠ .read → ∀ {σ' : Type} (env' : Environment σ') (s' : σ'),
        (c.execute env' (world.1, s')).1 = (c.execute env world).1) ∧
      (c.FailsWith env world (.fileNotFound (world.1.resolve path)) (-3) ↔
        operation = .read ∧ env.present (world.1.resolve path) world.2 = false) ∧
      (∀ problem, c.FailsWith env world (.io problem) (-10000) ↔
        operation = .read ∧ env.present (world.1.resolve path) world.2 = true ∧
          env.readText (world.1.resolve path) world.2 = .error problem) ∧
      (∀ contents, c.Delivers env world variableName contents ↔
        operation = .read ∧ env.present (world.1.resolve path) world.2 = true ∧
          env.readText (world.1.resolve path) world.2 = .ok contents) ∧
      ((c.execute env world).1.state = .failed →
        ∃ error, c.FailsWith env world error error.code)) ∧
    ∀ (context : Context) (w : World),
      (c.FailsWith World.environment (context, w) (.fileNotFound (context.resolve path)) (-3) ↔
        operation = .read ∧ w.files.entryAt w.directory (context.resolve path) = none) ∧
      ((∃ problem, c.FailsWith World.environment (context, w) (.io problem) (-10000)) ↔
        operation = .read ∧ ∃ e, w.files.entryAt w.directory (context.resolve path) = some e ∧
          ∀ text : String, e.bytes? ≠ some text.toUTF8) ∧
      ∀ contents, c.Delivers World.environment (context, w) variableName contents ↔
        operation = .read ∧ ∃ e, w.files.entryAt w.directory (context.resolve path) = some e ∧
          e.bytes? = some contents.toUTF8 := by
  refine ⟨fun env world => ⟨?_, ?_, ?_, ?_, ?_, ?_⟩, fun context w => ⟨?_, ?_, fun contents => ?_⟩⟩
  · exact (Command.failsWith_iff file env world _).trans (Command.got_iff env operation path world).1
  · exact fun other _ env' s' => Command.execute_unread env' file other world.1 world.2 s'
  · exact Command.fails_missing_iff file env world
  · exact Command.fails_unreadable_iff file env world
  · exact Command.delivers_readable_iff file env world
  · exact Command.kept_of_failed file env world
  · exact World.fails_missing_iff file context w
  · exact World.fails_unreadable_iff file context w
  · exact World.delivers_iff file context w contents

/-- A variable that holds something else takes the text of the file; where there is no file, it keeps
what it holds. -/
theorem file_command_outcome_overwriting :
    let c : Command := .readInto ⟨"V"⟩ "v" "c"
    let store := Store.empty.insert "v" (.bool true)
    c.action = .file .read ⟨"V"⟩ "v" ∧
      c.Delivers World.environment (⟨store, ⟨"sub"⟩, 0⟩, World.inSub) "v" "in sub" ∧
      c.FailsWith World.environment (⟨store, ⟨"sub/sub"⟩, 0⟩, World.inSub)
        (.fileNotFound ⟨"sub/sub/V"⟩) (-3) := by
  intro c store
  have file : c.action = .file .read ⟨"V"⟩ "v" := rfl
  let below (directory : String) : Context := ⟨store, ⟨directory⟩, 0⟩
  have joined : (below "sub").resolve ⟨"V"⟩ = ⟨"sub/V"⟩ ∧
      (below "sub/sub").resolve ⟨"V"⟩ = ⟨"sub/sub/V"⟩ := by decide
  rcases World.locate_inSub with ⟨shown, missed⟩
  have held : World.inSub.files.entryAt [] ⟨"sub/V"⟩ = some (.file "in sub".toUTF8 false) := by
    simp only [FileSystem.entryAt, FileSystem.locateExisting, shown]
    decide
  have absent : World.inSub.files.entryAt [] ⟨"sub/sub/V"⟩ = none := by
    simp only [FileSystem.entryAt, FileSystem.locateExisting, missed]
  have machine := fun directory => (file_command_outcome c file).2 (below directory) World.inSub
  refine ⟨file, ?_, ?_⟩
  · have reads := (machine "sub").2.2 "in sub"
    rw [joined.1] at reads
    exact reads.2 ⟨rfl, _, held, rfl⟩
  · have misses := (machine "sub/sub").1
    rw [joined.2] at misses
    exact misses.2 ⟨rfl, absent⟩

end CiPipeline
