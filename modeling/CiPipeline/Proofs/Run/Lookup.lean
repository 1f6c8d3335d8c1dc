import CiPipeline.Machine.Launch
import CiPipeline.Pipeline.Build
import CiPipeline.Proofs.Machine.Follow
import CiPipeline.Proofs.Run.Place
import CiPipeline.Proofs.Run.Walk

/-!
# Lookup — which file a command reads

A command that reads a file stores the path joined to the base directory, and an execution joins
what is stored to the base directory again.  The file that is shown is therefore the file that is
read only when the second join changes nothing.

* `Command.Readable`: a path leads to the text of a file;
* `Command.reading`: what comes of reading the file at a path;
* `Command.result_execute_read`: an execution reads the stored path joined once more;
* `Pipeline.ReadsShown`: every run reads the file that is shown;
* `Pipeline.readsShown_iff`: the paths for which this holds.
-/

namespace CiPipeline

variable {σ : Type}

/-! ## One execution -/

namespace Command

/-- The path leads to a file, and its contents are text. -/
def Readable (env : Environment σ) (path : Path) (s : σ) : Prop :=
  env.present path s = true ∧ ∃ text, env.readText path s = .ok text

/-- What comes of reading the file at a path. -/
def reading (env : Environment σ) (path : Path) (s : σ) : CommandResult :=
  if env.present path s then
    match env.readText path s with
    | .ok contents => .ofData contents
    | .error problem => .ofError (.io problem)
  else .ofError (.fileNotFound path)

theorem reading_code_iff (env : Environment σ) (path : Path) (s : σ) :
    (reading env path s).code = ResultCode.success ↔ Readable env path s := by
  have failed : ∀ error : CommandError,
      (CommandResult.ofError error).code ≠ ResultCode.success := CommandError.code_ne_success
  unfold reading Readable
  by_cases present : env.present path s = true
  · rw [if_pos present]
    cases env.readText path s with
    | ok contents => simp [present, CommandResult.ofData]
    | error problem => simp [failed]
  · rw [if_neg present]
    simp [failed, present]

theorem result_runFile_read (env : Environment σ) (path : Path) (variableName : String)
    (context : Context) (s : σ) :
    (runFile env .read path variableName context s).1 = reading env (context.resolve path) s := by
  simp only [runFile, reading]
  by_cases present : env.present (context.resolve path) s = true
  · rw [if_pos present, if_pos present]
    cases env.readText (context.resolve path) s with
    | ok contents => rfl
    | error problem => rfl
  · rw [if_neg present, if_neg present]

/-- An execution reads the stored path joined to the base directory, joined as it is already. -/
theorem result_execute_read (env : Environment σ) {c : Command} {path : Path}
    {variableName : String} (reads : c.action = .file .read path variableName) (world : Context × σ) :
    (execute env c world).1.result = reading env (world.1.baseDir.join path) world.2 := by
  rw [execute_eq, reads]
  exact result_runFile_read env path variableName world.1 world.2

theorem passed_execute_read_iff (env : Environment σ) {c : Command} {path : Path}
    {variableName : String} (reads : c.action = .file .read path variableName)
    (world : Context × σ) :
    (execute env c world).1.state = .passed ↔
      Readable env (world.1.baseDir.join path) world.2 := by
  have passed : (execute env c world).1.state = stateOf (execute env c world).1.result := rfl
  rw [passed, stateOf_eq_passed_iff, result_execute_read env reads, reading_code_iff]

end Command

/-! ## Building and running -/

namespace Pipeline

/-- The command that is built stores the path joined to the base directory. -/
theorem readIntoCommand_eq {p : Pipeline} {path : Path} {variableName id : String}
    {overwrite : Bool} {c : Command}
    (built : p.readIntoCommand path variableName overwrite id = .ok c) :
    c = .readInto (p.baseDir.join path) variableName id := by
  unfold readIntoCommand at built
  cases claimed : p.store.claim variableName overwrite with
  | error e =>
      rw [claimed] at built
      cases built
  | ok =>
      rw [claimed] at built
      cases built
      rfl

theorem addReadInto_eq {p q : Pipeline} {path : Path} {variableName id : String} {overwrite : Bool}
    (added : p.addReadInto path variableName overwrite id = .ok q) :
    q = p.onLastJob (·.push (.readInto (p.baseDir.join path) variableName id)) := by
  unfold addReadInto addCommand at added
  cases job : p.requireJob "to open a file" with
  | error e =>
      rw [job] at added
      cases added
  | ok =>
      cases built : p.readIntoCommand path variableName overwrite id with
      | error e =>
          rw [job, built] at added
          cases added
      | ok c =>
          rw [job, built] at added
          cases added
          rw [readIntoCommand_eq built]

theorem call_readInto_eq {p q : Pipeline} {handle : Handle} {path : Path}
    {variableName id : String} {overwrite : Bool}
    (added : Handle.call .job (.readInto path variableName overwrite id) p = .ok (handle, q)) :
    q = p.onLastJob (·.push (.readInto (p.baseDir.join path) variableName id)) := by
  simp only [Handle.call] at added
  cases built : p.readIntoCommand path variableName overwrite id with
  | error e =>
      rw [built] at added
      cases added
  | ok c =>
      rw [built] at added
      cases added
      rw [readIntoCommand_eq built]

/-- In every run, a command that shows a file passes exactly when this file can be read. -/
def ReadsShown (baseDir path : Path) : Prop :=
  ∀ {σ : Type} (env : Environment σ) (q : Pipeline) (s : σ) (e : Execution σ)
    (variableName : String), q.baseDir = baseDir → e ∈ q.executions env s →
    e.1.action = .file .read (baseDir.join path) variableName →
    ((e.outcome env).state = .passed ↔ Command.Readable env (baseDir.join path) e.2.2)

/-- A pipeline with one command, which reads a file. -/
def readingOnly (baseDir path : Path) : Pipeline :=
  ((ofDir baseDir 0).build [.stage "read", .job "read", .readInto path "text" false "read"]).1

theorem readingOnly_eq (baseDir path : Path) :
    readingOnly baseDir path =
      { ofDir baseDir 0 with
        stages := [⟨"read", false,
          [⟨"read", false, [.readInto (baseDir.join path) "text" "read"], .unstarted⟩], .unstarted⟩] } :=
  rfl

/-- A world with a single file, which is empty. -/
def onlyFile (path : Path) : Environment Unit where
  spawn := fun _ _ _ s => (.ok (.code 0), s)
  present := fun p _ => p == path
  readText := fun p _ => if p = path then .ok "" else .error .notFound
  printLine := fun _ s => (.ok (), s)

theorem executions_readingOnly (env : Environment σ) (baseDir path : Path) (s : σ) :
    (readingOnly baseDir path).executions env s =
      [(.readInto (baseDir.join path) "text" "read", .ofDir baseDir 0, s)] := by
  rw [readingOnly_eq]
  simp only [executions, walk, List.map, Run.inOrder_singleton, Stage.walk, Job.walk, Stage.reset,
    Job.reset]
  rfl

theorem commands_execute_readingOnly (env : Environment σ) (baseDir path : Path) (s : σ) :
    ((readingOnly baseDir path).execute env s).1.commands =
      [(Command.execute env (.readInto (baseDir.join path) "text" "read") (.ofDir baseDir 0, s)).1] := by
  rw [readingOnly_eq, execute_eq_walk]
  simp only [walk, List.map, Run.inOrder_singleton, Stage.walk, Job.walk, Stage.reset, Job.reset,
    commands, Stage.commands, List.flatMap_cons, List.flatMap_nil, List.append_nil]
  rfl

theorem result_execution_read {env : Environment σ} {q : Pipeline} {s : σ} {e : Execution σ}
    {path : Path} {variableName : String} (mem : e ∈ q.executions env s)
    (reads : e.1.action = .file .read path variableName) :
    (e.outcome env).result = Command.reading env (q.baseDir.join path) e.2.2 := by
  rw [← baseDir_of_mem_executions mem]
  exact Command.result_execute_read env reads e.2

theorem passed_execution_read_iff {env : Environment σ} {q : Pipeline} {s : σ} {e : Execution σ}
    {path : Path} {variableName : String} (mem : e ∈ q.executions env s)
    (reads : e.1.action = .file .read path variableName) :
    (e.outcome env).state = .passed ↔ Command.Readable env (q.baseDir.join path) e.2.2 := by
  rw [← baseDir_of_mem_executions mem]
  exact Command.passed_execute_read_iff env reads e.2

theorem readsShown_iff (baseDir path : Path) : ReadsShown baseDir path ↔ baseDir.Absorbs path := by
  constructor
  · intro shown
    rw [← Path.join_join_eq_iff]
    -- In a world where nothing but the file that is shown exists, reading it must succeed.
    let env := onlyFile (baseDir.join path)
    have mem : (.readInto (baseDir.join path) "text" "read", .ofDir baseDir 0, ()) ∈
        (readingOnly baseDir path).executions env () := by
      rw [executions_readingOnly]
      exact List.mem_singleton_self _
    have there : Command.Readable env (baseDir.join path) () := by
      simp [env, onlyFile, Command.Readable]
    have passed := (shown env (readingOnly baseDir path) () _ "text" rfl mem rfl).2 there
    have found := (passed_execution_read_iff mem rfl).1 passed
    have same : (readingOnly baseDir path).baseDir = baseDir := rfl
    rw [same] at found
    simpa [env, onlyFile] using found.1
  · intro absorbs σ env q s e variableName same mem reads
    have passed := passed_execution_read_iff mem reads
    rwa [same, (Path.join_join_eq_iff baseDir path).2 absorbs] at passed

end Pipeline

/-- On a machine, a base that stays where it is leads to the file that is shown. -/
theorem World.readable_join_join (w : World) {base path : Path} (stays : base.Stays)
    (short : (base.join (base.join path)).text.utf8ByteSize ≤ FileSystem.longestPath) :
    Command.Readable World.environment (base.join (base.join path)) w ↔
      Command.Readable World.environment (base.join path) w := by
  simp only [Command.Readable, World.environment, World.present, World.readText,
    FileSystem.present_join_join w.files w.directory stays short,
    FileSystem.readText_join_join w.files w.directory stays short]

/-- A command that reads a file shows its path joined to the base directory once, and reads the file
at this path joined to the base directory again: this is the same path exactly when the base
directory is absolute or empty or the path is absolute, and on a machine the same file also when the
base directory consists of redundant parts. -/
theorem read_looks_up_twice_joined (baseDir path : Path) (variableName : String) :
    (∀ (p q : Pipeline) (overwrite : Bool) (id : String), p.baseDir = baseDir →
      p.addReadInto path variableName overwrite id = .ok q →
      q = p.onLastJob (·.push (.readInto (baseDir.join path) variableName id)) ∧
        q.baseDir = baseDir) ∧
    (∀ (p q : Pipeline) (overwrite : Bool) (id : String) (handle : Handle), p.baseDir = baseDir →
      Handle.call .job (.readInto path variableName overwrite id) p = .ok (handle, q) →
      q = p.onLastJob (·.push (.readInto (baseDir.join path) variableName id)) ∧
        q.baseDir = baseDir) ∧
    (∀ {σ : Type} (env : Environment σ) (q : Pipeline) (s : σ) (e : Execution σ),
      q.baseDir = baseDir → e ∈ q.executions env s →
      e.1.action = .file .read (baseDir.join path) variableName →
      (e.outcome env).result = Command.reading env (baseDir.join (baseDir.join path)) e.2.2 ∧
        ((e.outcome env).state = .passed ↔
          Command.Readable env (baseDir.join (baseDir.join path)) e.2.2)) ∧
    (baseDir.join (baseDir.join path) = baseDir.join path ↔
      baseDir.isAbsolute = true ∨ path.isAbsolute = true ∨ baseDir.text = "") ∧
    (Pipeline.ReadsShown baseDir path ↔
      baseDir.isAbsolute = true ∨ path.isAbsolute = true ∨ baseDir.text = "") ∧
    (baseDir.Stays →
      (baseDir.join (baseDir.join path)).text.utf8ByteSize ≤ FileSystem.longestPath →
      ∀ w : World, Command.Readable World.environment (baseDir.join (baseDir.join path)) w ↔
        Command.Readable World.environment (baseDir.join path) w) := by
  refine ⟨?_, ?_, ?_, ?_, ?_, ?_⟩
  · rintro p q overwrite id rfl added
    have same := Pipeline.addReadInto_eq added
    exact ⟨same, by rw [same]; rfl⟩
  · rintro p q overwrite id handle rfl added
    have same := Pipeline.call_readInto_eq added
    exact ⟨same, by rw [same]; rfl⟩
  · rintro σ env q s e rfl mem reads
    exact ⟨Pipeline.result_execution_read mem reads, Pipeline.passed_execution_read_iff mem reads⟩
  · exact Path.join_join_eq_iff baseDir path
  · exact Pipeline.readsShown_iff baseDir path
  · intro stays short w
    exact w.readable_join_join stays short

/-- A machine with the file `sub/V` in its working directory. -/
def World.inSub : World :=
  ⟨⟨[(["sub"], .directory), (["sub", "V"], .file "in sub".toUTF8 false)]⟩, [], .empty⟩

theorem World.locate_inSub :
    World.inSub.files.locate [] ⟨"sub/V"⟩ = .ok (["sub", "V"], true) ∧
      World.inSub.files.locate [] ⟨"sub/sub/V"⟩ = .error .notFound := by
  have once : (⟨"sub/V"⟩ : Path).components = ["sub", "V"] := by decide
  have twice : (⟨"sub/sub/V"⟩ : Path).components = ["sub", "sub", "V"] := by decide
  have sizes : ¬ FileSystem.longestPath < "sub/V".utf8ByteSize ∧
      ¬ FileSystem.longestPath < "sub/sub/V".utf8ByteSize ∧
      ¬ FileSystem.longestName < "sub".utf8ByteSize ∧
      ¬ FileSystem.longestName < "V".utf8ByteSize := by decide
  constructor
  · simp [World.inSub, FileSystem.locate, once, sizes, FileSystem.follow, FileSystem.isDirectory,
      FileSystem.entry?, FileSystem.entryIn]
  · simp [World.inSub, FileSystem.locate, twice, sizes, FileSystem.follow, FileSystem.isDirectory,
      FileSystem.entry?, FileSystem.entryIn]

/-- Below a relative base directory, the file that is shown can be read and is not the one that is
looked for. -/
theorem shown_file_not_read :
    let q := Pipeline.readingOnly ⟨"sub"⟩ ⟨"V"⟩
    q.commands.map Command.action = [.file .read ⟨"sub/V"⟩ "text"] ∧
      Command.Readable World.environment ⟨"sub/V"⟩ World.inSub ∧
      (q.execute World.environment World.inSub).1.commands.map Command.result =
        [.ofError (.fileNotFound ⟨"sub/sub/V"⟩)] ∧
      ¬ Pipeline.ReadsShown ⟨"sub"⟩ ⟨"V"⟩ := by
  intro q
  rcases World.locate_inSub with ⟨shown, missed⟩
  refine ⟨by decide, ⟨?_, "in sub", ?_⟩, ?_, ?_⟩
  · change World.inSub.files.present [] _ = true
    simp only [FileSystem.present, FileSystem.entryAt, FileSystem.locateExisting, shown]
    decide
  · have held : World.inSub.files.entry? ["sub", "V"] = some (.file "in sub".toUTF8 false) := by
      decide
    have decoded : String.fromUTF8? "in sub".toUTF8 = some "in sub" := by decide +kernel
    change World.inSub.files.readText [] _ = _
    simp only [FileSystem.readText, FileSystem.readBytes, FileSystem.locateExisting, shown, held,
      decoded]
  · have absent : World.environment.present ⟨"sub/sub/V"⟩ World.inSub = false := by
      change World.inSub.files.present [] _ = false
      simp only [FileSystem.present, FileSystem.entryAt, FileSystem.locateExisting, missed]
      rfl
    have joined : (⟨"sub"⟩ : Path).join ⟨"V"⟩ = ⟨"sub/V"⟩ ∧
        (⟨"sub"⟩ : Path).join ⟨"sub/V"⟩ = ⟨"sub/sub/V"⟩ := by decide
    have result := Command.result_execute_read World.environment
      (c := .readInto ⟨"sub/V"⟩ "text" "read") rfl (Context.ofDir ⟨"sub"⟩ 0, World.inSub)
    change _ = Command.reading World.environment (Path.join ⟨"sub"⟩ _) World.inSub at result
    rw [joined.2, Command.reading, absent] at result
    rw [Pipeline.commands_execute_readingOnly, joined.1, List.map_singleton, result]
    rfl
  · rw [Pipeline.readsShown_iff]
    decide

end CiPipeline
