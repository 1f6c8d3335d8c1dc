import CiPipeline.CommandLine.Basic
import CiPipeline.Proofs.History.Edit
import CiPipeline.Proofs.Run.Lockstep
import CiPipeline.Proofs.Run.Lookup
import CiPipeline.Proofs.Run.Trace

/-!
# Relocation — the same pipeline in another directory

The base directory of a pipeline decides where its processes run.  It also stands before the relative
paths of files, but the commands of a definition file have none: their paths begin in the directory
of the file that they are written in, wherever the pipeline is that took them over.  Without
processes, a pipeline of such commands does the same in every directory.

* `Command.exited`, `Command.execute_run`: what comes of a process;
* `Pipeline.executed_at`: the execution of the command at a place;
* `Pipeline.FromFiles`: pipelines whose commands are those of definition files;
* `Pipeline.execute_inDir`: runs in two directories;
* `CommandDefinition.CarriedOut`: where a written command looks and runs;
* `base_directory_moves_processes_only`: where commands of files look, and what follows.
-/

namespace CiPipeline

variable {σ : Type}

/-! ## Where a command looks -/

namespace Command

/-- What comes of a process, seen from how it ended. -/
def exited (program : String) : Except IoProblem Exit → CommandResult
  | .ok (.code code) => .ofCode code
  | .ok .signal => .ofError (.terminated program)
  | .error problem => .ofError (.spawn program problem)

/-- A process runs in the base directory. -/
theorem execute_run (env : Environment σ) {c : Command} {script program : String}
    {args : List String} (runs : c.action = .run script program args) (world : Context × σ) :
    (execute env c world).1.result =
        exited program (env.spawn program args world.1.baseDir world.2).1 ∧
      (execute env c world).2.2 = (env.spawn program args world.1.baseDir world.2).2 := by
  rw [execute_eq, runs]
  simp only [dispatch, runProcess]
  cases (env.spawn program args world.1.baseDir world.2).1 with
  | error problem => exact ⟨rfl, rfl⟩
  | ok exit =>
      cases exit with
      | code code => exact ⟨rfl, rfl⟩
      | signal => exact ⟨rfl, rfl⟩

end Command

/-- What was executed is recorded, and the rest is as the reset left it. -/
theorem Pipeline.executed_at (env : Environment σ) {p : Pipeline} (s : σ) {i j k : Nat}
    {held : Command} (found : p.command? i j k = some held) :
    ∃ c, (p.execute env s).1.command? i j k = some c ∧ c.action = held.action ∧
      (c.state ≠ .unstarted → ∃ e ∈ p.executions env s, e.outcome env = c) := by
  have some : ((p.execute env s).1.command? i j k).isSome = true := by
    rw [isSome_command, found]
    rfl
  rcases Option.isSome_iff_exists.1 some with ⟨c, after⟩
  refine ⟨c, after, ?_, fun started => ?_⟩
  · -- Neither an execution nor the reset changes what a command does.
    rcases command_after after with ⟨before, stood, ⟨_, executed⟩ | ⟨_, rfl⟩⟩
    · rcases executed with ⟨context, s, _, rfl⟩
      cases found.symm.trans stood
      rfl
    · cases found.symm.trans stood
      rfl
  · refine p.exists_execution env s (mem_commands.2 ⟨i, j, k, after⟩) ?_
    simpa [Command.started, State.isUnstarted] using started

/-! ## Commands of files -/

/-- The command does what a command of some definition file does. -/
def Command.FromFile (c : Command) : Prop :=
  ∃ fs directory runId ids path loaded, Pipeline.ofFile fs directory runId ids path = .ok loaded ∧
    ∃ written ∈ loaded.commands, c.action = written.action

theorem Command.FromFile.fixed {c : Command} (known : c.FromFile) : c.Fixed := by
  rcases known with ⟨fs, directory, runId, ids, path, loaded, accepted, written, mem, same⟩
  intro operation path variableName reads
  exact Pipeline.fixed_of_ofFile accepted written mem operation path variableName
    (same.symm.trans reads)

namespace Pipeline

/-- All commands of the pipeline were taken over from definition files. -/
def FromFiles (p : Pipeline) : Prop := p.Each Command.FromFile

theorem fromFiles_of_ofFile {fs : FileSystem} {directory : Location} {runId : Nat}
    {ids : IdSupply} {path : Path} {loaded : Pipeline}
    (accepted : ofFile fs directory runId ids path = .ok loaded) : loaded.FromFiles :=
  fun c mem => ⟨fs, directory, runId, ids, path, loaded, accepted, c, mem, rfl⟩

theorem FromFiles.loadFile {p q : Pipeline} {fs : FileSystem} {directory : Location}
    {ids : IdSupply} {path : Path} (known : p.FromFiles)
    (done : p.loadFile fs directory ids path = .ok q) : q.FromFiles := by
  rcases loadFile_ok done with ⟨loaded, accepted, rfl⟩
  exact Each.append known (fromFiles_of_ofFile accepted)

theorem FromFiles.execute {p : Pipeline} (known : p.FromFiles) (env : Environment σ) (s : σ) :
    (p.execute env s).1.FromFiles := by
  intro c mem
  rcases p.executed_or_reset env s mem with ⟨before, there, ⟨context, s, _, rfl⟩ | rfl⟩
  · exact known before there
  · exact known before there

/-! ## Two directories -/

def inDir (p : Pipeline) (dir : Path) : Pipeline :=
  { p with context := { p.context with baseDir := dir } }

end Pipeline

/-- A command that starts no process and whose path is absolute does not see the base directory. -/
theorem Command.execute_fixed (env : Environment σ) {c : Command} (tame : c.Tame) (fixed : c.Fixed)
    (context : Context) (s : σ) (dir : Path) :
    Command.execute env c ({ context with baseDir := dir }, s) =
      let (after, left, s) := Command.execute env c (context, s)
      (after, { left with baseDir := dir }, s) := by
  cases action : c.action with
  | run script program args => exact absurd action (tame script program args)
  | print params => simp only [execute_eq, action, dispatch, runPrint]
  | file operation path variableName =>
      have absolute := fixed operation path variableName action
      cases operation with
      | write => simp only [execute_eq, action, dispatch, runFile]
      | read =>
          -- The base directory is put in front of the path again, which leaves an absolute one alone.
          have same : ∀ context : Context, context.resolve path = path :=
            fun context => Path.join_of_isAbsolute absolute context.baseDir
          simp only [execute_eq, action, dispatch, runFile, same]
          split
          · split
            · rfl
            · rfl
          · rfl

/-- Two runs that differ in the base directory differ in nothing else. -/
theorem lockstep_fixed (env : Environment σ) (dir : Path) :
    Lockstep env (fun c c' => c = c' ∧ c.Tame ∧ c.Fixed)
      (fun world world' => world' = ({ world.1 with baseDir := dir }, world.2)) := by
  refine Lockstep.of_equal fun c world world' known met => ?_
  rcases world with ⟨context, s⟩
  subst met
  have same := Command.execute_fixed env known.1 known.2 context s dir
  exact ⟨(congrArg Prod.fst same).symm, known, congrArg Prod.snd same⟩

/-- Pipelines that start no process and have absolute paths only run the same in any directory. -/
theorem Pipeline.execute_inDir (env : Environment σ) {p : Pipeline}
    (tame : ∀ c ∈ p.commands, c.Tame) (fixed : ∀ c ∈ p.commands, c.Fixed) (dir : Path) (s : σ) :
    (p.inDir dir).execute env s =
      (((p.execute env s).1.inDir dir), (p.execute env s).2) := by
  have cleared : p.stages.map Stage.reset = (p.inDir dir).stages.map Stage.reset := rfl
  have known : ∀ c ∈ p.commands, c.reset.Tame ∧ c.reset.Fixed :=
    fun c mem => ⟨tame c mem, fixed c mem⟩
  have met : ((p.inDir dir).context, s) = ({ p.context with baseDir := dir }, s) := rfl
  rcases (lockstep_fixed env dir).pipeline_eq cleared known met with ⟨state, stages, left⟩
  rcases Prod.mk.inj left with ⟨context, world⟩
  refine Prod.ext ?_ world
  calc
    ((p.inDir dir).execute env s).1
        = ⟨((p.inDir dir).execute env s).1.stages, p.allowFailure,
            ((p.inDir dir).execute env s).1.state, ((p.inDir dir).execute env s).1.context⟩ := rfl
    _ = (p.execute env s).1.inDir dir := by
          rw [← stages, ← state, context]
          rfl

/-! ## Where commands of files look -/

open Definition

/-- What is written in a directory stands at the place after a run.  If the run came to it, a path was
looked up from the directory of its file, and a process ran in the base directory of the pipeline. -/
def CommandDefinition.CarriedOut (written : CommandDefinition) (directory : Path) (id : String)
    (env : Environment σ) (p : Pipeline) (s : σ) (i j k : Nat) : Prop :=
  ∃ c, (p.execute env s).1.command? i j k = some c ∧
    c.action = (written.built directory id).action ∧
    (c.state ≠ .unstarted → ∃ e ∈ p.executions env s, e.outcome env = c ∧
      (∀ path variableName, written.action = .readInto path variableName →
        c.result = Command.reading env (directory.join path) e.2.2) ∧
      (∀ script, written.action = .run script →
        let ended := env.spawn (Script.split script).1 (Script.split script).2 p.baseDir e.2.2
        c.result = Command.exited (Script.split script).1 ended.1 ∧
          (Command.execute env e.1 e.2).2.2 = ended.2))

/-- A command that is written in a file is carried out wherever it is held. -/
theorem CommandDefinition.carriedOut (written : CommandDefinition) {directory : Path}
    (absolute : directory.isAbsolute = true) {id : String} (env : Environment σ) {p : Pipeline}
    (s : σ) {i j k : Nat} {held : Command} (found : p.command? i j k = some held)
    (same : held.action = (written.built directory id).action) :
    written.CarriedOut directory id env p s i j k := by
  rcases p.executed_at env s found with ⟨c, after, kept, executed⟩
  refine ⟨c, after, kept.trans same, fun started => ?_⟩
  rcases executed started with ⟨e, mem, rfl⟩
  -- An execution keeps the action, so it is that of the command that is written.
  have action : e.1.action = (written.built directory id).action := kept.trans same
  rcases written with ⟨definition, allowFailure⟩
  refine ⟨e, mem, rfl, ?_, ?_⟩
  · rintro path variableName rfl
    have fixed : (directory.join path).isAbsolute = true := by
      rw [Path.isAbsolute_join, absolute, Bool.or_true]
    rw [Pipeline.result_execution_read mem action, Path.join_of_isAbsolute fixed]
  · rintro script rfl
    have run := Command.execute_run env action e.2
    rw [Pipeline.baseDir_of_mem_executions mem] at run
    exact run

/-- What runs from the command line is the tree of the file, in the directory that is asked for. -/
theorem CommandLine.prepared_eq (dir dir' : Path) (runId : Nat) (loaded : Pipeline) :
    prepared dir runId loaded = (prepared dir' runId loaded).inDir dir := rfl

theorem CommandLine.stages_prepared (dir : Path) (runId : Nat) (loaded : Pipeline) :
    (prepared dir runId loaded).stages = loaded.stages := by
  simp [prepared, Pipeline.append, Pipeline.withAllowFailure, Pipeline.ofDir]

theorem CommandLine.commands_prepared (dir : Path) (runId : Nat) (loaded : Pipeline) :
    (prepared dir runId loaded).commands = loaded.commands := by
  rw [Pipeline.commands, stages_prepared, Pipeline.commands]

theorem CommandLine.runFile_eq (surroundings : Surroundings) (w : World) (path dir dir' : Path)
    (tame : ∀ loaded,
      Pipeline.ofFile w.files w.directory surroundings.runId surroundings.ids path = .ok loaded →
      ∀ c ∈ loaded.commands, c.Tame) :
    runFile surroundings w path dir = runFile surroundings w path dir' := by
  unfold runFile runFileIn withPipeline
  cases accepted : Pipeline.ofFile w.files w.directory surroundings.runId surroundings.ids path with
  | error e => rfl
  | ok loaded =>
      have fixed := Pipeline.fixed_of_ofFile accepted
      have still := tame loaded accepted
      rw [← commands_prepared dir' surroundings.runId] at fixed still
      have moved := Pipeline.execute_inDir World.environment still fixed dir w
      rw [← prepared_eq] at moved
      simp only [moved]
      rfl

/-- In a file that is accepted, each command that reads a file looks it up from the directory of the
file that it is written in, whatever pipeline executes it in whatever directory; processes run in the
directory of that pipeline.  So a pipeline of such commands that starts no process does the same in
every directory, and so does the command line. -/
theorem base_directory_moves_processes_only :
    (∀ (fs : FileSystem) (directory : Location) (runId : Nat) (ids : IdSupply) (path : Path)
      (loaded : Pipeline), Pipeline.ofFile fs directory runId ids path = .ok loaded →
      loaded.FromFiles ∧
      ∃ file definition origins, Describes fs directory path file definition ∧
        Writes fs directory file (ids.among definition.entries) origins ∧
        (∀ origin ∈ origins, ∃ path definition,
          Describes fs directory path origin.file definition ∧
            .stage origin.definition ∈ definition.entries) ∧
        loaded.stages = origins.map Origin.built ∧
        ∀ i j k origin written, origins[i]? = some origin → origin.command? j k = some written →
          loaded.command? i j k = some (written.built origin.directory (origin.drawn j k)) ∧
          ∀ {σ : Type} (env : Environment σ) (p : Pipeline) (s : σ) (i' j' k' : Nat)
            (held : Command), p.command? i' j' k' = some held →
            held.action = (written.built origin.directory (origin.drawn j k)).action →
            written.CarriedOut origin.directory (origin.drawn j k) env p s i' j' k') ∧
    (∀ (p q : Pipeline) (fs : FileSystem) (directory : Location) (ids : IdSupply) (path : Path),
      p.FromFiles → p.loadFile fs directory ids path = .ok q → q.FromFiles) ∧
    (∀ p q : Pipeline, p.FromFiles → q.FromFiles → (p.append q).FromFiles) ∧
    (∀ {σ : Type} (env : Environment σ) (p : Pipeline) (s : σ), p.FromFiles →
      (p.execute env s).1.FromFiles) ∧
    (∀ {σ : Type} (env : Environment σ) (p : Pipeline) (dir dir' : Path) (s : σ), p.FromFiles →
      (∀ c ∈ p.commands, c.Tame) →
      let q := (p.inDir dir).execute env s
      let q' := (p.inDir dir').execute env s
      q.1.state = q'.1.state ∧ q.1.stages = q'.1.stages ∧
      Runnable.status q.1 = Runnable.status q'.1 ∧ q.1.store = q'.1.store ∧ q.2 = q'.2) ∧
    (∀ (surroundings : CommandLine.Surroundings) (w : World) (path dir dir' : Path),
      (∀ loaded,
        Pipeline.ofFile w.files w.directory surroundings.runId surroundings.ids path = .ok loaded →
        ∀ c ∈ loaded.commands, c.Tame) →
      CommandLine.runFile surroundings w path dir =
        CommandLine.runFile surroundings w path dir') := by
  refine ⟨?_, ?_, ?_, ?_, ?_, ?_⟩
  · intro fs directory runId ids path loaded accepted
    rcases Pipeline.origins_of_ofFile accepted with
      ⟨file, definition, origins, describes, writes, written, same⟩
    refine ⟨Pipeline.fromFiles_of_ofFile accepted, file, definition, origins, describes, writes,
      written, same, ?_⟩
    intro i j k origin command at_i at_jk
    refine ⟨?_, fun env p s i' j' k' held => ?_⟩
    · rw [Pipeline.command?_of_origins same, at_i, Option.bind_some, at_jk, Option.map_some]
    · exact command.carriedOut (Location.isAbsolute_path _) env s
  · intro p q fs directory ids path known done
    exact known.loadFile done
  · intro p q known also
    exact Pipeline.Each.append known also
  · intro σ env p s known
    exact known.execute env s
  · intro σ env p dir dir' s known tame q q'
    have fixed : ∀ c ∈ p.commands, c.Fixed := fun c mem => (known c mem).fixed
    have there : q = _ := Pipeline.execute_inDir env tame fixed dir s
    have elsewhere : q' = _ := Pipeline.execute_inDir env tame fixed dir' s
    rw [there, elsewhere]
    exact ⟨rfl, rfl, rfl, rfl, rfl⟩
  · intro surroundings w path dir dir' tame
    exact CommandLine.runFile_eq surroundings w path dir dir' tame

/-- A machine with a definition file that names another one, which reads the file `V` beside it. -/
def World.nested : World :=
  ⟨⟨[(["sub"], .directory),
      (["sub", "p.yml"], .file "pipelyne:\n stages:\n - load: in/q.yml\n".toUTF8 false),
      (["sub", "in"], .directory),
      (["sub", "in", "q.yml"], .file ("pipelyne:\n stages:\n - name: s\n   jobs:\n   - name: j\n" ++
        "     commands:\n     - readFile:\n         path: V\n         variable: v\n").toUTF8 false),
      (["sub", "in", "V"], .file "1.0".toUTF8 false)]⟩, [], .empty⟩

/-- The stage that the inner file writes. -/
def StageDefinition.readingBeside : StageDefinition :=
  ⟨"s", false, [⟨"j", false, [⟨.readInto ⟨"V"⟩ "v", false⟩]⟩]⟩

theorem World.locateExisting_nested :
    World.nested.files.locateExisting [] ⟨"/sub/p.yml"⟩ = .ok ["sub", "p.yml"] ∧
      World.nested.files.locateExisting [] ⟨"/sub/in/q.yml"⟩ = .ok ["sub", "in", "q.yml"] := by
  have outer : (⟨"/sub/p.yml"⟩ : Path).components = ["sub", "p.yml"] := by decide
  have inner : (⟨"/sub/in/q.yml"⟩ : Path).components = ["sub", "in", "q.yml"] := by decide
  have absolute : (⟨"/sub/p.yml"⟩ : Path).isAbsolute = true ∧
      (⟨"/sub/in/q.yml"⟩ : Path).isAbsolute = true := by decide
  have sizes : ¬ FileSystem.longestPath < "/sub/p.yml".utf8ByteSize ∧
      ¬ FileSystem.longestPath < "/sub/in/q.yml".utf8ByteSize ∧
      ¬ FileSystem.longestName < "sub".utf8ByteSize ∧
      ¬ FileSystem.longestName < "p.yml".utf8ByteSize ∧
      ¬ FileSystem.longestName < "in".utf8ByteSize ∧
      ¬ FileSystem.longestName < "q.yml".utf8ByteSize := by decide
  constructor
  · simp [World.nested, FileSystem.locateExisting, FileSystem.locate, outer, absolute, sizes,
      FileSystem.follow, FileSystem.isDirectory, FileSystem.entry?, FileSystem.entryIn]
  · simp [World.nested, FileSystem.locateExisting, FileSystem.locate, inner, absolute, sizes,
      FileSystem.follow, FileSystem.isDirectory, FileSystem.entry?, FileSystem.entryIn]

theorem World.describes_nested :
    Describes World.nested.files [] ⟨"/sub/p.yml"⟩ ["sub", "p.yml"]
        ⟨false, [.load ⟨"in/q.yml"⟩]⟩ ∧
      Describes World.nested.files [] ⟨"/sub/in/q.yml"⟩ ["sub", "in", "q.yml"]
        ⟨false, [.stage .readingBeside]⟩ := by
  rcases World.locateExisting_nested with ⟨outer, inner⟩
  constructor
  · exact describes_of_file outer rfl (by decide +kernel)
  · exact describes_of_file inner rfl (by decide +kernel)

/-- The pipeline of the outer file. -/
def Pipeline.nested (ids : IdSupply) : Pipeline :=
  ⟨[StageDefinition.readingBeside.built ⟨"/sub/in"⟩ ((ids.part 0).part 0)], false, .unstarted,
    .ofDir ⟨"/sub"⟩ 0⟩

theorem World.ofFile_nested (ids : IdSupply) :
    Pipeline.ofFile World.nested.files [] 0 ids ⟨"/sub/p.yml"⟩ = .ok (.nested ids) := by
  rcases World.describes_nested with ⟨outer, inner⟩
  have loaded := loadFrom_of_describes (v := ⟨[], ⟨"/sub/p.yml"⟩⟩) 0 ids outer (by simp)
  have within := loadFrom_of_describes (v := ⟨[["sub", "p.yml"]], ⟨"/sub/in/q.yml"⟩⟩) 0 (ids.part 0)
    inner (by simp)
  rw [build, IdSupply.among, List.zipIdx_singleton, List.map_singleton, addEntries_stage] at within
  rw [build, IdSupply.among, List.zipIdx_singleton, List.map_singleton, addEntries_load_ok within]
    at loaded
  exact loaded

/-- Run in two directories, one of them relative, the outer file reads the file beside the inner one. -/
theorem base_directory_moves_processes_only_nested :
    let ids : IdSupply := .ofSeed 0
    let p := Pipeline.nested ids
    let surroundings : CommandLine.Surroundings := ⟨none, none, 0, ids⟩
    Pipeline.ofFile World.nested.files [] 0 ids ⟨"/sub/p.yml"⟩ = .ok p ∧
      p.FromFiles ∧ (∀ c ∈ p.commands, c.Tame) ∧
      CommandDefinition.CarriedOut ⟨.readInto ⟨"V"⟩ "v", false⟩ ⟨"/sub/in"⟩ (ids [0, 0, 0, 0])
        World.environment
        (p.inDir ⟨"elsewhere"⟩) World.nested 0 0 0 ∧
      ((p.inDir ⟨"/"⟩).execute World.environment World.nested).1.stages =
        ((p.inDir ⟨"elsewhere"⟩).execute World.environment World.nested).1.stages ∧
      CommandLine.runFile surroundings World.nested ⟨"/sub/p.yml"⟩ ⟨"/"⟩ =
        CommandLine.runFile surroundings World.nested ⟨"/sub/p.yml"⟩ ⟨"elsewhere"⟩ := by
  intro ids p surroundings
  rcases base_directory_moves_processes_only with ⟨files, _, _, _, runs, line⟩
  have accepted := World.ofFile_nested ids
  rcases World.describes_nested with ⟨outer, inner⟩
  rcases files _ _ _ _ _ _ accepted with
    ⟨known, file, definition, origins, describes, writes, _, _, each⟩
  have held : p.commands =
      [.readInto ((⟨"/sub/in"⟩ : Path).join ⟨"V"⟩) "v" (ids [0, 0, 0, 0])] := rfl
  have tame : ∀ c ∈ p.commands, c.Tame := by
    intro c mem script program args action
    rw [held] at mem
    cases List.mem_singleton.1 mem
    cases action
  refine ⟨accepted, known, tame, ?_, ?_, ?_⟩
  · -- The one stage is written in the inner file.
    rcases describes.unique outer with ⟨rfl, rfl⟩
    cases writes with
    | load describes' within onward =>
        rcases describes'.unique inner with ⟨rfl, rfl⟩
        cases onward
        cases within with
        | stage onward =>
            cases onward
            exact (each 0 0 0 _ _ rfl rfl).2 World.environment (p.inDir ⟨"elsewhere"⟩) World.nested
              0 0 0 _ rfl rfl
  · exact (runs World.environment p ⟨"/"⟩ ⟨"elsewhere"⟩ World.nested known tame).2.1
  · refine line surroundings World.nested ⟨"/sub/p.yml"⟩ ⟨"/"⟩ ⟨"elsewhere"⟩ fun loaded same => ?_
    cases accepted.symm.trans same
    exact tame

end CiPipeline
