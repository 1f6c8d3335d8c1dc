import CiPipeline.CommandLine.Basic
import CiPipeline.Proofs.Definition.Splicing
import CiPipeline.Proofs.Run.Masking
import CiPipeline.Proofs.Run.Relocation
import CiPipeline.Proofs.Run.Taint

/-!
# Verdict — what is run is what is shown

The command line loads the same file to run, show and export it.  To run it, it puts the stages into
another pipeline, in the directory that is asked for and with the flag of the file.  The tree stays
the same, and the exit code is the verdict of the run.

* `CommandLine.Asks`: what arguments ask for;
* `Outcome.Ends`, `Outcome.Fails`: the two ways in which a command may leave the program;
* `CommandLine.run_ends`, `run_fails`, `show_ends`, `export_ends`: the commands on a file;
* `CommandLine.LooksLike`: pipelines of which the same is shown, but for the identifiers of commands;
* `CommandLine.looksLike_execute`: a pipeline that has run looks like the file;
* `run_executes_what_is_shown`: the tree of a run and its exit code.
-/

namespace CiPipeline
namespace CommandLine

/-! ## How the program ends -/

/-- The program ends with an exit code and reports no failure. -/
structure Outcome.Ends (outcome : Outcome) (code : Nat) (w : World) : Prop where
  code : outcome.code = code
  error : outcome.error = none
  world : outcome.world = w

/-- The program reports a failure and changes nothing. -/
structure Outcome.Fails (outcome : Outcome) (w : World) : Prop where
  code : outcome.code = 1
  error : outcome.error ≠ none
  world : outcome.world = w

theorem Step.ends {step : Step} {code : Nat} (done : step.result = .ok code) (filter : LogFilter) :
    (step.outcome filter).Ends code step.world := by
  constructor
  · simp [outcome, done]
  · simp [outcome, done]
  · simp [outcome, done]

theorem Step.fails {step : Step} {reason : String} (failed : step.result = .error reason)
    (filter : LogFilter) : (step.outcome filter).Fails step.world := by
  constructor
  · simp [outcome, failed]
  · simp [outcome, failed]
  · simp [outcome, failed]

/-- The arguments ask for a command, under settings that can be read. -/
def Asks (w : World) (args : List String) (c : Config) (command : Subcommand) : Prop :=
  ∃ invocation, Invocation.ofArgs args = .ok invocation ∧ settings w invocation.config = .ok c ∧
    invocation.subcommand = command

section

variable {env : Environment World} {s : Surroundings} {w : World} {args : List String} {c : Config}

theorem exists_outcome {command : Subcommand} (asks : Asks w args c command)
    (env : Environment World) (s : Surroundings) :
    ∃ filter, runIn env s args w = (performIn env s c w command).outcome filter := by
  rcases asks with ⟨invocation, read, valid, rfl⟩
  refine ⟨filterOf s invocation.verbose c, ?_⟩
  simp [runIn, read, valid]

/-! ## Commands on a file -/

variable {path : Path} {loaded : Pipeline}

/-- A command that goes on with the pipeline of a file ends as it does with this pipeline. -/
theorem ends_of_next {command : Subcommand} {next : Pipeline → Step} {code : Nat}
    (asks : Asks w args c command)
    (performs : performIn env s c w command = withPipeline s w path next)
    (accepted : Pipeline.ofFile w.files w.directory s.runId s.ids path = .ok loaded)
    (done : (next loaded).result = .ok code) :
    (runIn env s args w).Ends code (next loaded).world := by
  rcases exists_outcome asks env s with ⟨filter, outcome⟩
  have goesOn : ∃ events, withPipeline s w path next = (next loaded).after events := by
    simp only [withPipeline, accepted]
    exact ⟨_, rfl⟩
  rcases goesOn with ⟨events, step⟩
  -- What was logged before is no part of the result.
  have same : ((next loaded).after events).result = .ok code := done
  rw [outcome, performs, step]
  exact Step.ends same filter

/-- Without the pipeline, it does not begin. -/
theorem fails_of_next {command : Subcommand} {next : Pipeline → Step} {e : PipelineError}
    (asks : Asks w args c command)
    (performs : performIn env s c w command = withPipeline s w path next)
    (refused : Pipeline.ofFile w.files w.directory s.runId s.ids path = .error e) :
    (runIn env s args w).Fails w := by
  rcases exists_outcome asks env s with ⟨filter, outcome⟩
  have stops : ∃ events reason,
      withPipeline s w path next = (Step.failure reason w).after events := by
    simp only [withPipeline, refused]
    exact ⟨_, _, rfl⟩
  rcases stops with ⟨events, reason, step⟩
  rw [outcome, performs, step]
  exact Step.fails rfl filter

variable {file : Option Path}

/-- A run ends with the verdict of the pipeline, in the world that it leaves. -/
theorem run_ends {baseDir : Option Path} (asks : Asks w args c (.run file baseDir))
    (accepted :
      Pipeline.ofFile w.files w.directory s.runId s.ids (file.getD c.definition) = .ok loaded) :
    let dir := (baseDir.or c.baseDir).getD w.directory.path
    let ran := (prepared dir s.runId loaded).execute env w
    (runIn env s args w).Ends (if Runnable.status ran.1 then 0 else 1) ran.2 :=
  ends_of_next asks rfl accepted rfl

theorem run_fails {baseDir : Option Path} {e : PipelineError}
    (asks : Asks w args c (.run file baseDir))
    (refused :
      Pipeline.ofFile w.files w.directory s.runId s.ids (file.getD c.definition) = .error e) :
    (runIn env s args w).Fails w :=
  fails_of_next asks rfl refused

theorem show_ends {format : DumpFormat} (asks : Asks w args c (.show file format))
    (accepted :
      Pipeline.ofFile w.files w.directory s.runId s.ids (file.getD c.definition) = .ok loaded) :
    (runIn env s args w).Ends 0 (w.write (lines (loaded.render format))) :=
  ends_of_next asks rfl accepted rfl

theorem export_ends {provider : Option Provider} (asks : Asks w args c (.export file provider none))
    (known : providerName c provider = Provider.travis.id)
    (accepted :
      Pipeline.ofFile w.files w.directory s.runId s.ids (file.getD c.definition) = .ok loaded) :
    (runIn env s args w).Ends 0 (w.write (loaded.exportText .travis)) := by
  have performs : performIn env s c w (.export file provider none) =
      exportFile s w (file.getD c.definition) Provider.travis.id none := by
    rw [performIn, known]
  exact ends_of_next asks performs accepted rfl

end

/-! ## What has run -/

/-- The texts of a pipeline come from its stages alone. -/
theorem json_of_stages {p q : Pipeline} (same : p.stages = q.stages) : p.json = q.json := by
  simp only [Pipeline.json, Pipeline.toTree, same]

theorem overview_of_stages {p q : Pipeline} (same : p.stages = q.stages) :
    p.overview = q.overview := by
  simp only [Pipeline.overview, same]

theorem exportText_of_stages {p q : Pipeline} (same : p.stages = q.stages) (provider : Provider) :
    p.exportText provider = q.exportText provider := by
  cases provider with
  | travis => simp only [Pipeline.exportText, Pipeline.toTravis, same]

/-- What is shown of one pipeline is shown of the other, but for the identifiers of commands: the same
nodes, the same overview, the same configuration and, with masked identifiers, the same dump. -/
structure LooksLike (p q : Pipeline) : Prop where
  shape : p.stages.map Stage.shape = q.stages.map Stage.shape
  overview : p.overview = q.overview
  json : ∀ mask, (p.masked mask).json = (q.masked mask).json
  exported : ∀ provider, p.exportText provider = q.exportText provider

theorem LooksLike.symm {p q : Pipeline} (alike : LooksLike p q) : LooksLike q p where
  shape := alike.shape.symm
  overview := alike.overview.symm
  json := fun mask => (alike.json mask).symm
  exported := fun provider => (alike.exported provider).symm

theorem LooksLike.trans {p q r : Pipeline} (one : LooksLike p q) (other : LooksLike q r) :
    LooksLike p r where
  shape := one.shape.trans other.shape
  overview := one.overview.trans other.overview
  json := fun mask => (one.json mask).trans (other.json mask)
  exported := fun provider => (one.exported provider).trans (other.exported provider)

/-- Pipelines with the same stages under every mask look alike. -/
theorem LooksLike.of_masked {p q : Pipeline}
    (same : ∀ mask, (p.masked mask).stages = (q.masked mask).stages) : LooksLike p q where
  shape := by
    rw [← p.map_shape_masked "", same, q.map_shape_masked]
  overview := by
    rw [← p.overview_masked "", overview_of_stages (same ""), q.overview_masked]
  json := fun mask => json_of_stages (same mask)
  exported := fun provider => by
    rw [← p.exportText_masked "", exportText_of_stages (same "") provider, q.exportText_masked]

section

variable (env : Environment World) (dir : Path) (runId : Nat) (loaded : Pipeline) (w : World)

/-- A run leaves the texts of a pipeline as they are, and so does another directory. -/
theorem looksLike_execute : LooksLike ((prepared dir runId loaded).execute env w).1 loaded := by
  have kept := fun p : Pipeline => Pipeline.kept_execute env p w
  have stages := stages_prepared dir runId loaded
  refine ⟨?_, ?_, fun mask => ?_, fun provider => ?_⟩
  · rw [(kept _).map_stages Stage.shape_reset, stages]
  · rw [(kept _).overview, overview_of_stages stages]
  · have masked : ((prepared dir runId loaded).masked mask).stages = (loaded.masked mask).stages :=
      congrArg (List.map (Stage.masked mask)) stages
    have ran := (kept ((prepared dir runId loaded).masked mask)).json
    rw [Pipeline.execute_masked] at ran
    rw [ran, json_of_stages masked]
  · have ran : ((prepared dir runId loaded).execute env w).1.exportText provider =
        (prepared dir runId loaded).exportText provider := by
      cases provider with
      | travis => simp only [Pipeline.exportText, (kept _).toTravis]
    rw [ran, exportText_of_stages stages]

end

/-- The exit code of a run is zero if the file allows failures or all of its commands pass. -/
theorem code_eq_zero_iff {env : Environment World} {s : Surroundings} {w : World}
    {args : List String} {c : Config} {file baseDir : Option Path} {loaded : Pipeline}
    {location : Location} {definition : Definition} (asks : Asks w args c (.run file baseDir))
    (accepted :
      Pipeline.ofFile w.files w.directory s.runId s.ids (file.getD c.definition) = .ok loaded)
    (describes : Definition.Describes w.files w.directory (file.getD c.definition) location
      definition) :
    let dir := (baseDir.or c.baseDir).getD w.directory.path
    let q := ((prepared dir s.runId loaded).execute env w).1
    (runIn env s args w).code = 0 ↔ definition.allowFailure = true ∨
      ∀ i j k command, q.command? i j k = some command →
        q.skipped (.command i j k) = false ∧ command.state = .passed := by
  intro dir q
  have code : (runIn env s args w).code = if Runnable.status q then 0 else 1 :=
    (run_ends asks accepted).code
  -- The flag goes over from the file to the pipeline that is run.
  have flag : loaded.allowFailure = definition.allowFailure :=
    Definition.allowFailure_of_describes accepted describes
  have kept : (prepared dir s.runId loaded).allowFailure = loaded.allowFailure := rfl
  have verdict : Runnable.status q = true ↔ _ :=
    Pipeline.status_execute_iff env (prepared dir s.runId loaded) w
  rw [kept, flag] at verdict
  rw [code, ← verdict]
  cases Runnable.status q with
  | true => simp
  | false => simp

end CommandLine

open CommandLine

/-- A run executes the stages of the file, in the directory that is asked for; and it is this tree
that is shown and exported of the file, wherever it runs, with the identifiers that are drawn when it
is shown.  The exit code is zero exactly if the file
can be loaded and either its own flag allows failures or every command of the tree was executed and
passed; otherwise it is one. -/
theorem run_executes_what_is_shown (env : Environment World) (s : Surroundings) (w : World)
    (args : List String) (c : Config) (file baseDir : Option Path)
    (asks : Asks w args c (.run file baseDir)) :
    let path := file.getD c.definition
    let dir := (baseDir.or c.baseDir).getD w.directory.path
    let outcome := runIn env s args w
    let run := fun loaded : Pipeline => (prepared dir s.runId loaded).execute env w
    (∀ loaded, Pipeline.ofFile w.files w.directory s.runId s.ids path = .ok loaded →
      let p := prepared dir s.runId loaded
      let q := (run loaded).1
      p.stages = loaded.stages ∧ p.baseDir = dir ∧
      q.stages.map Stage.shape = loaded.stages.map Stage.shape ∧
      (p.executions env w).map (Execution.outcome env) = q.commands.filter Command.started ∧
      outcome.Ends (if Runnable.status q then 0 else 1) (run loaded).2 ∧
      ∀ env' s' args' c' file', file'.getD c'.definition = path →
        ∃ shown, Pipeline.ofFile w.files w.directory s'.runId s'.ids path = .ok shown ∧
        LooksLike shown q ∧ (s'.ids = s.ids → shown.json = q.json) ∧
        (∀ format, Asks w args' c' (.show file' format) →
          (runIn env' s' args' w).Ends 0 (w.write (lines (shown.render format)))) ∧
        (∀ provider, Asks w args' c' (.export file' provider none) →
          providerName c' provider = Provider.travis.id →
          (runIn env' s' args' w).Ends 0 (w.write (q.exportText .travis)))) ∧
    (∀ e, Pipeline.ofFile w.files w.directory s.runId s.ids path = .error e → outcome.Fails w) ∧
    (outcome.code = 0 ↔ ∃ location definition loaded,
      Definition.Describes w.files w.directory path location definition ∧
      Pipeline.ofFile w.files w.directory s.runId s.ids path = .ok loaded ∧
      (definition.allowFailure = true ∨
        ∀ i j k command, (run loaded).1.command? i j k = some command →
          (run loaded).1.skipped (.command i j k) = false ∧ command.state = .passed)) ∧
    (outcome.code = 0 ∨ outcome.code = 1) := by
  intro path dir outcome run
  refine ⟨?_, fun e refused => run_fails asks refused, ?_, ?_⟩
  · intro loaded accepted p q
    have ran : LooksLike q loaded := looksLike_execute env dir s.runId loaded w
    refine ⟨stages_prepared dir s.runId loaded, rfl, ran.shape, p.outcomes_eq_filter env w,
      run_ends asks accepted, ?_⟩
    intro env' s' args' c' file' same
    -- The commands that show the file load it again, and draw other identifiers.
    rcases Pipeline.ofFile_redraw accepted s'.runId s'.ids with ⟨stages, again, masked, drawn⟩
    let shown : Pipeline :=
      { loaded with stages := stages, context := .ofDir loaded.baseDir s'.runId }
    have alike : LooksLike shown q := .trans (.of_masked masked) ran.symm
    refine ⟨shown, again, alike, fun ids => ?_, fun format asks' => ?_, fun provider asks' known => ?_⟩
    · have kept := (p.kept_execute env w).json
      rw [json_of_stages (stages_prepared dir s.runId loaded)] at kept
      exact (json_of_stages (drawn ids)).trans kept.symm
    · rw [← same] at again
      exact show_ends asks' again
    · rw [← same] at again
      rw [← alike.exported]
      exact export_ends asks' known again
  · constructor
    · intro zero
      cases accepted : Pipeline.ofFile w.files w.directory s.runId s.ids path with
      | error e =>
          have one : outcome.code = 1 := (run_fails asks accepted).code
          cases zero.symm.trans one
      | ok loaded =>
          have means := Definition.loadFrom_means accepted
          rcases means with ⟨describes, flattens⟩
          exact ⟨_, _, _, describes, rfl, (code_eq_zero_iff asks accepted describes).1 zero⟩
    · rintro ⟨location, definition, loaded, describes, accepted, passes⟩
      exact (code_eq_zero_iff asks accepted describes).2 passes
  · cases accepted : Pipeline.ofFile w.files w.directory s.runId s.ids path with
    | error e => exact .inr (run_fails asks accepted).code
    | ok loaded =>
        have code : outcome.code = if Runnable.status (run loaded).1 then 0 else 1 :=
          (run_ends asks accepted).code
        split at code
        · exact .inl code
        · exact .inr code

/-- The machine has no settings of its own. -/
theorem World.settings_nested : settings World.nested none = .ok default := by
  have components : (⟨"/.pipelyne.yml"⟩ : Path).components = [".pipelyne.yml"] := by decide
  have absolute : (⟨"/.pipelyne.yml"⟩ : Path).isAbsolute = true := by decide
  have path : (Location.path []).join Config.fileName = ⟨"/.pipelyne.yml"⟩ := by decide
  have sizes : ¬ FileSystem.longestPath < "/.pipelyne.yml".utf8ByteSize ∧
      ¬ FileSystem.longestName < ".pipelyne.yml".utf8ByteSize := by decide
  have missing : World.nested.files.locateExisting [] ⟨"/.pipelyne.yml"⟩ = .error .notFound := by
    simp [World.nested, FileSystem.locateExisting, FileSystem.locate, components, absolute, sizes,
      FileSystem.follow, FileSystem.isDirectory, FileSystem.entry?, FileSystem.entryIn]
  have here : World.nested.directory = [] := rfl
  simp [settings, Config.discover, here, path, FileSystem.isRegularAt, missing]

/-- With no file present for its commands, the file fails in any directory, and it is still the tree
that is shown. -/
theorem run_executes_what_is_shown_nested :
    let env : Environment World :=
      ⟨fun _ _ _ w => (.ok (.code 0), w), fun _ _ => false, fun _ _ => .error .notFound,
        fun _ w => (.ok (), w)⟩
    let s : Surroundings := ⟨none, none, 0, .ofSeed 0⟩
    let s' : Surroundings := ⟨none, none, 1, .ofSeed 1⟩
    let args := ["run", "/sub/p.yml", "--base-dir", "elsewhere"]
    let p := prepared ⟨"elsewhere"⟩ 0 (.nested s.ids)
    Asks World.nested args default (.run (some ⟨"/sub/p.yml"⟩) (some ⟨"elsewhere"⟩)) ∧
      Asks World.nested ["show", "/sub/p.yml"] default (.show (some ⟨"/sub/p.yml"⟩) .overview) ∧
      (runIn env s args World.nested).code = 1 ∧
      (runIn env s' ["show", "/sub/p.yml"] World.nested).Ends 0
        (World.nested.write (lines (p.execute env World.nested).1.overview)) := by
  intro env s s' args p
  have settled := World.settings_nested
  have asks : Asks World.nested args default (.run (some ⟨"/sub/p.yml"⟩) (some ⟨"elsewhere"⟩)) :=
    ⟨⟨none, false, .run (some ⟨"/sub/p.yml"⟩) (some ⟨"elsewhere"⟩)⟩, by decide +kernel, settled, rfl⟩
  have asks' : Asks World.nested ["show", "/sub/p.yml"] default
      (.show (some ⟨"/sub/p.yml"⟩) .overview) :=
    ⟨⟨none, false, .show (some ⟨"/sub/p.yml"⟩) .overview⟩, by decide +kernel, settled, rfl⟩
  rcases run_executes_what_is_shown env s World.nested args default _ _ asks with
    ⟨runs, _, _, _⟩
  rcases runs (.nested s.ids) (World.ofFile_nested s.ids) with ⟨_, _, _, _, ends, shows⟩
  refine ⟨asks, asks', ?_, ?_⟩
  · have failed : Runnable.status (p.execute env World.nested).1 = false := by decide +kernel
    exact ends.code.trans (if_neg (by simpa using failed))
  · rcases shows env s' ["show", "/sub/p.yml"] default (some ⟨"/sub/p.yml"⟩) rfl with
      ⟨shown, _, alike, _, ends, _⟩
    have text : shown.overview = (p.execute env World.nested).1.overview := alike.overview
    rw [← text]
    exact ends .overview asks'

end CiPipeline
