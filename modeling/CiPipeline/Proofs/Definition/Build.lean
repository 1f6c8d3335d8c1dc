import CiPipeline.Definition.Load

/-!
# Build — the pipeline of a description

Adding the stages of a description cannot fail: each job finds the stage it belongs to at the end of
the pipeline, and each command its job.  What can fail is loading the files that it names:
they are loaded in order, and the first that fails decides.

* `CommandDefinition.built`, `JobDefinition.built`, `StageDefinition.built`: what is built in a
  directory;
* `Pipeline.push`: a stage at the end of a pipeline, where calls add jobs and commands;
* `Definition.addStage_ok`: adding a stage gives just this;
* `Definition.Added`: what may come of adding entries, and `Definition.added_addEntries`.
-/

namespace CiPipeline

/-! ## Stages -/

/-- The command of a description in a directory. -/
def CommandDefinition.built (baseDir : Path) (definition : CommandDefinition) (id : String) :
    Command :=
  let c :=
    match definition.action with
    | .run script => Command.run script id
    | .readInto path variableName => Command.readInto (baseDir.join path) variableName id
    | .print params => Command.print params id
  c.withAllowFailure definition.allowFailure

def JobDefinition.built (baseDir : Path) (definition : JobDefinition) (ids : IdSupply) : Job :=
  ⟨definition.name, definition.allowFailure,
    (ids.among definition.commands).map fun c => c.1.built baseDir c.2.drawn, .unstarted⟩

def StageDefinition.built (baseDir : Path) (definition : StageDefinition) (ids : IdSupply) :
    Stage :=
  ⟨definition.name, definition.allowFailure,
    (ids.among definition.jobs).map fun j => j.1.built baseDir j.2, .unstarted⟩

/-! ## The end of a pipeline -/

namespace Pipeline

/-- Adds a stage that is already built. -/
def push (p : Pipeline) (stage : Stage) : Pipeline := { p with stages := p.stages ++ [stage] }

@[simp] theorem push_baseDir (p : Pipeline) (stage : Stage) : (p.push stage).baseDir = p.baseDir :=
  rfl

theorem addStage_eq (p : Pipeline) (name : String) : p.addStage name = p.push (.ofName name) := rfl

@[simp] theorem onLastStage_push (p : Pipeline) (stage : Stage) (f : Stage → Stage) :
    (p.push stage).onLastStage f = p.push (f stage) := by
  simp only [onLastStage, push, changeLast_append_singleton]

@[simp] theorem onLastJob_push (p : Pipeline) (stage : Stage) (job : Job) (f : Job → Job) :
    (p.push (stage.push job)).onLastJob f = p.push (stage.push (f job)) := by
  simp only [onLastJob, onLastStage_push, Stage.push, changeLast_append_singleton]

/-- A job goes to the stage that was added last. -/
theorem addJob_push (p : Pipeline) (stage : Stage) (name : String) :
    (p.push stage).addJob name = .ok (p.push (stage.push (.ofName name))) := by
  have some : (p.push stage).stages.isEmpty = false := by simp [push]
  rw [addJob, some]
  simp

/-- Commands go to the job that was added last, in their order. -/
theorem foldl_onLastJob_push (p : Pipeline) (stage : Stage) (job : Job) (commands : List Command) :
    commands.foldl (fun p c => p.onLastJob (·.push c)) (p.push (stage.push job)) =
      p.push (stage.push { job with commands := job.commands ++ commands }) := by
  induction commands generalizing job with
  | nil => simp
  | cons c rest ih =>
      rw [List.foldl_cons, onLastJob_push, ih]
      simp [Job.push]

end Pipeline

namespace Definition

/-- A variable may be read into whether it has a value or not. -/
theorem claim_overwrite (store : Store) (name : String) : store.claim name true = .ok () := by
  unfold Store.claim
  cases store.get? name with
  | none => rfl
  | some existing => rfl

theorem buildCommand_eq (p : Pipeline) (definition : CommandDefinition) (id : String) :
    buildCommand p definition id = .ok (definition.built p.baseDir id) := by
  rcases definition with ⟨action, allowFailure⟩
  cases action with
  | run script => rfl
  | print params => rfl
  | readInto path variableName =>
      simp only [buildCommand, Pipeline.readIntoCommand, claim_overwrite]
      rfl

theorem ok_bind {α β : Type} (a : α) (f : α → Except PipelineError β) : (.ok a >>= f) = f a := rfl

/-- Building without a failure is building each item. -/
theorem mapM_ok {α β : Type} (f : α → β) (items : List α) :
    (items.mapM fun a => (.ok (f a) : Except PipelineError β)) = .ok (items.map f) :=
  List.mapM_pure

/-- The job is built at the end of the stage that was added last. -/
theorem addJob_eq (p : Pipeline) (stage : Stage) (definition : JobDefinition) (ids : IdSupply) :
    addJob (p.push stage) definition ids =
      .ok (p.push (stage.push (definition.built p.baseDir ids))) := by
  have commands : ∀ c : CommandDefinition × IdSupply, buildCommand (p.push stage) c.1 c.2.drawn =
      .ok (c.1.built p.baseDir c.2.drawn) :=
    fun c => buildCommand_eq (p.push stage) c.1 c.2.drawn
  unfold addJob
  rw [funext commands, mapM_ok, ok_bind, Pipeline.addJob_push, ok_bind]
  rcases definition with ⟨name, allowFailure, definitions⟩
  -- The flag is set before there are commands, and they leave it as it is.
  cases allowFailure with
  | false => simp [Pipeline.foldl_onLastJob_push, JobDefinition.built, Job.ofName]
  | true =>
      simp [Pipeline.foldl_onLastJob_push, JobDefinition.built, Job.ofName, Job.withAllowFailure]

theorem foldlM_addJob_eq (p : Pipeline) (stage : Stage)
    (definitions : List (JobDefinition × IdSupply)) :
    definitions.foldlM (fun p j => addJob p j.1 j.2) (p.push stage) =
      .ok (p.push { stage with
        jobs := stage.jobs ++ definitions.map fun j => j.1.built p.baseDir j.2 }) := by
  induction definitions generalizing stage with
  | nil =>
      simp only [List.map_nil, List.append_nil]
      rfl
  | cons definition rest ih =>
      rw [List.foldlM_cons, addJob_eq, ok_bind, ih]
      simp [Stage.push]

/-- The stage is built at the end of the pipeline. -/
theorem addStage_ok (p : Pipeline) (definition : StageDefinition) (ids : IdSupply) :
    addStage p definition ids = .ok (p.push (definition.built p.baseDir ids)) := by
  rcases definition with ⟨name, allowFailure, definitions⟩
  unfold addStage
  cases allowFailure with
  | false =>
      simp [Pipeline.addStage_eq, foldlM_addJob_eq, StageDefinition.built, Stage.ofName]
  | true =>
      simp [Pipeline.addStage_eq, foldlM_addJob_eq, StageDefinition.built, Stage.ofName,
        Stage.withAllowFailure]

/-! ## Entries -/

section

variable {load : IdSupply → Path → Except PipelineError Pipeline} {p : Pipeline} {path : Path}
  {ids : IdSupply} {rest : List (StageEntry × IdSupply)}

theorem addEntries_stage (load : IdSupply → Path → Except PipelineError Pipeline) (p : Pipeline)
    (definition : StageDefinition) (ids : IdSupply) (rest : List (StageEntry × IdSupply)) :
    addEntries load p ((.stage definition, ids) :: rest) =
      addEntries load (p.push (definition.built p.baseDir ids)) rest := by
  rw [addEntries, addStage_ok]
  rfl

theorem addEntries_load_ok {loaded : Pipeline} (done : load ids (p.baseDir.join path) = .ok loaded) :
    addEntries load p ((.load path, ids) :: rest) = addEntries load (p.append loaded) rest := by
  change load ids (p.context.resolve path) = _ at done
  rw [addEntries, done]
  rfl

theorem addEntries_load_error {e : PipelineError}
    (failed : load ids (p.baseDir.join path) = .error e) :
    addEntries load p ((.load path, ids) :: rest) = .error e := by
  change load ids (p.context.resolve path) = _ at failed
  rw [addEntries, failed]
  rfl

end

/-- What may come of adding entries in a directory: every file is loaded, or the first that is not
gives its error. -/
inductive Added (load : IdSupply → Path → Except PipelineError Pipeline) (baseDir : Path)
    (entries : List (StageEntry × IdSupply)) : Except PipelineError Pipeline → Prop
  | all {p : Pipeline}
      (done : ∀ (i : Nat) path ids, entries[i]? = some (StageEntry.load path, ids) →
        ∃ q, load ids (baseDir.join path) = .ok q) :
      Added load baseDir entries (.ok p)
  | first {i : Nat} {path : Path} {ids : IdSupply} {e : PipelineError}
      (there : entries[i]? = some (StageEntry.load path, ids))
      (failed : load ids (baseDir.join path) = .error e)
      (before : ∀ (k : Nat) path ids, k < i → entries[k]? = some (StageEntry.load path, ids) →
        ∃ q, load ids (baseDir.join path) = .ok q) :
      Added load baseDir entries (.error e)

/-- An entry in front that is no file or is loaded leaves the decision to the others. -/
theorem Added.cons {load : IdSupply → Path → Except PipelineError Pipeline} {baseDir : Path}
    {entry : StageEntry × IdSupply} {rest : List (StageEntry × IdSupply)}
    {result : Except PipelineError Pipeline}
    (passed : ∀ path ids, entry = (.load path, ids) → ∃ q, load ids (baseDir.join path) = .ok q)
    (added : Added load baseDir rest result) : Added load baseDir (entry :: rest) result := by
  cases added with
  | all done =>
      refine .all ?_
      intro i path ids there
      cases i with
      | zero => exact passed path ids (Option.some.inj there)
      | succ i => exact done i path ids there
  | @first i path ids e there failed before =>
      refine .first (i := i + 1) there failed ?_
      intro k path ids less there
      cases k with
      | zero => exact passed path ids (Option.some.inj there)
      | succ k => exact before k path ids (Nat.lt_of_succ_lt_succ less) there

/-- Adding entries keeps the base directory, so that all paths are taken relative to the same. -/
theorem added_addEntries (load : IdSupply → Path → Except PipelineError Pipeline) (p : Pipeline)
    (entries : List (StageEntry × IdSupply)) :
    Added load p.baseDir entries (addEntries load p entries) := by
  induction entries generalizing p with
  | nil => exact .all (by simp)
  | cons entry rest ih =>
      rcases entry with ⟨entry, ids⟩
      cases entry with
      | stage definition =>
          rw [addEntries_stage]
          refine Added.cons ?_ (ih (p.push (definition.built p.baseDir ids)))
          intro path ids same
          cases same
      | load path =>
          cases loaded : load ids (p.baseDir.join path) with
          | error e =>
              rw [addEntries_load_error loaded]
              refine .first (i := 0) rfl loaded ?_
              intro k path ids less
              exact absurd less (Nat.not_lt_zero k)
          | ok q =>
              rw [addEntries_load_ok loaded]
              refine Added.cons ?_ (ih (p.append q))
              rintro _ _ ⟨⟩
              exact ⟨q, loaded⟩

end Definition
end CiPipeline
