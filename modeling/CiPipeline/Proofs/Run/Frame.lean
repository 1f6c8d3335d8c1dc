import CiPipeline.Dump.Outline
import CiPipeline.Export.Travis
import CiPipeline.Proofs.Run.Trace

/-!
# Frame — what a run may change

A run changes the states of nodes, the results of commands and the store.  All else is as before, so
every text that shows a pipeline is as before too.

* `Stage.shape`, `Stage.ids`: a stage without states and results, and the identifiers of its commands;
* `Pipeline.Kept`: pipelines that differ in states, results and the store at most;
* `Pipeline.kept_rerun`: runs keep a pipeline;
* `Pipeline.Kept.overview`, `Kept.json`, `Kept.exportFor`: the texts of pipelines that are kept;
* `execute_changes_results`: what runs keep, and the store that one leaves.
-/

namespace CiPipeline

/-! ## What is kept -/

/-- The kind of a command with its parameters, and its flag. -/
def Command.shape (c : Command) : Action × Bool := (c.action, c.allowFailure)

/-- The identifier, the name, the flag and in order the commands of a job. -/
def Job.shape (j : Job) : String × String × Bool × List (Action × Bool) :=
  (j.id, j.name, j.allowFailure, j.commands.map Command.shape)

def Stage.shape (stage : Stage) :
    String × String × Bool × List (String × String × Bool × List (Action × Bool)) :=
  (stage.id, stage.name, stage.allowFailure, stage.jobs.map Job.shape)

/-- The identifiers of the commands in their order. -/
def Job.ids (j : Job) : List String := j.commands.map Command.id

/-- The identifiers of the commands, job by job. -/
def Stage.ids (stage : Stage) : List (List String) := stage.jobs.map Job.ids

@[simp] theorem Job.shape_reset (j : Job) : j.reset.shape = j.shape := by
  simp [shape, reset, id, Function.comp_def, Command.shape, Command.reset]

@[simp] theorem Stage.shape_reset (stage : Stage) : stage.reset.shape = stage.shape := by
  simp [shape, reset, id, Function.comp_def]

@[simp] theorem Command.id_reset (c : Command) : c.reset.id = c.id := rfl

@[simp] theorem Job.ids_reset (j : Job) : j.reset.ids = j.ids := by
  simp [ids, reset, Function.comp_def]

@[simp] theorem Stage.ids_reset (stage : Stage) : stage.reset.ids = stage.ids := by
  simp [ids, reset, Function.comp_def]

namespace Pipeline

/-- Once cleared, the pipelines have the same stages; and they have the same flag, base directory and
run. -/
structure Kept (before after : Pipeline) : Prop where
  stages : after.stages.map Stage.reset = before.stages.map Stage.reset
  allowFailure : after.allowFailure = before.allowFailure
  baseDir : after.baseDir = before.baseDir
  runId : after.context.runId = before.context.runId

namespace Kept

theorem refl (p : Pipeline) : Kept p p := ⟨rfl, rfl, rfl, rfl⟩

theorem trans {p q r : Pipeline} (one : Kept p q) (other : Kept q r) : Kept p r where
  stages := other.stages.trans one.stages
  allowFailure := other.allowFailure.trans one.allowFailure
  baseDir := other.baseDir.trans one.baseDir
  runId := other.runId.trans one.runId

end Kept
end Pipeline

/-! ## Runs keep a pipeline -/

section

variable {σ : Type} {env : Environment σ}

theorem Command.Executed.reset_eq {dir : Path} (before after : Command)
    (executed : Command.Executed env dir before after) : after.reset = before.reset := by
  rcases executed with ⟨context, s, _, rfl⟩
  rfl

theorem Job.Walked.reset_eq {dir : Path} (before after : Job)
    (walked : Job.Walked (Command.Executed env dir) before after) : after.reset = before.reset := by
  have commands := walked.commands.map_eq Command.Executed.reset_eq
  simp only [Job.reset, walked.name, walked.allowFailure, commands]

theorem Stage.Walked.reset_eq {dir : Path} (before after : Stage)
    (walked : Stage.Walked (Command.Executed env dir) before after) :
    after.reset = before.reset := by
  have jobs := walked.jobs.map_eq Job.Walked.reset_eq
  simp only [Stage.reset, walked.name, walked.allowFailure, jobs]

@[simp] theorem Job.reset_reset (j : Job) : j.reset.reset = j.reset := by
  simp [reset, Command.reset]

@[simp] theorem Stage.reset_reset (stage : Stage) : stage.reset.reset = stage.reset := by
  simp [reset]

namespace Pipeline

theorem kept_execute (env : Environment σ) (p : Pipeline) (s : σ) :
    Kept p (p.execute env s).1 := by
  have context := p.context_execute env s
  refine ⟨?_, rfl, ?_, ?_⟩
  · have stages := (ordered_execute env p s).map_eq Stage.Walked.reset_eq
    simpa [Function.comp_def] using stages
  · simp only [baseDir, context]
  · rw [context]

/-- A pipeline after runs in the given worlds, one after another. -/
def rerun (env : Environment σ) (p : Pipeline) (worlds : List σ) : Pipeline :=
  worlds.foldl (fun p s => (p.execute env s).1) p

theorem kept_rerun (env : Environment σ) (p : Pipeline) (worlds : List σ) :
    Kept p (p.rerun env worlds) := by
  induction worlds generalizing p with
  | nil => exact .refl p
  | cons s rest ih => exact (p.kept_execute env s).trans (ih (p.execute env s).1)

end Pipeline
end

/-! ## Texts -/

@[simp] theorem Command.outline_reset (c : Command) : c.reset.outline = c.outline := rfl

@[simp] theorem Job.outline_reset (j : Job) : j.reset.outline = j.outline := by
  simp [outline, reset, id, Function.comp_def]

@[simp] theorem Stage.outline_reset (stage : Stage) : stage.reset.outline = stage.outline := by
  simp [outline, reset, id, Function.comp_def]

@[simp] theorem Command.toTree_reset (c : Command) : c.reset.toTree = c.toTree := rfl

@[simp] theorem Job.toTree_reset (j : Job) : j.reset.toTree = j.toTree := by
  simp [toTree, reset, id, Function.comp_def]

@[simp] theorem Stage.toTree_reset (stage : Stage) : stage.reset.toTree = stage.toTree := by
  simp [toTree, reset, id, Function.comp_def]

@[simp] theorem Job.travisScript_reset (j : Job) : j.reset.travisScript = j.travisScript := by
  simp [travisScript, reset, Command.scriptLines, Function.comp_def, Command.reset]

@[simp] theorem Stage.travisScript_reset (stage : Stage) :
    stage.reset.travisScript = stage.travisScript := by
  simp [travisScript, reset, List.flatMap_map]

@[simp] theorem Job.display_reset (j : Job) : j.reset.display = j.display := by
  simp [display, reset, id]

@[simp] theorem Stage.display_reset (stage : Stage) : stage.reset.display = stage.display := by
  simp [display, reset, id]

namespace Pipeline
namespace Kept

variable {p q : Pipeline}

/-- What a function of stages does not read off states and results is the same. -/
theorem map_stages {α : Type} {f : Stage → α} (kept : Kept p q)
    (blind : ∀ stage : Stage, f stage.reset = f stage) : q.stages.map f = p.stages.map f := by
  have cleared : ∀ stages : List Stage, stages.map f = (stages.map Stage.reset).map f := by
    simp [Function.comp_def, blind]
  rw [cleared, kept.stages, ← cleared]

theorem overview (kept : Kept p q) : q.overview = p.overview := by
  rw [Pipeline.overview, Pipeline.overview, kept.map_stages Stage.outline_reset]

theorem json (kept : Kept p q) : q.json = p.json := by
  rw [Pipeline.json, Pipeline.json, Pipeline.toTree, Pipeline.toTree,
    kept.map_stages Stage.toTree_reset]

theorem toTravis (kept : Kept p q) : q.toTravis = p.toTravis := by
  have scripts := kept.map_stages Stage.travisScript_reset
  rw [Pipeline.toTravis, Pipeline.toTravis, List.flatMap_def, scripts, ← List.flatMap_def]

theorem exportFor (kept : Kept p q) (provider : String) :
    q.exportFor provider = p.exportFor provider := by
  have texts : q.exportText = p.exportText := by
    funext known
    cases known with
    | travis => simp only [exportText, kept.toTravis]
  rw [Pipeline.exportFor, Pipeline.exportFor, texts]

theorem display (kept : Kept p q) : q.display = p.display := by
  have count := congrArg List.length kept.stages
  simp only [List.length_map] at count
  rw [Pipeline.display, Pipeline.display, count]

end Kept
end Pipeline

/-! ## The store -/

/-- A variable that has a value keeps one. -/
theorem isSome_valueAfter {commands : List Command} (delivered : ∀ c ∈ commands, c.Delivered)
    {name : String} {before : Option Value} (held : before.isSome = true) :
    (valueAfter (Action.targets name) commands before).isSome = true := by
  unfold valueAfter
  cases last : lastPassed (Action.targets name) commands with
  | none => exact held
  | some c =>
      have mem := List.mem_reverse.1 (List.mem_of_find?_eq_some last)
      have found := List.find?_some last
      simp only [Bool.and_eq_true, State.isPassed, beq_iff_eq] at found
      cases file : c.action with
      | run script program args => simp [file, Action.targets] at found
      | print params => simp [file, Action.targets] at found
      | file operation path variableName =>
          rcases delivered c mem operation path variableName file found.2 with ⟨_, contents, data⟩
          simp [data]

/-- Runs keep names, order, flags and kinds, the identifiers of all nodes, the base directory and the
run, and with them all texts.  The store after a run can be read off the tree: each variable has the
data of the last file command for it that passed, or else what it had before.  Between executions
nothing happens, and of the executions only file commands that pass change the store. -/
theorem execute_changes_results {σ : Type} (env : Environment σ) (p : Pipeline) :
    (∀ worlds : List σ,
      let q := p.rerun env worlds
      q.stages.map Stage.shape = p.stages.map Stage.shape ∧
      q.stages.map Stage.ids = p.stages.map Stage.ids ∧
      q.allowFailure = p.allowFailure ∧ q.baseDir = p.baseDir ∧
      q.context.runId = p.context.runId ∧
      q.overview = p.overview ∧ q.json = p.json ∧
      (∀ provider, q.exportFor provider = p.exportFor provider) ∧
      q.display = p.display ∧ q.stages.map Stage.display = p.stages.map Stage.display ∧
      q.stages.map (fun stage => stage.jobs.map Job.display) =
        p.stages.map (fun stage => stage.jobs.map Job.display)) ∧
    (∀ s : σ,
      let q := (p.execute env s).1
      q.store = q.commands.foldl (fun store c => c.leaves store) p.store ∧
      (∀ name, q.store.get? name =
        valueAfter (Action.targets name) q.commands (p.store.get? name)) ∧
      (∀ name, p.store.contains name = true → q.store.contains name = true) ∧
      Trace env (p.context, s) (p.executions env s) (q.context, (p.execute env s).2) ∧
      (p.executions env s).map (Execution.outcome env) = q.commands.filter Command.started ∧
      (∀ e ∈ p.executions env s,
        (∀ operation path name, e.1.action ≠ .file operation path name) ∨
          (e.outcome env).state ≠ .passed →
        (Command.execute env e.1 e.2).2.1.store = e.2.1.store)) := by
  refine ⟨fun worlds => ?_, fun s => ?_⟩
  · have kept := p.kept_rerun env worlds
    refine ⟨kept.map_stages Stage.shape_reset, kept.map_stages Stage.ids_reset, kept.allowFailure,
      kept.baseDir, kept.runId, kept.overview, kept.json, kept.exportFor, kept.display,
      kept.map_stages Stage.display_reset, kept.map_stages fun stage => ?_⟩
    simp [Stage.reset, Function.comp_def]
  · have store := congrArg Context.store (p.context_execute env s)
    have delivered : ∀ c ∈ (p.execute env s).1.commands, c.Delivered :=
      fun c mem => p.delivered_of_mem env s mem
    have bound : ∀ name, (p.execute env s).1.store.get? name =
        valueAfter (Action.targets name) (p.execute env s).1.commands (p.store.get? name) := by
      intro name
      rw [Pipeline.store, store]
      exact get?_foldl_leaves delivered p.store name
    refine ⟨store, bound, fun name held => ?_, p.trace_executions env s,
      p.outcomes_eq_filter env s, fun e _ other => ?_⟩
    · rw [Store.contains, bound]
      exact isSome_valueAfter delivered held
    · rw [Command.context_execute]
      exact Command.leaves_eq_self (c := e.outcome env) other _

end CiPipeline
