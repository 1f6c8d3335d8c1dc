import CiPipeline.Pipeline.Basic
import CiPipeline.Proofs.Run.Order

/-!
# Walk — the nested run over a pipeline

A run goes down to the commands through two further runs.  It is described here for any step that is
taken at the commands, so that a run can also be watched: `recording` takes the same step and notes
what it was taken on.

* `Job.walk`, `Stage.walk`, `Pipeline.walk`: the nested run with a step for commands;
* `Pipeline.execute_eq_walk`: an execution is a walk;
* `Job.Walked`, `Stage.Walked`: what a walk makes of a node;
* `Pipeline.ordered_walk`: the stages after a walk, and the world it leaves;
* `Pipeline.executions`: the commands that a run executes, each with the world it met.
-/

namespace CiPipeline

variable {C D σ : Type}

/-! ## Walking -/

namespace Job

def walk (step : Command → C → Command × C) (j : Job) (c : C) : Job × C :=
  let (state, commands, c) := Run.inOrder step j.commands c
  ({ j with state := state, commands := commands }, c)

theorem execute_eq_walk (env : Environment σ) : Job.execute env = Job.walk (Command.execute env) :=
  rfl

end Job

namespace Stage

def walk (step : Command → C → Command × C) (stage : Stage) (c : C) : Stage × C :=
  let (state, jobs, c) := Run.inOrder (Job.walk step) stage.jobs c
  ({ stage with state := state, jobs := jobs }, c)

theorem execute_eq_walk (env : Environment σ) :
    Stage.execute env = Stage.walk (Command.execute env) :=
  rfl

end Stage

namespace Pipeline

/-- The state of the root, the stages and the world after the nodes are cleared and walked. -/
def walk (step : Command → C → Command × C) (p : Pipeline) (c : C) : State × List Stage × C :=
  Run.inOrder (Stage.walk step) (p.stages.map Stage.reset) c

theorem execute_eq_walk (env : Environment σ) (p : Pipeline) (s : σ) :
    p.execute env s =
      let (state, stages, context, s) := p.walk (Command.execute env) (p.context, s)
      ({ p with state := state, stages := stages, context := context }, s) :=
  rfl

end Pipeline

/-! ## What a walk makes of a node -/

@[simp] theorem Command.runnable_state (c : Command) : Runnable.state c = c.state := rfl

@[simp] theorem Job.runnable_state (j : Job) : Runnable.state j = j.state := rfl

@[simp] theorem Stage.runnable_state (stage : Stage) : Runnable.state stage = stage.state := rfl

/-- Only the state and the commands of a job change, the commands by `Ran` and in order. -/
structure Job.Walked (Ran : Command → Command → Prop) (before after : Job) : Prop where
  name : after.name = before.name
  allowFailure : after.allowFailure = before.allowFailure
  commands : Run.Ordered Ran before.commands after.state after.commands

/-- Only the state and the jobs of a stage change, the jobs by a walk and in order. -/
structure Stage.Walked (Ran : Command → Command → Prop) (before after : Stage) : Prop where
  name : after.name = before.name
  allowFailure : after.allowFailure = before.allowFailure
  jobs : Run.Ordered (Job.Walked Ran) before.jobs after.state after.jobs

section

variable (Ran : Command → Command → Prop) (I : C → Prop) {step : Command → C → Command × C}

theorem Job.walked_walk (keeps : ∀ a c, I c → Ran a (step a c).1 ∧ I (step a c).2) (j : Job) (c : C)
    (start : I c) : Job.Walked Ran j (j.walk step c).1 ∧ I (j.walk step c).2 := by
  have run := Run.ordered_inOrder Ran I keeps j.commands c start
  exact ⟨⟨rfl, rfl, run.1⟩, run.2⟩

theorem Stage.walked_walk (keeps : ∀ a c, I c → Ran a (step a c).1 ∧ I (step a c).2)
    (stage : Stage) (c : C) (start : I c) :
    Stage.Walked Ran stage (stage.walk step c).1 ∧ I (stage.walk step c).2 := by
  have jobs := Job.walked_walk Ran I keeps
  have run := Run.ordered_inOrder (Job.Walked Ran) I jobs stage.jobs c start
  exact ⟨⟨rfl, rfl, run.1⟩, run.2⟩

theorem Pipeline.ordered_walk (keeps : ∀ a c, I c → Ran a (step a c).1 ∧ I (step a c).2)
    (p : Pipeline) (c : C) (start : I c) :
    Run.Ordered (Stage.Walked Ran) (p.stages.map Stage.reset) (p.walk step c).1
        (p.walk step c).2.1 ∧
      I (p.walk step c).2.2 :=
  Run.ordered_inOrder (Stage.Walked Ran) I (Stage.walked_walk Ran I keeps)
    (p.stages.map Stage.reset) c start

end

theorem Job.Walked.state_ne {Ran : Command → Command → Prop} (j j' : Job)
    (walked : Job.Walked Ran j j') : Runnable.state j' ≠ .unstarted :=
  walked.commands.settled

theorem Stage.Walked.state_ne {Ran : Command → Command → Prop} (stage stage' : Stage)
    (walked : Stage.Walked Ran stage stage') : Runnable.state stage' ≠ .unstarted :=
  walked.jobs.settled

/-! ## Executing -/

/-- What an execution makes of a command, in some world with the given base directory. -/
def Command.Executed (env : Environment σ) (dir : Path) (before after : Command) : Prop :=
  ∃ context s, context.baseDir = dir ∧ after = (Command.execute env before (context, s)).1

namespace Command

variable {env : Environment σ}

theorem stateOf_eq_passed_iff {result : CommandResult} :
    stateOf result = .passed ↔ result.code = ResultCode.success := by
  unfold stateOf
  split <;> simp_all

theorem stateOf_ne_unstarted (result : CommandResult) : stateOf result ≠ .unstarted := by
  unfold stateOf
  split <;> simp

theorem execute_eq (c : Command) (world : Context × σ) :
    execute env c world =
      let result := (dispatch env c.action world.1 world.2).1
      ({ c with state := stateOf result, result := result },
        (dispatch env c.action world.1 world.2).2) :=
  rfl

/-- No command moves the base directory. -/
theorem execute_baseDir (c : Command) (world : Context × σ) :
    (execute env c world).2.1.baseDir = world.1.baseDir := by
  rcases world with ⟨context, s⟩
  rw [execute_eq]
  cases c.action with
  -- Processes and lines leave the context alone; a file that is read changes the store only.
  | run script program args => rfl
  | print params => rfl
  | file operation path variableName =>
      cases operation with
      | write => rfl
      | read =>
          simp only [dispatch, runFile]
          split
          · split <;> rfl
          · rfl

theorem executed_execute (dir : Path) (c : Command) (world : Context × σ)
    (there : world.1.baseDir = dir) :
    Executed env dir c (execute env c world).1 ∧ (execute env c world).2.1.baseDir = dir :=
  ⟨⟨world.1, world.2, there, rfl⟩, (execute_baseDir c world).trans there⟩

theorem Executed.state_ne {dir : Path} (before after : Command)
    (executed : Executed env dir before after) : Runnable.state after ≠ .unstarted := by
  rcases executed with ⟨context, s, _, rfl⟩
  exact stateOf_ne_unstarted _

theorem Executed.passed_iff {dir : Path} {before after : Command}
    (executed : Executed env dir before after) :
    after.state = .passed ↔ after.result.code = ResultCode.success := by
  rcases executed with ⟨context, s, _, rfl⟩
  exact stateOf_eq_passed_iff

end Command

namespace Pipeline

/-- The stages after an execution. -/
theorem ordered_execute (env : Environment σ) (p : Pipeline) (s : σ) :
    Run.Ordered (Stage.Walked (Command.Executed env p.baseDir)) (p.stages.map Stage.reset)
      (p.execute env s).1.state (p.execute env s).1.stages :=
  (ordered_walk (Command.Executed env p.baseDir) (fun world => world.1.baseDir = p.baseDir)
    (Command.executed_execute p.baseDir) p (p.context, s) rfl).1

end Pipeline

/-! ## Watching a run -/

namespace Run

variable {α : Type}

/-- Takes a step and notes what it is taken on. -/
def recording (step : α → C → α × C) (a : α) (world : List (α × C) × C) : α × List (α × C) × C :=
  ((step a world.2).1, world.1 ++ [(a, world.2)], (step a world.2).2)

end Run

section

variable (step : Command → C → Command × C) (fine : Command → D → Command × D) (forget : D → C)

/-- A walk whose steps keep more of the world goes the same way and leaves the same nodes. -/
theorem Job.walk_map (same : ∀ c d, step c (forget d) = ((fine c d).1, forget (fine c d).2)) (j : Job)
    (d : D) : j.walk step (forget d) = ((j.walk fine d).1, forget (j.walk fine d).2) := by
  have run := Run.inOrder_map step fine forget same j.commands d
  simp [Job.walk, run]

theorem Stage.walk_map (same : ∀ c d, step c (forget d) = ((fine c d).1, forget (fine c d).2))
    (stage : Stage) (d : D) :
    stage.walk step (forget d) = ((stage.walk fine d).1, forget (stage.walk fine d).2) := by
  have run := Run.inOrder_map (Job.walk step) (Job.walk fine) forget (Job.walk_map step fine forget same)
    stage.jobs d
  simp [Stage.walk, run]

theorem Pipeline.walk_map (same : ∀ c d, step c (forget d) = ((fine c d).1, forget (fine c d).2))
    (p : Pipeline) (d : D) :
    p.walk step (forget d) =
      ((p.walk fine d).1, (p.walk fine d).2.1, forget (p.walk fine d).2.2) :=
  Run.inOrder_map (Stage.walk step) (Stage.walk fine) forget (Stage.walk_map step fine forget same)
    (p.stages.map Stage.reset) d

end

/-- A walk that records is the walk itself, beside its record. -/
theorem Pipeline.walk_recording (step : Command → C → Command × C) (p : Pipeline)
    (world : List (Command × C) × C) :
    p.walk step world.2 =
      ((p.walk (Run.recording step) world).1, (p.walk (Run.recording step) world).2.1,
        (p.walk (Run.recording step) world).2.2.2) :=
  p.walk_map step (Run.recording step) Prod.snd (fun _ _ => rfl) world

/-- A command that is executed, and the world that it meets. -/
abbrev Execution (σ : Type) : Type := Command × Context × σ

/-- The command as the execution leaves it. -/
def Execution.outcome (env : Environment σ) (e : Execution σ) : Command :=
  (Command.execute env e.1 e.2).1

namespace Pipeline

/-- The executions of a run, in their order. -/
def executions (env : Environment σ) (p : Pipeline) (s : σ) : List (Execution σ) :=
  (p.walk (Run.recording (Command.execute env)) ([], p.context, s)).2.2.1

/-- Every execution of a run takes place in the base directory of the pipeline. -/
theorem baseDir_of_mem_executions {env : Environment σ} {p : Pipeline} {s : σ} {e : Execution σ}
    (mem : e ∈ p.executions env s) : e.2.1.baseDir = p.baseDir := by
  -- The invariant speaks of the world and of all that is recorded so far.
  let there : List (Execution σ) × Context × σ → Prop := fun world =>
    world.2.1.baseDir = p.baseDir ∧ ∀ e ∈ world.1, e.2.1.baseDir = p.baseDir
  have keeps : ∀ (c : Command) (world : List (Execution σ) × Context × σ), there world →
      True ∧ there (Run.recording (Command.execute env) c world).2 := by
    intro c world start
    refine ⟨trivial, (Command.execute_baseDir c world.2).trans start.1, ?_⟩
    intro e mem
    rcases List.mem_append.1 mem with mem | mem
    · exact start.2 e mem
    · rw [List.mem_singleton.1 mem]
      exact start.1
  have run := ordered_walk (fun _ _ => True) there keeps p ([], p.context, s) ⟨rfl, by simp⟩
  exact run.2.2 e mem

end Pipeline
end CiPipeline
