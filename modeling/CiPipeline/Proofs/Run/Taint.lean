import CiPipeline.Proofs.Run.Reach

/-!
# Taint — a state speaks of every command below it

A parent looks only at the children that it runs.  Its state still speaks of all the commands below
it, the skipped ones and those with results of earlier runs included: a run stops only at a failure,
and a failure that is allowed taints the parents all the same.

* `Job.Walked.verdict`, `Stage.Walked.verdict`: a walk, with any test of commands;
* `State.SumsUp`: passed when every command passed with code zero, failed otherwise;
* `Job.rerun`, `Stage.rerun`: executions of a single node that are not preceded by a reset;
* `execute_sums_up`: pipelines, stages, jobs, the status of a run, and repeated executions.
-/

namespace CiPipeline

/-! ## Walks -/

section

variable {Ran : Command → Command → Prop} {clean tainted : Command → Prop}

theorem Job.Walked.verdict {before after : Job} (walked : Job.Walked Ran before after)
    (decides : ∀ a b, Ran a b → Run.Verdict (clean b) (tainted b) b.state) :
    Run.Verdict (∀ c ∈ after.commands, clean c) (∃ c ∈ after.commands, tainted c) after.state :=
  walked.commands.verdict decides

theorem Stage.Walked.verdict {before after : Stage} (walked : Stage.Walked Ran before after)
    (decides : ∀ a b, Ran a b → Run.Verdict (clean b) (tainted b) b.state) :
    Run.Verdict (∀ c ∈ after.commands, clean c) (∃ c ∈ after.commands, tainted c) after.state := by
  -- What holds of all commands of all jobs holds of all commands of the stage.
  have jobs := walked.jobs.verdict fun a b job => Job.Walked.verdict job decides
  refine jobs.congr ?_ ?_
  · simp only [Stage.commands, List.mem_flatMap]
    grind
  · simp only [Stage.commands, List.mem_flatMap]
    grind

end

/-! ## Commands -/

theorem Command.Executed.verdict {σ : Type} {env : Environment σ} {dir : Path}
    (before after : Command) (executed : Command.Executed env dir before after) :
    Run.Verdict (after.state = .passed) (after.state = .failed) after.state := by
  cases state : after.state with
  | unstarted => exact absurd state (executed.state_ne before after)
  | passed => exact .passed rfl (by simp)
  | failed => exact .failed (by simp) rfl

/-- A command that has run passed exactly when it ended with code zero. -/
theorem Command.Executed.verdict_code {σ : Type} {env : Environment σ} {dir : Path}
    (before after : Command) (executed : Command.Executed env dir before after) :
    Run.Verdict (after.state = .passed ∧ after.result.code = 0) (after.state = .failed)
      after.state := by
  have code := executed.passed_iff
  have verdict := executed.verdict before after
  exact verdict.congr ⟨fun passed => ⟨passed, code.1 passed⟩, And.left⟩ Iff.rfl

/-! ## Executions without a reset -/

section

variable {σ : Type} (env : Environment σ)

/-- A job after executions in the given worlds, one after another. -/
def Job.rerun (j : Job) (worlds : List (Context × σ)) : Job :=
  worlds.foldl (fun j world => (j.execute env world).1) j

def Stage.rerun (stage : Stage) (worlds : List (Context × σ)) : Stage :=
  worlds.foldl (fun stage world => (stage.execute env world).1) stage

theorem Job.verdict_execute (j : Job) (world : Context × σ) :
    let after := (j.execute env world).1
    Run.Verdict (∀ c ∈ after.commands, c.state = .passed) (∃ c ∈ after.commands, c.state = .failed)
      after.state := by
  -- Nothing is assumed of the commands: those that are left out may have any results.
  have walked := Job.walked_walk (Command.Executed env world.1.baseDir)
    (fun after => after.1.baseDir = world.1.baseDir)
    (Command.executed_execute world.1.baseDir) j world rfl
  exact walked.1.verdict Command.Executed.verdict

theorem Stage.verdict_execute (stage : Stage) (world : Context × σ) :
    let after := (stage.execute env world).1
    Run.Verdict (∀ c ∈ after.commands, c.state = .passed) (∃ c ∈ after.commands, c.state = .failed)
      after.state := by
  have walked := Stage.walked_walk (Command.Executed env world.1.baseDir)
    (fun after => after.1.baseDir = world.1.baseDir)
    (Command.executed_execute world.1.baseDir) stage world rfl
  exact walked.1.verdict Command.Executed.verdict

end

/-! ## Runs of a pipeline -/

/-- Passed when every one of the commands passed with code zero, failed otherwise. -/
def State.SumsUp (state : State) (commands : List Command) : Prop :=
  (state = .passed ↔ ∀ c ∈ commands, c.state = .passed ∧ c.result.code = 0) ∧
    (state = .failed ↔ ¬ ∀ c ∈ commands, c.state = .passed ∧ c.result.code = 0)

theorem Run.Verdict.sumsUp {state : State} {commands : List Command} {tainted : Prop}
    (v : Run.Verdict (∀ c ∈ commands, c.state = .passed ∧ c.result.code = 0) tainted state) :
    state.SumsUp commands :=
  ⟨v.passed_iff, v.failed_iff_not⟩

namespace Pipeline

variable {σ : Type} (env : Environment σ) (p : Pipeline) (s : σ)

theorem verdict_execute :
    let q := (p.execute env s).1
    Run.Verdict (∀ c ∈ q.commands, c.state = .passed ∧ c.result.code = 0)
      (∃ c ∈ q.commands, c.state = .failed) q.state := by
  have stages := (ordered_execute env p s).verdict fun a b stage =>
    Stage.Walked.verdict stage Command.Executed.verdict_code
  refine stages.congr ?_ ?_
  · simp only [commands, List.mem_flatMap]
    grind
  · simp only [commands, List.mem_flatMap]
    grind

theorem sumsUp_stage {i : Nat} {stage : Stage}
    (found : (p.execute env s).1.stages[i]? = some stage)
    (reached : (p.execute env s).1.skipped (.stage i) = false) :
    stage.state.SumsUp stage.commands := by
  rcases stage_after found with ⟨before, _, ⟨_, walked⟩ | ⟨closed, _⟩⟩
  · exact (walked.verdict Command.Executed.verdict_code).sumsUp
  · cases reached.symm.trans closed

theorem sumsUp_job {i j : Nat} {job : Job} (found : (p.execute env s).1.job? i j = some job)
    (reached : (p.execute env s).1.skipped (.job i j) = false) :
    job.state.SumsUp job.commands := by
  rcases job_after found with ⟨before, _, ⟨_, walked⟩ | ⟨closed, _⟩⟩
  · exact (walked.verdict Command.Executed.verdict_code).sumsUp
  · cases reached.symm.trans closed

/-- The status of a run: its failure is allowed, or every command of the tree ran and passed. -/
theorem status_execute_iff :
    let q := (p.execute env s).1
    Runnable.status q = true ↔ p.allowFailure = true ∨
      ∀ i j k c, q.command? i j k = some c →
        q.skipped (.command i j k) = false ∧ c.state = .passed := by
  intro q
  have verdict := verdict_execute env p s
  have status : Runnable.status q = true ↔ p.allowFailure = true ∨ q.state = .passed := by
    simp only [Runnable.status, State.isPassed, Bool.or_eq_true, beq_iff_eq]
    exact or_comm
  rw [status, verdict.passed_iff]
  refine or_congr Iff.rfl ⟨fun clean i j k c found => ?_, fun passed c mem => ?_⟩
  · -- A command that passed is not unstarted, so it cannot have been skipped.
    have passed := (clean c (mem_commands.2 ⟨i, j, k, found⟩)).1
    have place : q.state? (.command i j k) = some c.state := by simp [state?, found]
    have unstarted := unstarted_iff_skipped place
    simp only [passed, reduceCtorEq, false_iff, Bool.not_eq_true] at unstarted
    exact ⟨unstarted, passed⟩
  · -- A command that was reached has run, so that passing means code zero.
    rcases mem_commands.1 mem with ⟨i, j, k, found⟩
    rcases passed i j k c found with ⟨reached, passed⟩
    rcases command_after found with ⟨before, _, ⟨_, executed⟩ | ⟨closed, _⟩⟩
    · exact ⟨passed, executed.passed_iff.1 passed⟩
    · cases reached.symm.trans closed

end Pipeline

/-- The states of a run say of all commands below whether they passed, the status also whether that
matters; and so does the state of a single job or stage after any number of executions. -/
theorem execute_sums_up {σ : Type} (env : Environment σ) :
    (∀ (p : Pipeline) (s : σ),
      let q := (p.execute env s).1
      q.state.SumsUp q.commands ∧
      (∀ i stage, q.stages[i]? = some stage → q.skipped (.stage i) = false →
        stage.state.SumsUp stage.commands) ∧
      (∀ i j job, q.job? i j = some job → q.skipped (.job i j) = false →
        job.state.SumsUp job.commands) ∧
      (Runnable.status q = true ↔ p.allowFailure = true ∨
        ∀ i j k c, q.command? i j k = some c →
          q.skipped (.command i j k) = false ∧ c.state = .passed)) ∧
    (∀ (j : Job) (earlier : List (Context × σ)) (world : Context × σ),
      let after := ((j.rerun env earlier).execute env world).1
      (after.state = .passed ↔ ∀ c ∈ after.commands, c.state = .passed) ∧
        (after.state = .failed ↔ ∃ c ∈ after.commands, c.state = .failed)) ∧
    (∀ (stage : Stage) (earlier : List (Context × σ)) (world : Context × σ),
      let after := ((stage.rerun env earlier).execute env world).1
      (after.state = .passed ↔ ∀ c ∈ after.commands, c.state = .passed) ∧
        (after.state = .failed ↔ ∃ c ∈ after.commands, c.state = .failed)) := by
  refine ⟨fun p s => ⟨?_, ?_, ?_, ?_⟩, fun j earlier world => ?_, fun stage earlier world => ?_⟩
  · exact (p.verdict_execute env s).sumsUp
  · intro i stage found reached
    exact p.sumsUp_stage env s found reached
  · intro i j job found reached
    exact p.sumsUp_job env s found reached
  · exact p.status_execute_iff env s
  · have verdict := (j.rerun env earlier).verdict_execute env world
    exact ⟨verdict.passed_iff, verdict.failed_iff⟩
  · have verdict := (stage.rerun env earlier).verdict_execute env world
    exact ⟨verdict.passed_iff, verdict.failed_iff⟩

end CiPipeline
