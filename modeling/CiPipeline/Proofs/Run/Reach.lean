import CiPipeline.Proofs.Run.Place
import CiPipeline.Proofs.Run.Walk

/-!
# Reach — which nodes a run gets to

A node is skipped when an earlier sibling of it, or of a node above it, failed without being allowed
to.  A run executes the other nodes and leaves the skipped ones cleared.

* `Pipeline.skipped`: whether a place lies behind a failure;
* `Pipeline.stage_after`, `job_after`, `command_after`: what stands at a place after a run;
* `Pipeline.outcomes_eq_started`: which commands are executed, in which order;
* `Pipeline.execute_reaches_unskipped`: a run in these terms.
-/

namespace CiPipeline

/-! ## Skipping -/

namespace Pipeline

def skippedStage (p : Pipeline) (i : Nat) : Bool := Run.haltedBefore p.stages i

def skippedJob (p : Pipeline) (i j : Nat) : Bool :=
  p.skippedStage i || p.stages[i]?.any fun stage => Run.haltedBefore stage.jobs j

def skippedCommand (p : Pipeline) (i j k : Nat) : Bool :=
  p.skippedJob i j || (p.job? i j).any fun job => Run.haltedBefore job.commands k

/-- Whether an earlier sibling of a node, or of a node above it, halts. -/
def skipped (p : Pipeline) : Place → Bool
  | .stage i => p.skippedStage i
  | .job i j => p.skippedJob i j
  | .command i j k => p.skippedCommand i j k

end Pipeline

/-! ## What stands at a place after a run -/

namespace Pipeline

variable {σ : Type} {env : Environment σ} {p : Pipeline} {s : σ}

theorem stage_after {i : Nat} {stage : Stage}
    (found : (p.execute env s).1.stages[i]? = some stage) :
    ∃ before, p.stages[i]? = some before ∧
      ((p.execute env s).1.skippedStage i = false ∧
          Stage.Walked (Command.Executed env p.baseDir) before.reset stage ∨
        (p.execute env s).1.skippedStage i = true ∧ stage = before.reset) := by
  obtain ⟨cleared, stood, outcome⟩ :=
    (ordered_execute env p s).getElem? Stage.Walked.state_ne found
  obtain ⟨before, at_i, rfl⟩ : ∃ before, p.stages[i]? = some before ∧ before.reset = cleared := by
    simpa using stood
  exact ⟨before, at_i, outcome⟩

theorem job_after {i j : Nat} {job : Job} (found : (p.execute env s).1.job? i j = some job) :
    ∃ before, p.job? i j = some before ∧
      ((p.execute env s).1.skippedJob i j = false ∧
          Job.Walked (Command.Executed env p.baseDir) before.reset job ∨
        (p.execute env s).1.skippedJob i j = true ∧ job = before.reset) := by
  rcases Option.bind_eq_some_iff.1 found with ⟨stage, at_i, at_j⟩
  rcases stage_after at_i with ⟨before, stood, reached | missed⟩
  · -- In a stage that was walked, the job was walked or lies behind a sibling that halts.
    rcases reached with ⟨open_, walked⟩
    rcases walked.jobs.getElem? Job.Walked.state_ne at_j with ⟨cleared, there, outcome⟩
    obtain ⟨job₀, at_j₀, rfl⟩ : ∃ job₀, before.jobs[j]? = some job₀ ∧ job₀.reset = cleared := by
      simpa [Stage.reset] using there
    refine ⟨job₀, by simp [job?, stood, at_j₀], ?_⟩
    simpa [skippedJob, open_, at_i] using outcome
  · -- In a skipped stage, the job is as the reset left it.
    rcases missed with ⟨closed, rfl⟩
    obtain ⟨job₀, at_j₀, rfl⟩ : ∃ job₀, before.jobs[j]? = some job₀ ∧ job₀.reset = job := by
      simpa [Stage.reset] using at_j
    exact ⟨job₀, by simp [job?, stood, at_j₀], Or.inr ⟨by simp [skippedJob, closed], rfl⟩⟩

theorem command_after {i j k : Nat} {c : Command}
    (found : (p.execute env s).1.command? i j k = some c) :
    ∃ before, p.command? i j k = some before ∧
      ((p.execute env s).1.skippedCommand i j k = false ∧
          Command.Executed env p.baseDir before.reset c ∨
        (p.execute env s).1.skippedCommand i j k = true ∧ c = before.reset) := by
  rcases Option.bind_eq_some_iff.1 found with ⟨job, at_j, at_k⟩
  rcases job_after at_j with ⟨before, stood, reached | missed⟩
  · -- In a job that was walked, the command was executed or lies behind a sibling that halts.
    rcases reached with ⟨open_, walked⟩
    rcases walked.commands.getElem? Command.Executed.state_ne at_k with ⟨cleared, there, outcome⟩
    obtain ⟨c₀, at_k₀, rfl⟩ : ∃ c₀, before.commands[k]? = some c₀ ∧ c₀.reset = cleared := by
      simpa [Job.reset] using there
    refine ⟨c₀, by simp [command?, stood, at_k₀], ?_⟩
    simpa [skippedCommand, open_, at_j] using outcome
  · -- In a skipped job, the command is as the reset left it.
    rcases missed with ⟨closed, rfl⟩
    obtain ⟨c₀, at_k₀, rfl⟩ : ∃ c₀, before.commands[k]? = some c₀ ∧ c₀.reset = c := by
      simpa [Job.reset] using at_k
    exact ⟨c₀, by simp [command?, stood, at_k₀], Or.inr ⟨by simp [skippedCommand, closed], rfl⟩⟩

/-- A node is unstarted after a run exactly when it is skipped. -/
theorem unstarted_iff_skipped {place : Place} {state : State}
    (found : (p.execute env s).1.state? place = some state) :
    state = .unstarted ↔ (p.execute env s).1.skipped place = true := by
  cases place with
  | stage i =>
      rcases Option.map_eq_some_iff.1 found with ⟨stage, at_i, rfl⟩
      rcases stage_after at_i with ⟨before, _, ⟨open_, walked⟩ | ⟨closed, rfl⟩⟩
      · simpa [skipped, open_] using walked.state_ne
      · simp [skipped, closed, Stage.reset]
  | job i j =>
      rcases Option.map_eq_some_iff.1 found with ⟨job, at_j, rfl⟩
      rcases job_after at_j with ⟨before, _, ⟨open_, walked⟩ | ⟨closed, rfl⟩⟩
      · simpa [skipped, open_] using walked.state_ne
      · simp [skipped, closed, Job.reset]
  | command i j k =>
      rcases Option.map_eq_some_iff.1 found with ⟨c, at_k, rfl⟩
      rcases command_after at_k with ⟨before, _, ⟨open_, executed⟩ | ⟨closed, rfl⟩⟩
      · simpa [skipped, open_] using executed.state_ne
      · simp [skipped, closed, Command.reset]

end Pipeline

/-! ## Which commands are executed -/

def Command.started (c : Command) : Bool := !c.state.isUnstarted

/-- The commands of a stage that have started. -/
def Stage.startedCommands (stage : Stage) : List Command :=
  stage.jobs.flatMap fun j => j.commands.filter Command.started

/-- The commands of a record, each as its execution leaves it. -/
def Execution.outcomes {σ : Type} (env : Environment σ) (world : List (Execution σ) × Context × σ) :
    List Command :=
  world.1.map (Execution.outcome env)

section

variable {σ : Type} (env : Environment σ)

theorem Command.outcomes_recording (c : Command) (world : List (Execution σ) × Context × σ) :
    Execution.outcomes env (Run.recording (Command.execute env) c world).2 =
      Execution.outcomes env world ++
        [(Run.recording (Command.execute env) c world).1].filter Command.started := by
  have started : (Command.execute env c world.2).1.started = true := by
    simpa [Command.started, State.isUnstarted, Command.execute_eq]
      using Command.stateOf_ne_unstarted _
  simp [Execution.outcomes, Execution.outcome, Run.recording, started]

/-- What is recorded on a cleared job is what has started afterwards. -/
theorem Job.outcomes_walk (j : Job) (clear : ∀ c ∈ j.commands, c.started = false)
    (world : List (Execution σ) × Context × σ) :
    Execution.outcomes env (j.walk (Run.recording (Command.execute env)) world).2 =
      Execution.outcomes env world ++
        (j.walk (Run.recording (Command.execute env)) world).1.commands.filter Command.started := by
  have logged := Run.log_inOrder (Run.recording (Command.execute env)) (Execution.outcomes env)
    (fun c => [c].filter Command.started) j.commands
    (fun c _ => Command.outcomes_recording env c) (fun c mem => by simp [clear c mem]) world
  rw [← List.filter_flatMap, List.flatMap_singleton'] at logged
  exact logged

theorem Stage.outcomes_walk (stage : Stage)
    (clear : ∀ j ∈ stage.jobs, ∀ c ∈ j.commands, c.started = false)
    (world : List (Execution σ) × Context × σ) :
    Execution.outcomes env (stage.walk (Run.recording (Command.execute env)) world).2 =
      Execution.outcomes env world ++
        (stage.walk (Run.recording (Command.execute env)) world).1.startedCommands :=
  Run.log_inOrder (Job.walk (Run.recording (Command.execute env))) (Execution.outcomes env)
    (fun j => j.commands.filter Command.started) stage.jobs
    (fun j mem => Job.outcomes_walk env j (clear j mem))
    (fun j mem => by simpa using clear j mem) world

end

namespace Pipeline

variable {σ : Type} (env : Environment σ) (p : Pipeline) (s : σ)

/-- The executions of a run left the commands that have started, in the order of the tree. -/
theorem outcomes_eq_started :
    (p.executions env s).map (Execution.outcome env) =
      (p.execute env s).1.stages.flatMap Stage.startedCommands := by
  -- Right after the reset nothing has started, so all that has started later is recorded.
  have cleared : ∀ stage ∈ p.stages.map Stage.reset, ∀ j ∈ stage.jobs, ∀ c ∈ j.commands,
      c.started = false := by
    simp [Stage.reset, Job.reset, Command.reset, Command.started, State.isUnstarted]
  have logged := Run.log_inOrder (Stage.walk (Run.recording (Command.execute env)))
    (Execution.outcomes env) Stage.startedCommands (p.stages.map Stage.reset)
    (fun stage mem => Stage.outcomes_walk env stage (cleared stage mem))
    (fun stage mem => by simpa [Stage.startedCommands] using cleared stage mem)
    ([], p.context, s)
  have same : (p.execute env s).1.stages =
      (p.walk (Run.recording (Command.execute env)) ([], p.context, s)).2.1 := by
    have walked := p.walk_recording (Command.execute env) ([], p.context, s)
    simp [execute_eq_walk, walked]
  rw [same]
  simpa [Execution.outcomes, executions, walk] using logged

/-! ## The tree stays as it is -/

theorem isSome_stage (i : Nat) :
    ((p.execute env s).1.stages[i]?).isSome = (p.stages[i]?).isSome := by
  simpa using (ordered_execute env p s).isSome_getElem? i

theorem isSome_job (i j : Nat) : ((p.execute env s).1.job? i j).isSome = (p.job? i j).isSome := by
  have same := isSome_stage env p s i
  cases found : (p.execute env s).1.stages[i]? with
  | none =>
      have absent : p.stages[i]? = none := by simpa [found] using same.symm
      simp [job?, found, absent]
  | some stage =>
      rcases stage_after found with ⟨before, stood, outcome⟩
      have inner : (stage.jobs[j]?).isSome = (before.jobs[j]?).isSome := by
        rcases outcome with ⟨_, walked⟩ | ⟨_, rfl⟩
        · simpa [Stage.reset] using walked.jobs.isSome_getElem? j
        · simp [Stage.reset]
      simp [job?, found, stood, inner]

theorem isSome_command (i j k : Nat) :
    ((p.execute env s).1.command? i j k).isSome = (p.command? i j k).isSome := by
  have same := isSome_job env p s i j
  cases found : (p.execute env s).1.job? i j with
  | none =>
      have absent : p.job? i j = none := by simpa [found] using same.symm
      simp [command?, found, absent]
  | some job =>
      rcases job_after found with ⟨before, stood, outcome⟩
      have inner : (job.commands[k]?).isSome = (before.commands[k]?).isSome := by
        rcases outcome with ⟨_, walked⟩ | ⟨_, rfl⟩
        · simpa [Job.reset] using walked.commands.isSome_getElem? k
        · simp [Job.reset]
      simp [command?, found, stood, inner]

/-! ## The main statement -/

theorem started_iff_not_skipped {place : Place} {c : Command}
    (mem : (place, c) ∈ (p.execute env s).1.placedCommands) :
    c.started = !(p.execute env s).1.skipped place := by
  rcases mem_placedCommands.1 mem with ⟨i, j, k, rfl, found⟩
  have unstarted : c.state = .unstarted ↔ _ :=
    unstarted_iff_skipped (show (p.execute env s).1.state? (.command i j k) = some c.state by
      simp [state?, found])
  cases skip : (p.execute env s).1.skipped (.command i j k) with
  | false =>
      have ran : c.state ≠ .unstarted := fun h => by simp [unstarted.1 h] at skip
      simpa [Command.started, State.isUnstarted] using ran
  | true => simp [Command.started, State.isUnstarted, unstarted.2 skip]

/-- A run keeps every node.  The nodes that it skips are unstarted, and the commands among them have
the result of a command that never ran; the others passed or failed.  It executes the commands that
it does not skip, each once and in the order of the tree, and watching it changes nothing. -/
theorem execute_reaches_unskipped (env : Environment σ) (p : Pipeline) (s : σ) :
    let q := (p.execute env s).1
    let watched := p.walk (Run.recording (Command.execute env)) ([], p.context, s)
    (∀ place, (q.state? place).isSome = (p.state? place).isSome) ∧
    (∀ place state, q.state? place = some state →
      (state = .unstarted ↔ q.skipped place = true) ∧
        (q.skipped place = false → state = .passed ∨ state = .failed)) ∧
    (p.executions env s).map (Execution.outcome env) =
      (q.placedCommands.filter fun e => !q.skipped e.1).map Prod.snd ∧
    (∀ i j k c, q.command? i j k = some c → q.skipped (.command i j k) = true →
      c.result = ⟨-1, none, none, none⟩) ∧
    watched.1 = q.state ∧ watched.2.1 = q.stages ∧
      watched.2.2 = (p.executions env s, q.context, (p.execute env s).2) := by
  intro q watched
  refine ⟨?_, ?_, ?_, ?_, ?_⟩
  · -- The nodes stay where they are.
    intro place
    cases place with
    | stage i => simpa [state?] using isSome_stage env p s i
    | job i j => simpa [state?] using isSome_job env p s i j
    | command i j k => simpa [state?] using isSome_command env p s i j k
  · -- Their states tell which of them are skipped.
    intro place state found
    have unstarted := unstarted_iff_skipped found
    refine ⟨unstarted, fun reached => ?_⟩
    cases state with
    | unstarted => cases reached.symm.trans (unstarted.1 rfl)
    | passed => exact Or.inl rfl
    | failed => exact Or.inr rfl
  · -- What is executed is what has started, and that is what is not skipped.
    have reached : q.placedCommands.filter (fun e => !q.skipped e.1) =
        q.placedCommands.filter (fun e => e.2.started) :=
      List.filter_congr fun e mem => (started_iff_not_skipped env p s mem).symm
    have started : (q.placedCommands.filter fun e => e.2.started).map Prod.snd =
        q.commands.filter Command.started := by
      rw [← map_snd_placedCommands, List.filter_map]
      rfl
    rw [outcomes_eq_started, reached, started]
    simp only [commands, Stage.commands, List.filter_flatMap]
    rfl
  · -- A skipped command is as the reset left it, its result included.
    intro i j k c found skip
    rcases command_after found with ⟨before, _, ⟨reached, _⟩ | ⟨_, rfl⟩⟩
    · cases reached.symm.trans skip
    · rfl
  · -- The run that is watched is the run itself.
    have walked := p.walk_recording (Command.execute env) ([], p.context, s)
    simp [q, watched, execute_eq_walk, walked, executions]

end Pipeline
end CiPipeline
