import CiPipeline.Proofs.Run.Trace

/-!
# Flags — what allowing failures cannot change

As long as commands pass, every flag is idle: the commands are executed in the order of the tree and
none is left out.  At the first failure the flags begin to matter, but then the verdict is settled,
because a failure taints every node above it.

* `upToFailure`: executions up to the first that fails;
* `Sweep`: a run over commands in their order, of which nothing is said behind a failure;
* `Run.sweep_inOrder`: running children in order sweeps over the commands below them;
* `Sweep.agree`: sweeps over the same actions agree;
* `verdict_ignores_flags`: so do runs of pipelines that differ in their flags.
-/

namespace CiPipeline

variable {σ : Type} {env : Environment σ}

/-! ## Sweeps -/

/-- The executions up to the first that fails, this one included. -/
def upToFailure (env : Environment σ) : List (Execution σ) → List (Execution σ)
  | [] => []
  | e :: rest => if (e.outcome env).state.isFailed then [e] else e :: upToFailure env rest

/-- Commands are executed in their order while they pass.  Behind the first failure anything may be
executed, and the state is settled. -/
inductive Sweep (env : Environment σ) :
    List Command → Context × σ → List (Execution σ) → State → Context × σ → Prop
  | done {world : Context × σ} : Sweep env [] world [] .passed world
  | pass {c : Command} {rest : List Command} {world final : Context × σ}
      {es : List (Execution σ)} {state : State}
      (passed : (Command.execute env c world).1.state = .passed)
      (onward : Sweep env rest (Command.execute env c world).2 es state final) :
      Sweep env (c :: rest) world ((c, world) :: es) state final
  | fail {c : Command} {rest : List Command} {world final : Context × σ}
      {es : List (Execution σ)} (failed : (Command.execute env c world).1.state = .failed) :
      Sweep env (c :: rest) world ((c, world) :: es) .failed final

namespace Sweep

variable {commands others : List Command} {world middle final : Context × σ}
  {es es' : List (Execution σ)} {state state' : State}

theorem settled (sweep : Sweep env commands world es state final) :
    state = .passed ∨ state = .failed := by
  induction sweep with
  | done => exact .inl rfl
  | pass _ _ ih => exact ih
  | fail _ => exact .inr rfl

theorem append (sweep : Sweep env commands world es state middle) (passed : state = .passed)
    (onward : Sweep env others middle es' state' final) :
    Sweep env (commands ++ others) world (es ++ es') state' final := by
  induction sweep with
  | done => exact onward
  | pass first _ ih => exact .pass first (ih passed onward)
  | fail _ => cases passed

theorem append_failed (sweep : Sweep env commands world es state middle)
    (failed : state = .failed) (others : List Command) (es' : List (Execution σ))
    (final : Context × σ) :
    Sweep env (commands ++ others) world (es ++ es') .failed final := by
  induction sweep with
  | done => cases failed
  | pass first _ ih => exact .pass first (ih failed)
  | fail first => exact .fail first

end Sweep

/-! ## Runs sweep -/

/-- One execution that is recorded. -/
theorem Command.sweep_recording (c : Command) (record : List (Execution σ))
    (world : Context × σ) :
    ∃ es, (Run.recording (execute env) c (record, world)).2.1 = record ++ es ∧
      Sweep env [c] world es (Run.recording (execute env) c (record, world)).1.state
        (Run.recording (execute env) c (record, world)).2.2 := by
  refine ⟨[(c, world)], rfl, ?_⟩
  simp only [Run.recording]
  cases state : (execute env c world).1.state with
  | unstarted => exact absurd state (stateOf_ne_unstarted _)
  | passed => exact .pass state .done
  | failed => exact .fail state

/-- When each child sweeps over the commands below it, running the children in order sweeps over all
of them, whichever failures are allowed. -/
theorem Run.sweep_inOrder {α : Type} [Runnable α]
    (step : α → List (Execution σ) × Context × σ → α × List (Execution σ) × Context × σ)
    (below : α → List Command)
    (sweeps : ∀ a record world, ∃ es, (step a (record, world)).2.1 = record ++ es ∧
      Sweep env (below a) world es (Runnable.state (step a (record, world)).1)
        (step a (record, world)).2.2)
    (children : List α) (record : List (Execution σ)) (world : Context × σ) :
    ∃ es, (inOrder step children (record, world)).2.2.1 = record ++ es ∧
      Sweep env (children.flatMap below) world es (inOrder step children (record, world)).1
        (inOrder step children (record, world)).2.2.2 := by
  -- The sweep of a child goes before that of its siblings; behind a failure the latter may be
  -- anything, also missing.
  induction children generalizing record world with
  | nil => exact ⟨[], by simp [inOrder], .done⟩
  | cons a as ih =>
      rcases sweeps a record world with ⟨es, recorded, first⟩
      rw [List.flatMap_cons]
      cases status : Runnable.status (step a (record, world)).1 with
      | true =>
          rw [inOrder_cons_next status]
          rcases ih (step a (record, world)).2.1 (step a (record, world)).2.2 with
            ⟨es', recorded', rest⟩
          refine ⟨es ++ es', by rw [← List.append_assoc, ← recorded, ← recorded'], ?_⟩
          rcases first.settled with passed | failed
          · rw [passed]
            exact first.append passed rest
          · rw [failed]
            exact first.append_failed failed _ _ _
      | false =>
          rw [inOrder_cons_halt status]
          refine ⟨es, recorded, ?_⟩
          -- A child that passed would not have ended the run.
          rcases first.settled with passed | failed
          · simp [Runnable.status, passed, State.isPassed] at status
          · rw [failed, ← List.append_nil es]
            exact first.append_failed failed _ _ _

theorem Job.sweep_walk (j : Job) (record : List (Execution σ)) (world : Context × σ) :
    ∃ es, (j.walk (Run.recording (Command.execute env)) (record, world)).2.1 = record ++ es ∧
      Sweep env j.commands world es
        (j.walk (Run.recording (Command.execute env)) (record, world)).1.state
        (j.walk (Run.recording (Command.execute env)) (record, world)).2.2 := by
  have run := Run.sweep_inOrder (Run.recording (Command.execute env)) (fun c => [c])
    Command.sweep_recording j.commands record world
  rwa [List.flatMap_singleton'] at run

theorem Stage.sweep_walk (stage : Stage) (record : List (Execution σ)) (world : Context × σ) :
    ∃ es, (stage.walk (Run.recording (Command.execute env)) (record, world)).2.1 = record ++ es ∧
      Sweep env stage.commands world es
        (stage.walk (Run.recording (Command.execute env)) (record, world)).1.state
        (stage.walk (Run.recording (Command.execute env)) (record, world)).2.2 :=
  Run.sweep_inOrder (Job.walk (Run.recording (Command.execute env))) Job.commands Job.sweep_walk
    stage.jobs record world

namespace Pipeline

theorem commands_reset (p : Pipeline) :
    (p.stages.map Stage.reset).flatMap Stage.commands = p.commands.map Command.reset := by
  simp [commands, Stage.commands, Stage.reset, Job.reset, List.map_flatMap, List.flatMap_map]

theorem sweep_executions (env : Environment σ) (p : Pipeline) (s : σ) :
    Sweep env (p.commands.map Command.reset) (p.context, s) (p.executions env s)
      (p.execute env s).1.state ((p.execute env s).1.context, (p.execute env s).2) := by
  obtain ⟨es, recorded, sweep⟩ : ∃ es, p.executions env s = [] ++ es ∧
      Sweep env ((p.stages.map Stage.reset).flatMap Stage.commands) (p.context, s) es
        (p.walk (Run.recording (Command.execute env)) ([], p.context, s)).1
        (p.walk (Run.recording (Command.execute env)) ([], p.context, s)).2.2.2 :=
    Run.sweep_inOrder (Stage.walk (Run.recording (Command.execute env))) Stage.commands
      Stage.sweep_walk (p.stages.map Stage.reset) [] (p.context, s)
  have walked := p.walk_recording (Command.execute env) ([], p.context, s)
  rw [commands_reset] at sweep
  -- What is recorded is the run itself, beside the record.
  simpa [recorded, execute_eq_walk, walked] using sweep

end Pipeline

/-! ## Agreement -/

/-- What commands can tell of a world. -/
def view (world : Context × σ) : Store × Path × σ := (world.1.store, world.1.baseDir, world.2)

/-- What was executed in which world, and what came of it. -/
def Execution.seen (env : Environment σ) (e : Execution σ) :
    Action × State × CommandResult × Store × Path × σ :=
  (e.1.action, (e.outcome env).state, (e.outcome env).result, view e.2)

/-- The flag of a command and its earlier results make no difference to what it does. -/
theorem Command.execute_agree (env : Environment σ) {c c' : Command} {world world' : Context × σ}
    (action : c.action = c'.action) (met : view world = view world') :
    (execute env c world).1.result = (execute env c' world').1.result ∧
      view (execute env c world).2 = view (execute env c' world').2 := by
  rcases world with ⟨⟨store, baseDir, runId⟩, s⟩
  rcases world' with ⟨⟨store', baseDir', runId'⟩, s'⟩
  simp only [view, Prod.mk.injEq] at met
  rcases met with ⟨rfl, rfl, rfl⟩
  simp only [execute_eq, action]
  cases c'.action with
  | run script program args => exact ⟨rfl, rfl⟩
  | print params => exact ⟨rfl, rfl⟩
  | file operation path name =>
      cases operation with
      | write => exact ⟨rfl, rfl⟩
      | read =>
          simp only [dispatch, runFile, Context.resolve, view]
          by_cases present : env.present (baseDir.join path) s = true
          · simp only [present, if_true]
            cases env.readText (baseDir.join path) s with
            | ok contents => exact ⟨rfl, rfl⟩
            | error problem => exact ⟨rfl, rfl⟩
          · simp only [present]
            exact ⟨rfl, rfl⟩

theorem Command.state_agree (env : Environment σ) {c c' : Command} {world world' : Context × σ}
    (action : c.action = c'.action) (met : view world = view world') :
    (execute env c world).1.state = (execute env c' world').1.state :=
  congrArg stateOf (execute_agree env action met).1

theorem Execution.seen_agree (env : Environment σ) {c c' : Command} {world world' : Context × σ}
    (action : c.action = c'.action) (met : view world = view world') :
    Execution.seen env (c, world) = Execution.seen env (c', world') := by
  have result := (Command.execute_agree env action met).1
  have state := Command.state_agree env action met
  simp only [seen, outcome, action, result, state, met]

/-- Sweeps over the same actions from worlds that look the same come to the same state, and look the
same up to the first failure. -/
theorem Sweep.agree {commands commands' : List Command} {world world' final final' : Context × σ}
    {es es' : List (Execution σ)} {state state' : State}
    (one : Sweep env commands world es state final)
    (other : Sweep env commands' world' es' state' final')
    (actions : commands.map Command.action = commands'.map Command.action)
    (met : view world = view world') :
    state = state' ∧
      (upToFailure env es).map (Execution.seen env) =
        (upToFailure env es').map (Execution.seen env) := by
  -- Both sweeps take the same step, so they pass together or fail together.
  induction one generalizing commands' world' es' state' final' with
  | done =>
      cases other with
      | done => exact ⟨rfl, rfl⟩
      | pass => cases actions
      | fail => cases actions
  | @pass c rest world final es state passed onward ih =>
      cases other with
      | done => cases actions
      | @pass c' rest' _ _ es' _ passed' onward' =>
          rcases List.cons.inj actions with ⟨action, actions⟩
          rcases ih onward' actions (Command.execute_agree env action met).2 with ⟨same, agree⟩
          have first := Execution.seen_agree env action met
          refine ⟨same, ?_⟩
          simp [upToFailure, Execution.outcome, passed, passed', State.isFailed, first, agree]
      | @fail c' rest' _ _ es' failed' =>
          rcases List.cons.inj actions with ⟨action, _⟩
          cases passed.symm.trans ((Command.state_agree env action met).trans failed')
  | @fail c rest world final es failed =>
      cases other with
      | done => cases actions
      | @pass c' rest' _ _ es' _ passed' onward' =>
          rcases List.cons.inj actions with ⟨action, _⟩
          cases failed.symm.trans ((Command.state_agree env action met).trans passed')
      | @fail c' rest' _ _ es' failed' =>
          rcases List.cons.inj actions with ⟨action, _⟩
          have first := Execution.seen_agree env action met
          refine ⟨rfl, ?_⟩
          simp [upToFailure, Execution.outcome, failed, failed', State.isFailed, first]

/-- Up to the first failure, no command is left out. -/
theorem Sweep.upToFailure_first {commands : List Command} {world final : Context × σ}
    {es : List (Execution σ)} {state : State} (sweep : Sweep env commands world es state final) :
    (upToFailure env es).map Prod.fst <+: commands := by
  induction sweep with
  | done => exact List.prefix_refl _
  | pass passed _ ih =>
      simp only [upToFailure, Execution.outcome, passed, State.isFailed]
      exact List.cons_prefix_cons.2 ⟨rfl, ih⟩
  | fail failed =>
      simp only [upToFailure, Execution.outcome, failed, State.isFailed]
      exact List.cons_prefix_cons.2 ⟨rfl, List.nil_prefix⟩

/-! ## Pipelines that differ in their flags -/

/-- The name of a job and in order the actions of its commands. -/
def Job.plan (j : Job) : String × List Action := (j.name, j.commands.map Command.action)

/-- The name of a stage and in order the plans of its jobs. -/
def Stage.plan (stage : Stage) : String × List (String × List Action) :=
  (stage.name, stage.jobs.map Job.plan)

theorem Pipeline.map_action_commands (p : Pipeline) :
    p.commands.map Command.action =
      (p.stages.map Stage.plan).flatMap fun plan => plan.2.flatMap Prod.snd := by
  simp [commands, Stage.commands, Stage.plan, Job.plan, List.map_flatMap, List.flatMap_map]

/-- Pipelines with the same plans that run in the same world come to the same state.  Up to the first
command that fails they execute the same commands, the first ones of the tree, with the same
results. -/
theorem verdict_ignores_flags (env : Environment σ) {p p' : Pipeline}
    (plans : p.stages.map Stage.plan = p'.stages.map Stage.plan) (store : p.store = p'.store)
    (baseDir : p.baseDir = p'.baseDir) (s : σ) :
    (p.execute env s).1.state = (p'.execute env s).1.state ∧
      ((p.execute env s).1.state = .passed ∨ (p.execute env s).1.state = .failed) ∧
      (upToFailure env (p.executions env s)).map (Execution.seen env) =
        (upToFailure env (p'.executions env s)).map (Execution.seen env) ∧
      (upToFailure env (p.executions env s)).map Prod.fst <+: p.commands.map Command.reset ∧
      (upToFailure env (p'.executions env s)).map Prod.fst <+: p'.commands.map Command.reset := by
  have sweep := p.sweep_executions env s
  have sweep' := p'.sweep_executions env s
  have actions : (p.commands.map Command.reset).map Command.action =
      (p'.commands.map Command.reset).map Command.action := by
    have cleared : ∀ commands : List Command,
        (commands.map Command.reset).map Command.action = commands.map Command.action := by
      simp [Command.reset]
    rw [cleared, cleared, p.map_action_commands, p'.map_action_commands, plans]
  -- Flags, states and results aside, both sweeps begin in the same world.
  have met : view (p.context, s) = view (p'.context, s) :=
    congrArg₂ (fun store dir => (store, dir, s)) store baseDir
  rcases sweep.agree sweep' actions met with ⟨same, agree⟩
  exact ⟨same, sweep.settled, agree, sweep.upToFailure_first, sweep'.upToFailure_first⟩

/-- A pipeline that reads a file, fails to read another and prints what it read. -/
def Pipeline.failingToRead (allowed : Bool) : Pipeline :=
  { stages := [⟨"s", false, [⟨"j", false,
      [.readInto ⟨"V"⟩ "v" "a", (Command.readInto ⟨"W"⟩ "v" "b").withAllowFailure allowed,
        .print [.reference "v"] "c"], .unstarted⟩], .unstarted⟩]
    allowFailure := false
    state := .unstarted
    context := .ofDir ⟨""⟩ 0 }

/-- Where the failure is allowed, the run goes on and prints; the verdict is the same. -/
theorem verdict_ignores_flags_failingToRead :
    let env := Environment.keepingLines ⟨"V"⟩ "1.0"
    let strict := Pipeline.failingToRead false
    let lenient := Pipeline.failingToRead true
    strict.stages.map Stage.plan = lenient.stages.map Stage.plan ∧ strict.store = lenient.store ∧
      strict.baseDir = lenient.baseDir ∧
      (strict.execute env []).1.state = (lenient.execute env []).1.state ∧
      (strict.execute env []).2 = [] ∧ (lenient.execute env []).2 = ["1.0"] := by
  intro env strict lenient
  have plans : strict.stages.map Stage.plan = lenient.stages.map Stage.plan := rfl
  have same := verdict_ignores_flags env plans (rfl : strict.store = lenient.store)
    (rfl : strict.baseDir = lenient.baseDir) []
  exact ⟨plans, rfl, rfl, same.1, by decide, by decide⟩

end CiPipeline
