import Mathlib.Data.List.Forall2
import CiPipeline.Proofs.Run.Flags
import CiPipeline.Proofs.Run.Frame

/-!
# Leniency — what allowing more failures adds

When the outcome of each command is fixed, allowing more failures only adds executions.  The state of a
node that is executed does not depend on the flags below it: a run that stops at a failure has failed
already, and a run that does not stop gets to the same children in the more lenient pipeline.

* `Pipeline.allows`, `Pipeline.Follows`: the flags of a pipeline, and outcomes that are fixed;
* `Run.Ordered.lenient`: two runs over children that agree in their states;
* `Pipeline.lenient_job`, `Pipeline.lenient_stage`, `Pipeline.lenient_root`: jobs, stages and the root of
  two pipelines of the same plan, of which one allows more than the other;
* `Pipeline.lenient_state`: nodes that both runs get to;
* `allowing_failures_adds_executions`: what is executed in the one is executed in the other.
-/

namespace CiPipeline

/-! ## Children -/

namespace Run

variable {α : Type} [Runnable α]

/-- The children of both runs end in the same states wherever both get to them.  So does the parent, and
the run that allows more gets at least as far. -/
theorem Ordered.lenient {Ran Ran' : α → α → Prop} {before before' after after' : List α}
    {state state' : State} (run : Ordered Ran before state after)
    (run' : Ordered Ran' before' state' after')
    (started : ∀ a b, Ran a b → Runnable.state b ≠ .unstarted)
    (started' : ∀ a b, Ran' a b → Runnable.state b ≠ .unstarted)
    (length : after.length = after'.length)
    (agree : ∀ i b b', after[i]? = some b → after'[i]? = some b' →
      haltedBefore after i = false → haltedBefore after' i = false →
      Runnable.state b = Runnable.state b' ∧
        (Runnable.allowFailure b = true → Runnable.allowFailure b' = true)) :
    state = state' ∧ ∀ i, haltedBefore after i = false → haltedBefore after' i = false := by
  induction run generalizing before' state' after' with
  | nil =>
      obtain rfl : after' = [] := List.length_eq_zero_iff.1 length.symm
      cases run' with
      | nil => exact ⟨rfl, fun _ done => done⟩
  | @next a b as bs state ran go rest ih =>
      cases run' with
      | nil => cases length
      | @next a' b' as' bs' state' ran' go' rest' =>
          have passes : halts b = false := by
            simpa [status_eq_not_halts (started _ _ ran)] using go
          have passes' : halts b' = false := by
            simpa [status_eq_not_halts (started' _ _ ran')] using go'
          rcases agree 0 b b' rfl rfl (haltedBefore_zero _) (haltedBefore_zero _) with ⟨same, _⟩
          rcases ih rest' (Nat.succ.inj length) (fun i d d' found found' reached reached' =>
            agree (i + 1) d d' found found' (by simp [passes, reached])
              (by simp [passes', reached'])) with ⟨verdict, further⟩
          refine ⟨by rw [same, verdict], fun i reached => ?_⟩
          cases i with
          | zero => exact haltedBefore_zero _
          | succ i =>
              simp only [haltedBefore_cons_succ, passes, passes', Bool.false_or] at reached ⊢
              exact further i reached
      | @halt a' b' as' ran' stop' =>
          -- What lets the stricter run go on does not stop the more lenient one.
          rcases agree 0 b b' rfl rfl (haltedBefore_zero _) (haltedBefore_zero _) with ⟨same, more⟩
          simp only [Runnable.status, same, Bool.or_eq_true] at go
          simp only [Runnable.status, Bool.or_eq_false_iff] at stop'
          rcases go with passed | allowed
          · cases passed.symm.trans stop'.1
          · cases (more allowed).symm.trans stop'.2
  | @halt a b as ran stop =>
      have stops : halts b = true := by
        simpa [status_eq_not_halts (started _ _ ran)] using stop
      -- The child that stopped the run failed, and so it did in the other run.
      have failed : Runnable.state b = .failed := by
        simp only [halts, Bool.and_eq_true, State.isFailed, beq_iff_eq] at stops
        exact stops.1
      have behind : ∀ i, haltedBefore (b :: as) i = false → haltedBefore after' i = false := by
        intro i reached
        cases i with
        | zero => exact haltedBefore_zero _
        | succ i => simp [stops] at reached
      refine ⟨?_, behind⟩
      have settled : ∀ rest, taint .failed rest = .failed := fun _ => rfl
      cases run' with
      | nil => cases length
      | @next a' b' as' bs' state' ran' go' rest' =>
          rcases agree 0 b b' rfl rfl (haltedBefore_zero _) (haltedBefore_zero _) with ⟨same, _⟩
          rw [← same, failed, settled, settled]
      | @halt a' b' as' ran' stop' =>
          rcases agree 0 b b' rfl rfl (haltedBefore_zero _) (haltedBefore_zero _) with ⟨same, _⟩
          rw [← same, failed]

end Run

/-! ## Flags and outcomes -/

theorem Job.length_of_plan {j j' : Job} (same : j.plan = j'.plan) :
    j.commands.length = j'.commands.length := by
  simpa [Job.plan] using congrArg (fun plan => plan.2.length) same

theorem Stage.length_of_plan {stage stage' : Stage} (same : stage.plan = stage'.plan) :
    stage.jobs.length = stage'.jobs.length := by
  simpa [Stage.plan] using congrArg (fun plan => plan.2.length) same

namespace Pipeline

/-- Whether the node at a place is allowed to fail. -/
def allows (p : Pipeline) : Place → Bool
  | .stage i => p.stages[i]?.any Stage.allowFailure
  | .job i j => (p.job? i j).any Job.allowFailure
  | .command i j k => (p.command? i j k).any Command.allowFailure

/-- The commands that have started ended as it is fixed for their places. -/
def Follows (p : Pipeline) (outcome : Place → State) : Prop :=
  ∀ e ∈ p.placedCommands, e.2.started = true → e.2.state = outcome e.1

instance (p : Pipeline) (outcome : Place → State) : Decidable (p.Follows outcome) :=
  inferInstanceAs (Decidable (∀ e ∈ p.placedCommands, e.2.started = true → e.2.state = outcome e.1))

theorem Follows.state_eq {p : Pipeline} {outcome : Place → State} (follows : p.Follows outcome)
    {i j k : Nat} {c : Command} (found : p.command? i j k = some c) (started : c.started = true) :
    c.state = outcome (.command i j k) :=
  follows (.command i j k, c) (mem_placedCommands.2 ⟨i, j, k, rfl, found⟩) started

namespace Kept

variable {p q : Pipeline}

theorem stage? (kept : Kept p q) (i : Nat) :
    q.stages[i]?.map Stage.reset = p.stages[i]?.map Stage.reset := by
  rw [← List.getElem?_map, kept.stages, List.getElem?_map]

theorem job? (kept : Kept p q) (i j : Nat) :
    (q.job? i j).map Job.reset = (p.job? i j).map Job.reset := by
  have within : ∀ r : Pipeline, (r.job? i j).map Job.reset =
      (r.stages[i]?.map Stage.reset).bind fun stage => stage.jobs[j]? := by
    intro r
    cases found : r.stages[i]? with
    | none => simp [Pipeline.job?, found]
    | some stage => simp [Pipeline.job?, found, Stage.reset]
  rw [within, kept.stage?, ← within]

theorem command? (kept : Kept p q) (i j k : Nat) :
    (q.command? i j k).map Command.reset = (p.command? i j k).map Command.reset := by
  have within : ∀ r : Pipeline, (r.command? i j k).map Command.reset =
      ((r.job? i j).map Job.reset).bind fun job => job.commands[k]? := by
    intro r
    cases found : r.job? i j with
    | none => simp [Pipeline.command?, found]
    | some job => simp [Pipeline.command?, found, Job.reset]
  rw [within, kept.job?, ← within]

theorem allows (kept : Kept p q) (place : Place) : q.allows place = p.allows place := by
  cases place with
  | stage i =>
      have same := congrArg (Option.any Stage.allowFailure) (kept.stage? i)
      rw [Option.any_map, Option.any_map] at same
      exact same
  | job i j =>
      have same := congrArg (Option.any Job.allowFailure) (kept.job? i j)
      rw [Option.any_map, Option.any_map] at same
      exact same
  | command i j k =>
      have same := congrArg (Option.any Command.allowFailure) (kept.command? i j k)
      rw [Option.any_map, Option.any_map] at same
      exact same

theorem plans (kept : Kept p q) : q.stages.map Stage.plan = p.stages.map Stage.plan := by
  refine kept.map_stages fun stage => ?_
  simp [Stage.plan, Job.plan, Stage.reset, Job.reset, Command.reset, Function.comp_def]

end Kept

/-! ## Places in trees of one plan -/

section

variable {p p' : Pipeline} (plans : p.stages.map Stage.plan = p'.stages.map Stage.plan)

include plans

theorem exists_stage {i : Nat} {stage : Stage} (found : p.stages[i]? = some stage) :
    ∃ stage', p'.stages[i]? = some stage' ∧ stage.plan = stage'.plan := by
  have same := congrArg (·[i]?) plans
  simp only [List.getElem?_map, found, Option.map_some] at same
  rcases Option.map_eq_some_iff.1 same.symm with ⟨stage', found', plan⟩
  exact ⟨stage', found', plan.symm⟩

theorem exists_job {i j : Nat} {job : Job} (found : p.job? i j = some job) :
    ∃ job', p'.job? i j = some job' ∧ job.plan = job'.plan := by
  rcases Option.bind_eq_some_iff.1 found with ⟨stage, at_i, at_j⟩
  rcases exists_stage plans at_i with ⟨stage', at_i', plan⟩
  have same := congrArg (·[j]?) (congrArg Prod.snd plan)
  simp only [Stage.plan, List.getElem?_map, at_j, Option.map_some] at same
  rcases Option.map_eq_some_iff.1 same.symm with ⟨job', at_j', plan⟩
  exact ⟨job', by simp [job?, at_i', at_j'], plan.symm⟩

theorem exists_command {i j k : Nat} {c : Command} (found : p.command? i j k = some c) :
    ∃ c', p'.command? i j k = some c' ∧ c.action = c'.action := by
  rcases Option.bind_eq_some_iff.1 found with ⟨job, at_j, at_k⟩
  rcases exists_job plans at_j with ⟨job', at_j', plan⟩
  have same := congrArg (·[k]?) (congrArg Prod.snd plan)
  simp only [Job.plan, List.getElem?_map, at_k, Option.map_some] at same
  rcases Option.map_eq_some_iff.1 same.symm with ⟨c', at_k', action⟩
  exact ⟨c', by simp [command?, at_j', at_k'], action.symm⟩

theorem stage_plan_eq {i : Nat} {stage stage' : Stage} (found : p.stages[i]? = some stage)
    (found' : p'.stages[i]? = some stage') : stage.plan = stage'.plan := by
  rcases exists_stage plans found with ⟨_, again, plan⟩
  cases again.symm.trans found'
  exact plan

theorem job_plan_eq {i j : Nat} {job job' : Job} (found : p.job? i j = some job)
    (found' : p'.job? i j = some job') : job.plan = job'.plan := by
  rcases exists_job plans found with ⟨_, again, plan⟩
  cases again.symm.trans found'
  exact plan

theorem action_eq {i j k : Nat} {c c' : Command} (found : p.command? i j k = some c)
    (found' : p'.command? i j k = some c') : c.action = c'.action := by
  rcases exists_command plans found with ⟨_, again, action⟩
  cases again.symm.trans found'
  exact action

end

/-! ## Two runs -/

section

variable {σ τ : Type} {env : Environment σ} {env' : Environment τ} {p p' : Pipeline} {s : σ} {t : τ}
  {outcome : Place → State}

theorem plans_execute (env : Environment σ) (env' : Environment τ) (s : σ) (t : τ)
    (plans : p.stages.map Stage.plan = p'.stages.map Stage.plan) :
    (p.execute env s).1.stages.map Stage.plan = (p'.execute env' t).1.stages.map Stage.plan := by
  rw [(p.kept_execute env s).plans, (p'.kept_execute env' t).plans, plans]

theorem allows_execute (env : Environment σ) (env' : Environment τ) (s : σ) (t : τ)
    (wider : ∀ place, p.allows place = true → p'.allows place = true)
    (place : Place) (allowed : (p.execute env s).1.allows place = true) :
    (p'.execute env' t).1.allows place = true := by
  rw [(p.kept_execute env s).allows] at allowed
  rw [(p'.kept_execute env' t).allows]
  exact wider place allowed

/-- The command at a place that a run gets to ends as it is fixed for the place. -/
theorem Follows.command_after (follows : (p.execute env s).1.Follows outcome) {i j k : Nat}
    {c : Command} (found : (p.execute env s).1.command? i j k = some c)
    (reached : (p.execute env s).1.skippedCommand i j k = false) :
    c.state = outcome (.command i j k) := by
  refine follows.state_eq found ?_
  rw [started_iff_not_skipped env p s (mem_placedCommands.2 ⟨i, j, k, rfl, found⟩), skipped, reached]
  rfl

variable (plans : p.stages.map Stage.plan = p'.stages.map Stage.plan)
  (wider : ∀ place, p.allows place = true → p'.allows place = true)
  (follows : (p.execute env s).1.Follows outcome) (follows' : (p'.execute env' t).1.Follows outcome)

include plans wider follows follows'

/-- Jobs that both runs get to. -/
theorem lenient_job {i j : Nat} {job job' : Job} (found : (p.execute env s).1.job? i j = some job)
    (found' : (p'.execute env' t).1.job? i j = some job')
    (reached : (p.execute env s).1.skippedJob i j = false)
    (reached' : (p'.execute env' t).1.skippedJob i j = false) :
    job.state = job'.state ∧
      ∀ k, Run.haltedBefore job.commands k = false → Run.haltedBefore job'.commands k = false := by
  -- Both jobs have been executed, since both runs get to them.
  rcases job_after found with ⟨before, _, ⟨_, walked⟩ | ⟨closed, _⟩⟩
  case inr => cases reached.symm.trans closed
  rcases job_after found' with ⟨before', _, ⟨_, walked'⟩ | ⟨closed, _⟩⟩
  case inr => cases reached'.symm.trans closed
  have length := Job.length_of_plan (job_plan_eq (plans_execute env env' s t plans) found found')
  refine walked.commands.lenient walked'.commands Command.Executed.state_ne
    Command.Executed.state_ne length ?_
  intro k c c' at_k at_k' open_ open_'
  have here : (p.execute env s).1.command? i j k = some c := by simp [command?, found, at_k]
  have here' : (p'.execute env' t).1.command? i j k = some c' := by simp [command?, found', at_k']
  have state := follows.command_after here (by simp [skippedCommand, reached, found, open_])
  have state' := follows'.command_after here' (by simp [skippedCommand, reached', found', open_'])
  have allowed := allows_execute env env' s t wider (.command i j k)
  simp only [allows, here, here', Option.any_some] at allowed
  exact ⟨state.trans state'.symm, allowed⟩

/-- Stages that both runs get to. -/
theorem lenient_stage {i : Nat} {stage stage' : Stage}
    (found : (p.execute env s).1.stages[i]? = some stage)
    (found' : (p'.execute env' t).1.stages[i]? = some stage')
    (reached : (p.execute env s).1.skippedStage i = false)
    (reached' : (p'.execute env' t).1.skippedStage i = false) :
    stage.state = stage'.state ∧
      ∀ j, Run.haltedBefore stage.jobs j = false → Run.haltedBefore stage'.jobs j = false := by
  rcases stage_after found with ⟨before, _, ⟨_, walked⟩ | ⟨closed, _⟩⟩
  case inr => cases reached.symm.trans closed
  rcases stage_after found' with ⟨before', _, ⟨_, walked'⟩ | ⟨closed, _⟩⟩
  case inr => cases reached'.symm.trans closed
  have length := Stage.length_of_plan
    (stage_plan_eq (plans_execute env env' s t plans) found found')
  refine walked.jobs.lenient walked'.jobs Job.Walked.state_ne Job.Walked.state_ne length ?_
  intro j job job' at_j at_j' open_ open_'
  have here : (p.execute env s).1.job? i j = some job := by simp [job?, found, at_j]
  have here' : (p'.execute env' t).1.job? i j = some job' := by simp [job?, found', at_j']
  have states := lenient_job plans wider follows follows' here here'
    (by simp [skippedJob, reached, found, open_]) (by simp [skippedJob, reached', found', open_'])
  have allowed := allows_execute env env' s t wider (.job i j)
  simp only [allows, here, here', Option.any_some] at allowed
  exact ⟨states.1, allowed⟩

/-- The stages that the one run gets to are among those that the other gets to. -/
theorem lenient_root :
    ∀ i, (p.execute env s).1.skippedStage i = false → (p'.execute env' t).1.skippedStage i = false := by
  have length : (p.execute env s).1.stages.length = (p'.execute env' t).1.stages.length := by
    simpa using congrArg List.length (plans_execute env env' s t plans)
  have run := (ordered_execute env p s).lenient (ordered_execute env' p' t) Stage.Walked.state_ne
    Stage.Walked.state_ne length ?_
  · exact run.2
  · intro i stage stage' at_i at_i' open_ open_'
    have states := lenient_stage plans wider follows follows' at_i at_i' open_ open_'
    have allowed := allows_execute env env' s t wider (.stage i)
    simp only [allows, at_i, at_i', Option.any_some] at allowed
    exact ⟨states.1, allowed⟩

theorem skippedJob_lenient {i j : Nat} {job : Job} (found : (p.execute env s).1.job? i j = some job)
    (reached : (p.execute env s).1.skippedJob i j = false) :
    (p'.execute env' t).1.skippedJob i j = false := by
  rcases Option.bind_eq_some_iff.1 found with ⟨stage, at_i, at_j⟩
  rcases exists_stage (plans_execute env env' s t plans) at_i with ⟨stage', at_i', _⟩
  simp only [skippedJob, at_i, Option.any_some, Bool.or_eq_false_iff] at reached
  rcases reached with ⟨above, open_⟩
  have above' := lenient_root plans wider follows follows' i above
  have stages := lenient_stage plans wider follows follows' at_i at_i' above above'
  simp only [skippedJob, at_i', Option.any_some, above', stages.2 j open_, Bool.or_self]

theorem skippedCommand_lenient {i j k : Nat} {c : Command}
    (found : (p.execute env s).1.command? i j k = some c)
    (reached : (p.execute env s).1.skippedCommand i j k = false) :
    (p'.execute env' t).1.skippedCommand i j k = false := by
  rcases Option.bind_eq_some_iff.1 found with ⟨job, at_j, at_k⟩
  rcases exists_job (plans_execute env env' s t plans) at_j with ⟨job', at_j', _⟩
  simp only [skippedCommand, at_j, Option.any_some, Bool.or_eq_false_iff] at reached
  rcases reached with ⟨above, open_⟩
  have above' := skippedJob_lenient plans wider follows follows' at_j above
  have jobs := lenient_job plans wider follows follows' at_j at_j' above above'
  simp only [skippedCommand, at_j', Option.any_some, above', jobs.2 k open_, Bool.or_self]

/-- What the one run executes, the other executes too, to the same state. -/
theorem lenient_state {place : Place} {state : State}
    (found : (p.execute env s).1.state? place = some state) (ran : state ≠ .unstarted) :
    (p'.execute env' t).1.state? place = some state := by
  have reached : (p.execute env s).1.skipped place = false := by
    simpa using mt (unstarted_iff_skipped found).2 ran
  cases place with
  | stage i =>
      rcases Option.map_eq_some_iff.1 found with ⟨stage, at_i, rfl⟩
      rcases exists_stage (plans_execute env env' s t plans) at_i with ⟨stage', at_i', _⟩
      have reached' := lenient_root plans wider follows follows' i reached
      have stages := lenient_stage plans wider follows follows' at_i at_i' reached reached'
      simp [state?, at_i', stages.1]
  | job i j =>
      rcases Option.map_eq_some_iff.1 found with ⟨job, at_j, rfl⟩
      rcases exists_job (plans_execute env env' s t plans) at_j with ⟨job', at_j', _⟩
      have reached' := skippedJob_lenient plans wider follows follows' at_j reached
      have jobs := lenient_job plans wider follows follows' at_j at_j' reached reached'
      simp [state?, at_j', jobs.1]
  | command i j k =>
      rcases Option.map_eq_some_iff.1 found with ⟨c, at_k, rfl⟩
      rcases exists_command (plans_execute env env' s t plans) at_k with ⟨c', at_k', _⟩
      have reached' := skippedCommand_lenient plans wider follows follows' at_k reached
      have outcomes := (follows.command_after at_k reached).trans
        (follows'.command_after at_k' reached').symm
      simp [state?, at_k', outcomes]

end

/-! ## The commands in their order -/

theorem forall₂_of_getElem? {α β : Type} {R : α → β → Prop} {as : List α} {bs : List β}
    (length : as.length = bs.length)
    (each : ∀ (i : Nat) a b, as[i]? = some a → bs[i]? = some b → R a b) : List.Forall₂ R as bs := by
  refine List.forall₂_iff_get.2 ⟨length, fun i h h' => ?_⟩
  exact each i _ _ (List.getElem?_eq_getElem h) (List.getElem?_eq_getElem h')

/-- Commands of trees of one plan are related in their order when they are at each place. -/
theorem forall₂_commands {R : Command → Command → Prop} {p p' : Pipeline}
    (plans : p.stages.map Stage.plan = p'.stages.map Stage.plan)
    (each : ∀ i j k c c', p.command? i j k = some c → p'.command? i j k = some c' → R c c') :
    List.Forall₂ R p.commands p'.commands := by
  have job : ∀ i j job job', p.job? i j = some job → p'.job? i j = some job' →
      List.Forall₂ R job.commands job'.commands := by
    intro i j job job' found found'
    have length := Job.length_of_plan (job_plan_eq plans found found')
    refine forall₂_of_getElem? length fun k c c' at_k at_k' => ?_
    exact each i j k c c' (by simp [command?, found, at_k]) (by simp [command?, found', at_k'])
  have stage : ∀ (i : Nat) stage stage', p.stages[i]? = some stage → p'.stages[i]? = some stage' →
      List.Forall₂ R stage.commands stage'.commands := by
    intro i stage stage' found found'
    have length := Stage.length_of_plan (stage_plan_eq plans found found')
    have jobs : List.Forall₂ (fun job job' => List.Forall₂ R job.commands job'.commands)
        stage.jobs stage'.jobs := by
      refine forall₂_of_getElem? length fun j j₀ j₁ at_j at_j' => ?_
      exact job i j j₀ j₁ (by simp [job?, found, at_j]) (by simp [job?, found', at_j'])
    exact List.rel_flatMap jobs fun _ _ commands => commands
  have stages := forall₂_of_getElem? (by simpa using congrArg List.length plans) stage
  exact List.rel_flatMap stages fun _ _ commands => commands

end Pipeline

/-- When what has started of the one has started of the other and looks the same, what has started of
the one is found in the other, in its order. -/
theorem Command.started_sublist {β : Type} {shown : Command → β} {commands commands' : List Command}
    (grown : List.Forall₂ (fun c c' => c.started = true → c'.started = true ∧ shown c = shown c')
      commands commands') :
    ((commands.filter started).map shown).Sublist ((commands'.filter started).map shown) := by
  induction grown with
  | nil => exact .slnil
  | @cons c c' rest rest' first _ ih =>
      cases ran : c.started with
      | true =>
          rcases first ran with ⟨ran', same⟩
          rw [List.filter_cons_of_pos ran, List.filter_cons_of_pos ran', List.map_cons, List.map_cons,
            same]
          exact ih.cons_cons _
      | false =>
          rw [List.filter_cons_of_neg (by simp [ran])]
          cases ran' : c'.started with
          | true =>
              rw [List.filter_cons_of_pos ran', List.map_cons]
              exact ih.cons _
          | false => rwa [List.filter_cons_of_neg (by simp [ran'])]

/-! ## The main statement -/

/-- Two pipelines differ in their flags only, and what the one allows the other allows too.  In runs in
which the outcome of each command is fixed, every stage, job and command that the stricter one executes
is executed by the more lenient one, to the same state, and the commands in the same order. -/
theorem allowing_failures_adds_executions {σ τ : Type} (env : Environment σ) (env' : Environment τ)
    (s : σ) (t : τ) {p p' : Pipeline} {outcome : Pipeline.Place → State}
    (plans : p.stages.map Stage.plan = p'.stages.map Stage.plan)
    (wider : ∀ place, p.allows place = true → p'.allows place = true)
    (follows : (p.execute env s).1.Follows outcome)
    (follows' : (p'.execute env' t).1.Follows outcome) :
    let q := (p.execute env s).1
    let q' := (p'.execute env' t).1
    (∀ place state, q.state? place = some state → state ≠ .unstarted →
      q'.state? place = some state) ∧
    ((p.executions env s).map fun e => (e.1.action, (e.outcome env).state)).Sublist
      ((p'.executions env' t).map fun e => (e.1.action, (e.outcome env').state)) := by
  intro q q'
  have states : ∀ place state, q.state? place = some state → state ≠ .unstarted →
      q'.state? place = some state :=
    fun _ _ => Pipeline.lenient_state plans wider follows follows'
  refine ⟨states, ?_⟩
  have grown : List.Forall₂ (fun c c' : Command => c.started = true →
      c'.started = true ∧ (c.action, c.state) = (c'.action, c'.state)) q.commands q'.commands := by
    have plans := Pipeline.plans_execute env env' s t plans
    refine Pipeline.forall₂_commands plans ?_
    intro i j k c c' found found' ran
    have action := Pipeline.action_eq plans found found'
    have state := states (.command i j k) c.state (by simp [Pipeline.state?, found])
      (by simpa [Command.started, State.isUnstarted] using ran)
    simp only [Pipeline.state?, found', Option.map_some, Option.some.injEq] at state
    exact ⟨by simpa [Command.started, state] using ran, by rw [action, state]⟩
  -- The executions are the commands of the tree that have started.
  have listed := Command.started_sublist grown
  rw [← p.outcomes_eq_filter env s, ← p'.outcomes_eq_filter env' t, List.map_map, List.map_map]
    at listed
  exact listed

/-- A stage of two jobs, of which the first fails, and a stage behind it.  The failure of the stage is
allowed, that of the job where it is said so. -/
def Pipeline.failingFirst (allowed : Bool) : Pipeline :=
  { stages := [⟨"s", true, [⟨"j", allowed, [.readInto ⟨"W"⟩ "v" "a"], .unstarted⟩,
      ⟨"k", false, [.print [.reference "v"] "b"], .unstarted⟩], .unstarted⟩,
      ⟨"t", false, [⟨"l", false, [.print [] "c"], .unstarted⟩], .unstarted⟩]
    allowFailure := false
    state := .unstarted
    context := .ofDir ⟨""⟩ 0 }

theorem Pipeline.allows_failingFirst (place : Place)
    (allowed : (failingFirst false).allows place = true) : place = .stage 0 := by
  -- Behind the last index of a list there is no node.
  cases place with
  | stage i => rcases i with _ | _ | i <;> simp [allows, failingFirst] at allowed ⊢
  | job i j =>
      rcases i with _ | _ | i <;> rcases j with _ | _ | j <;>
        simp [allows, job?, failingFirst] at allowed
  | command i j k =>
      rcases i with _ | _ | i <;> rcases j with _ | _ | j <;> rcases k with _ | k <;>
        simp [allows, command?, job?, failingFirst, Command.readInto, Command.print,
          Command.ofAction] at allowed

/-- Where the failure of the first job is allowed, the second is executed too. -/
theorem allowing_failures_adds_executions_failingFirst :
    let env := Environment.keepingLines ⟨"V"⟩ "1.0"
    let strict := Pipeline.failingFirst false
    let lenient := Pipeline.failingFirst true
    let outcome : Pipeline.Place → State
      | .command 0 0 0 => .failed
      | _ => .passed
    strict.stages.map Stage.plan = lenient.stages.map Stage.plan ∧
      (∀ place, strict.allows place = true → lenient.allows place = true) ∧
      (strict.execute env []).1.Follows outcome ∧ (lenient.execute env []).1.Follows outcome ∧
      (lenient.execute env []).1.state? (.stage 0) = some .failed ∧
      (strict.execute env []).1.state? (.job 0 1) = some .unstarted ∧
      (strict.executions env []).length = 2 ∧ (lenient.executions env []).length = 3 := by
  intro env strict lenient outcome
  have plans : strict.stages.map Stage.plan = lenient.stages.map Stage.plan := rfl
  have wider : ∀ place, strict.allows place = true → lenient.allows place = true := by
    intro place allowed
    rw [Pipeline.allows_failingFirst place allowed]
    rfl
  have follows : (strict.execute env []).1.Follows outcome := by decide
  have follows' : (lenient.execute env []).1.Follows outcome := by decide
  have adds := allowing_failures_adds_executions env env [] [] plans wider follows follows'
  exact ⟨plans, wider, follows, follows', adds.1 _ _ (by decide) (by decide), by decide, by decide,
    by decide⟩

end CiPipeline
