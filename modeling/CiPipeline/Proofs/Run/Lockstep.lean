import Mathlib.Data.List.Forall2
import CiPipeline.Proofs.Run.Place
import CiPipeline.Proofs.Run.Walk

/-!
# Lockstep — two runs side by side

Two runs over trees of the same form go side by side as long as the commands that they come to agree
in their states: then both stop at the same places.  What else the commands agree in, and what their
worlds have in common, is left open; it has to be kept by one execution, and is then kept by a whole
run.

* `Job.Agree`, `Stage.Agree`: nodes that agree, down to commands in a given relation;
* `Run.lockstep`: children that agree, in worlds that are related, run to the same end;
* `Lockstep`: what an execution has to keep;
* `Lockstep.job`, `Lockstep.stage`, `Lockstep.pipeline`: what a run then keeps;
* `Lockstep.of_equal`, `Lockstep.pipeline_eq`: the same for commands that are equal.
-/

namespace CiPipeline

/-! ## Trees that agree -/

section

variable (R : Command → Command → Prop)

/-- The jobs are the same but for commands that are related in their order. -/
structure Job.Agree (j j' : Job) : Prop where
  name : j.name = j'.name
  allowFailure : j.allowFailure = j'.allowFailure
  state : j.state = j'.state
  commands : List.Forall₂ R j.commands j'.commands

structure Stage.Agree (stage stage' : Stage) : Prop where
  name : stage.name = stage'.name
  allowFailure : stage.allowFailure = stage'.allowFailure
  state : stage.state = stage'.state
  jobs : List.Forall₂ (Job.Agree R) stage.jobs stage'.jobs

end

variable {R : Command → Command → Prop}

theorem Job.Agree.refl {j : Job} (each : ∀ c ∈ j.commands, R c c) : Job.Agree R j j :=
  ⟨rfl, rfl, rfl, List.forall₂_same.2 each⟩

theorem Stage.Agree.refl {stage : Stage} (each : ∀ c ∈ stage.commands, R c c) :
    Stage.Agree R stage stage := by
  refine ⟨rfl, rfl, rfl, List.forall₂_same.2 ?_⟩
  intro j mem
  refine Job.Agree.refl fun c there => each c ?_
  exact List.mem_flatMap.2 ⟨j, mem, there⟩

theorem Job.Agree.imp {S : Command → Command → Prop} (weaker : ∀ c c', R c c' → S c c') (j j' : Job)
    (agree : Job.Agree R j j') : Job.Agree S j j' :=
  ⟨agree.name, agree.allowFailure, agree.state, agree.commands.imp weaker⟩

theorem Stage.Agree.imp {S : Command → Command → Prop} (weaker : ∀ c c', R c c' → S c c')
    (stage stage' : Stage) (agree : Stage.Agree R stage stage') : Stage.Agree S stage stage' :=
  ⟨agree.name, agree.allowFailure, agree.state, agree.jobs.imp (Job.Agree.imp weaker)⟩

/-- Lists whose items are pairwise equal are equal. -/
theorem eq_of_forall₂ {α : Type} {R : α → α → Prop} (same : ∀ a a', R a a' → a = a')
    {as as' : List α} (agree : List.Forall₂ R as as') : as = as' := by
  have equal := agree.imp same
  rwa [List.forall₂_eq_eq_eq] at equal

theorem Job.Agree.eq (same : ∀ c c', R c c' → c = c') (j j' : Job) (agree : Job.Agree R j j') :
    j = j' := by
  rcases j with ⟨name, allowFailure, commands, state⟩
  rcases j' with ⟨name', allowFailure', commands', state'⟩
  rcases agree with ⟨rfl, rfl, rfl, agree⟩
  exact congrArg (Job.mk name allowFailure · state) (eq_of_forall₂ same agree)

theorem Stage.Agree.eq (same : ∀ c c', R c c' → c = c') (stage stage' : Stage)
    (agree : Stage.Agree R stage stage') : stage = stage' := by
  rcases stage with ⟨name, allowFailure, jobs, state⟩
  rcases stage' with ⟨name', allowFailure', jobs', state'⟩
  rcases agree with ⟨rfl, rfl, rfl, agree⟩
  exact congrArg (Stage.mk name allowFailure · state) (eq_of_forall₂ (Job.Agree.eq same) agree)

/-- The commands of trees that agree are related in the order of the tree. -/
theorem Pipeline.commands_of_agree {p p' : Pipeline}
    (agree : List.Forall₂ (Stage.Agree R) p.stages p'.stages) :
    List.Forall₂ R p.commands p'.commands :=
  List.rel_flatMap agree fun _ _ stage => List.rel_flatMap stage.jobs fun _ _ job => job.commands

/-- What holds of cleared commands makes a cleared tree agree with itself. -/
theorem Pipeline.agree_reset {p : Pipeline} (each : ∀ c ∈ p.commands, R c.reset c.reset) :
    List.Forall₂ (Stage.Agree R) (p.stages.map Stage.reset) (p.stages.map Stage.reset) := by
  refine List.forall₂_same.2 fun cleared mem => Stage.Agree.refl fun c there => ?_
  -- A command of the cleared tree is a command of the tree that was cleared.
  rcases List.mem_map.1 mem with ⟨stage, inside, rfl⟩
  rcases List.mem_flatMap.1 there with ⟨_, job, within⟩
  rcases List.mem_map.1 job with ⟨j, stood, rfl⟩
  rcases List.mem_map.1 within with ⟨before, held, rfl⟩
  have below : before ∈ stage.commands := List.mem_flatMap.2 ⟨j, stood, held⟩
  exact each before (List.mem_flatMap.2 ⟨stage, inside, below⟩)

/-! ## Children side by side -/

theorem Runnable.status_congr {α : Type} [Runnable α] {a a' : α}
    (state : Runnable.state a = Runnable.state a')
    (allowFailure : Runnable.allowFailure a = Runnable.allowFailure a') :
    Runnable.status a = Runnable.status a' := by
  rw [status, status, state, allowFailure]

/-- At each child both runs see the same status, so they stop at the same child. -/
theorem Run.lockstep {α C : Type} [Runnable α] {Agree : α → α → Prop} {Met : C → C → Prop}
    {step : α → C → α × C}
    (state : ∀ a a', Agree a a' → Runnable.state a = Runnable.state a')
    (allowFailure : ∀ a a', Agree a a' → Runnable.allowFailure a = Runnable.allowFailure a')
    (keeps : ∀ a a' c c', Agree a a' → Met c c' →
      Agree (step a c).1 (step a' c').1 ∧ Met (step a c).2 (step a' c').2)
    {children children' : List α} (agree : List.Forall₂ Agree children children') {c c' : C}
    (met : Met c c') :
    (inOrder step children c).1 = (inOrder step children' c').1 ∧
      List.Forall₂ Agree (inOrder step children c).2.1 (inOrder step children' c').2.1 ∧
      Met (inOrder step children c).2.2 (inOrder step children' c').2.2 := by
  -- The worlds move on with each child, so the induction is for all of them.
  induction agree generalizing c c' with
  | nil => exact ⟨rfl, .nil, met⟩
  | @cons a a' as as' first rest ih =>
      rcases keeps a a' c c' first met with ⟨agree, met⟩
      have sameState := state _ _ agree
      have sameStatus := Runnable.status_congr sameState (allowFailure _ _ agree)
      cases status : Runnable.status (step a c).1 with
      | true =>
          rcases ih met with ⟨verdict, agrees, met⟩
          rw [inOrder_cons_next status, inOrder_cons_next (sameStatus.symm.trans status), sameState,
            verdict]
          exact ⟨rfl, .cons agree agrees, met⟩
      | false =>
          rw [inOrder_cons_halt status, inOrder_cons_halt (sameStatus.symm.trans status), sameState]
          exact ⟨rfl, .cons agree rest, met⟩

/-! ## Whole runs side by side -/

/-- The command starts no process. -/
def Command.Tame (c : Command) : Prop :=
  ∀ script program args, c.action ≠ .run script program args

variable {σ : Type} {env : Environment σ}

/-- Commands that are related have the same state and flag, and executions of them in worlds that are
related end in such commands and worlds again. -/
structure Lockstep (env : Environment σ) (R : Command → Command → Prop)
    (Met : Context × σ → Context × σ → Prop) : Prop where
  state : ∀ c c', R c c' → c.state = c'.state
  allowFailure : ∀ c c', R c c' → c.allowFailure = c'.allowFailure
  execute : ∀ c c' world world', R c c' → Met world world' →
    R (Command.execute env c world).1 (Command.execute env c' world').1 ∧
      Met (Command.execute env c world).2 (Command.execute env c' world').2

namespace Lockstep

variable {Met : Context × σ → Context × σ → Prop}

theorem job (keeps : Lockstep env R Met) (j j' : Job) (world world' : Context × σ)
    (agree : Job.Agree R j j') (met : Met world world') :
    Job.Agree R (j.execute env world).1 (j'.execute env world').1 ∧
      Met (j.execute env world).2 (j'.execute env world').2 := by
  rcases Run.lockstep keeps.state keeps.allowFailure keeps.execute agree.commands met with
    ⟨state, commands, met⟩
  exact ⟨⟨agree.name, agree.allowFailure, state, commands⟩, met⟩

theorem stage (keeps : Lockstep env R Met) (stage stage' : Stage) (world world' : Context × σ)
    (agree : Stage.Agree R stage stage') (met : Met world world') :
    Stage.Agree R (stage.execute env world).1 (stage'.execute env world').1 ∧
      Met (stage.execute env world).2 (stage'.execute env world').2 := by
  rcases Run.lockstep (fun _ _ job => job.state) (fun _ _ job => job.allowFailure) keeps.job
    agree.jobs met with ⟨state, jobs, met⟩
  exact ⟨⟨agree.name, agree.allowFailure, state, jobs⟩, met⟩

/-- Pipelines that agree once they are cleared run to the same state, and agree afterwards. -/
theorem pipeline (keeps : Lockstep env R Met) {p p' : Pipeline} {s s' : σ}
    (agree : List.Forall₂ (Stage.Agree R) (p.stages.map Stage.reset) (p'.stages.map Stage.reset))
    (met : Met (p.context, s) (p'.context, s')) :
    (p.execute env s).1.state = (p'.execute env s').1.state ∧
      List.Forall₂ (Stage.Agree R) (p.execute env s).1.stages (p'.execute env s').1.stages ∧
      Met ((p.execute env s).1.context, (p.execute env s).2)
        ((p'.execute env s').1.context, (p'.execute env s').2) :=
  Run.lockstep (fun _ _ stage => stage.state) (fun _ _ stage => stage.allowFailure) keeps.stage
    agree met

/-! ## Equal commands -/

variable {Q : Command → Prop}

/-- Commands that are equal only have to stay equal, and to keep what is known of them. -/
theorem of_equal
    (keeps : ∀ c world world', Q c → Met world world' →
      (Command.execute env c world).1 = (Command.execute env c world').1 ∧
        Q (Command.execute env c world).1 ∧
        Met (Command.execute env c world).2 (Command.execute env c world').2) :
    Lockstep env (fun c c' => c = c' ∧ Q c) Met where
  state := by
    rintro c _ ⟨rfl, _⟩
    rfl
  allowFailure := by
    rintro c _ ⟨rfl, _⟩
    rfl
  execute := by
    rintro c _ world world' ⟨rfl, known⟩ met
    rcases keeps c world world' known met with ⟨same, known, met⟩
    exact ⟨⟨same, known⟩, met⟩

/-- Pipelines that are equal once they are cleared run to the same state and to equal trees. -/
theorem pipeline_eq (keeps : Lockstep env (fun c c' => c = c' ∧ Q c) Met) {p p' : Pipeline}
    {s s' : σ} (same : p.stages.map Stage.reset = p'.stages.map Stage.reset)
    (known : ∀ c ∈ p.commands, Q c.reset) (met : Met (p.context, s) (p'.context, s')) :
    (p.execute env s).1.state = (p'.execute env s').1.state ∧
      (p.execute env s).1.stages = (p'.execute env s').1.stages ∧
      Met ((p.execute env s).1.context, (p.execute env s).2)
        ((p'.execute env s').1.context, (p'.execute env s').2) := by
  have agree : List.Forall₂ (Stage.Agree fun c c' => c = c' ∧ Q c)
      (p.stages.map Stage.reset) (p'.stages.map Stage.reset) := by
    rw [← same]
    exact Pipeline.agree_reset fun c mem => ⟨rfl, known c mem⟩
  rcases keeps.pipeline agree met with ⟨state, stages, left⟩
  exact ⟨state, eq_of_forall₂ (Stage.Agree.eq fun _ _ => And.left) stages, left⟩

end Lockstep
end CiPipeline
