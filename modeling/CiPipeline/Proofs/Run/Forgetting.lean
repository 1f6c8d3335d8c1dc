import CiPipeline.Proofs.Run.Flags
import CiPipeline.Proofs.Run.Lockstep
import CiPipeline.Proofs.Run.Masking

/-!
# Forgetting — what a run takes over from earlier runs

A run begins with a reset at every level of the tree.  What the reset leaves is the shape of the tree
with the identifiers of the commands, so states and results of earlier runs have no part in it; from
there on, commands that are equal go on to be equal in worlds that look the same to them.

* `Pipeline.Alike`: pipelines that differ in states, results and identifiers of commands only;
* `lockstep_view`: equal commands in worlds that look the same;
* `execute_forgets_results`: what runs of such pipelines have in common.
-/

namespace CiPipeline

/-! ## Pipelines that differ in states and results -/

namespace Pipeline

/-- Pipelines that are equal except for the states of the root and of all nodes and for the results
and the identifiers of their commands.  They may be different runs, and nothing is said of their
variables. -/
structure Alike (p p' : Pipeline) : Prop where
  stages : p.stages.map Stage.shape = p'.stages.map Stage.shape
  allowFailure : p.allowFailure = p'.allowFailure
  baseDir : p.baseDir = p'.baseDir

theorem Kept.alike {p q : Pipeline} (kept : Kept p q) : Alike p q where
  stages := (kept.map_stages Stage.shape_reset).symm
  allowFailure := kept.allowFailure.symm
  baseDir := kept.baseDir.symm

theorem Kept.ids {p q : Pipeline} (kept : Kept p q) :
    p.stages.map Stage.ids = q.stages.map Stage.ids :=
  (kept.map_stages Stage.ids_reset).symm

theorem Alike.append {p q q' : Pipeline} (alike : Alike q q') : Alike (p.append q) (p.append q') where
  stages := by simp [Pipeline.append, alike.stages]
  allowFailure := rfl
  baseDir := rfl

end Pipeline

/-! ## Runs -/

variable {σ : Type}

/-- A command does the same in worlds that look the same, and they still do so afterwards. -/
theorem lockstep_view (env : Environment σ) :
    Lockstep env (fun c c' => c = c' ∧ True) (fun world world' => view world = view world') := by
  refine Lockstep.of_equal fun c world world' _ met => ?_
  rcases Command.execute_agree env rfl met with ⟨result, met⟩
  refine ⟨?_, trivial, met⟩
  simp only [Command.execute_eq] at result ⊢
  rw [result]

/-- From the same store in the same world, pipelines that differ in states, results and identifiers
only run to the same tree, up to the identifiers if these differ, with the same status, and leave the
same store and the same world.  So it does not matter whether a pipeline was executed before, or
whether stages were before they were loaded. -/
theorem execute_forgets_results (env : Environment σ) (p : Pipeline) :
    (∀ (p' : Pipeline) (s : σ), p.Alike p' → p.store = p'.store →
      let q := (p.execute env s).1
      let q' := (p'.execute env s).1
      q.state = q'.state ∧
      (p.stages.map Stage.ids = p'.stages.map Stage.ids → q.stages = q'.stages) ∧
      (∀ mask, (q.masked mask).stages = (q'.masked mask).stages) ∧
      q.allowFailure = q'.allowFailure ∧
      Runnable.status q = Runnable.status q' ∧
      q.store = q'.store ∧ q.baseDir = q'.baseDir ∧
      (p.execute env s).2 = (p'.execute env s).2) ∧
    (∀ {τ : Type} (before : Environment τ) (worlds : List τ),
      p.Alike (p.rerun before worlds) ∧
      p.stages.map Stage.ids = (p.rerun before worlds).stages.map Stage.ids) ∧
    (∀ {τ : Type} (before : Environment τ) (loaded : Pipeline) (worlds : List τ),
      (p.append loaded).Alike (p.append (loaded.rerun before worlds)) ∧
      (p.append loaded).stages.map Stage.ids =
        (p.append (loaded.rerun before worlds)).stages.map Stage.ids) := by
  refine ⟨?_, ?_, ?_⟩
  · intro p' s alike store q q'
    have met : view (p.context, s) = view (p'.context, s) :=
      congrArg₂ (fun store dir => (store, dir, s)) store alike.baseDir
    -- Once they are cleared, the trees under a mask are equal, and so they stay.
    have masked : ∀ mask, q.state = q'.state ∧ (q.masked mask).stages = (q'.masked mask).stages ∧
        view (q.context, (p.execute env s).2) = view (q'.context, (p'.execute env s).2) := by
      intro mask
      have ran := (lockstep_view env).pipeline_eq
        (Pipeline.map_reset_masked_of_shape mask alike.stages) (fun _ _ => trivial) met
      rwa [Pipeline.execute_masked, Pipeline.execute_masked] at ran
    rcases masked "" with ⟨state, _, left⟩
    have flag : q.allowFailure = q'.allowFailure := alike.allowFailure
    simp only [view, Prod.mk.injEq] at left
    rcases left with ⟨store, dir, world⟩
    refine ⟨state, fun ids => ?_, fun mask => (masked mask).2.1, flag,
      Runnable.status_congr state flag, store, dir, world⟩
    have cleared := (map_reset_eq_iff _ _).2 ⟨alike.stages, ids⟩
    exact ((lockstep_view env).pipeline_eq cleared (fun _ _ => trivial) met).2.1
  · intro τ before worlds
    have kept := p.kept_rerun before worlds
    exact ⟨kept.alike, kept.ids⟩
  · intro τ before loaded worlds
    have kept := loaded.kept_rerun before worlds
    refine ⟨.append kept.alike, ?_⟩
    simp only [Pipeline.append, List.map_append, kept.ids]

/-- Where the first file can be read, it is read again, whatever failed before. -/
theorem execute_forgets_results_failingToRead :
    let env := Environment.keepingLines ⟨"V"⟩ "1.0"
    let fresh := Pipeline.failingToRead true
    let failed := fresh.rerun (Environment.keepingLines ⟨"X"⟩ "") [[]]
    fresh.state = .unstarted ∧ failed.state = .failed ∧ fresh.stages ≠ failed.stages ∧
      fresh.Alike failed ∧ fresh.store = failed.store ∧
      (failed.execute env []).1.stages = (fresh.execute env []).1.stages ∧
      (failed.execute env []).2 = ["1.0"] := by
  intro env fresh failed
  rcases execute_forgets_results env fresh with ⟨same, executed, _⟩
  have ⟨alike, ids⟩ : fresh.Alike failed ∧ fresh.stages.map Stage.ids = failed.stages.map Stage.ids :=
    executed (Environment.keepingLines ⟨"X"⟩ "") [[]]
  have store : fresh.store = failed.store := by decide
  rcases same failed [] alike store with ⟨_, stages, _, _, _, _, _, world⟩
  refine ⟨rfl, by decide, by decide, alike, store, (stages ids).symm, ?_⟩
  rw [← world]
  decide

end CiPipeline
