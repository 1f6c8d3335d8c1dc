import CiPipeline.Proofs.Run.Binding
import CiPipeline.Proofs.Run.Flags
import CiPipeline.Proofs.Run.Frame
import CiPipeline.Proofs.Run.Lockstep
import CiPipeline.Proofs.Run.Lookup
import CiPipeline.Proofs.Store.Extension

/-!
# Repetition — running again and again

Without processes, what becomes of a command is decided by the files, and by the store only as far as
its line goes.  As long as the files stay the same, all runs therefore read the same and come to the
same end.  They write the same into the store, so that it stays as the first run left it; from then on
the lines are the same too.

* `Environment.SameFiles`, `Environment.Steady`: worlds that differ in other things than files, and
  printing that leaves the files alone;
* `Command.SameVerdict`: commands that differ in their lines at most;
* `Pipeline.sameVerdicts_execute`: runs from any stores;
* `Pipeline.store_rerun`: the store after any number of runs;
* `rerun_stabilises`: what all runs have in common, and what all but the first.
-/

namespace CiPipeline

variable {σ : Type} {env : Environment σ}

/-! ## Files that stay the same -/

namespace Environment

/-- Every path is found in both worlds or in none, and leads to the same text. -/
def SameFiles (env : Environment σ) (s s' : σ) : Prop :=
  ∀ path, env.present path s = env.present path s' ∧ env.readText path s = env.readText path s'

/-- Every line can be printed, and no file changes by it. -/
structure Steady (env : Environment σ) : Prop where
  writable : ∀ line s, (env.printLine line s).1 = .ok ()
  files : ∀ line s, env.SameFiles s (env.printLine line s).2

namespace SameFiles

variable {s t u : σ}

theorem refl (env : Environment σ) (s : σ) : env.SameFiles s s := fun _ => ⟨rfl, rfl⟩

theorem symm (one : env.SameFiles s t) : env.SameFiles t s :=
  fun path => ⟨(one path).1.symm, (one path).2.symm⟩

theorem trans (one : env.SameFiles s t) (other : env.SameFiles t u) : env.SameFiles s u :=
  fun path => ⟨(one path).1.trans (other path).1, (one path).2.trans (other path).2⟩

theorem reading (same : env.SameFiles s t) (path : Path) :
    Command.reading env path s = Command.reading env path t := by
  simp only [Command.reading, (same path).1, (same path).2]

end SameFiles

/-- Printing any number of lines changes no file. -/
theorem Steady.lines (steady : env.Steady) (lines : List String) (s : σ) :
    env.SameFiles s (lines.foldl (fun s line => (env.printLine line s).2) s) := by
  induction lines generalizing s with
  | nil => exact .refl env s
  | cons line rest ih => exact (steady.files line s).trans (ih _)

end Environment

/-! ## One execution -/

namespace Command

/-- What a command comes to that starts no process, where every line can be printed. -/
def due (env : Environment σ) (action : Action) (world : Context × σ) : CommandResult :=
  match action with
  | .run .. => .unstarted
  | .file .write _ _ => .ofError (.unsupportedOperation .write)
  | .file .read path _ => reading env (world.1.baseDir.join path) world.2
  | .print params => .ofOutput (printedLine params world.1.store)

theorem execute_tame (steady : env.Steady) {c : Command} (tame : c.Tame) (world : Context × σ) :
    (execute env c world).1.result = due env c.action world ∧
      env.SameFiles world.2 (execute env c world).2.2 := by
  cases action : c.action with
  | run script program args => exact absurd action (tame script program args)
  | print params =>
      rcases execute_print steady.writable action world with ⟨result, left⟩
      rw [left]
      exact ⟨result, steady.files _ _⟩
  | file operation path variableName =>
      have still : (execute env c world).2.2 = world.2 := by simp [execute_eq, action, dispatch]
      rw [still]
      refine ⟨?_, .refl env _⟩
      cases operation with
      | write =>
          rw [execute_eq, action]
          rfl
      | read => exact result_execute_read env action world

/-- Only the line depends on the store. -/
theorem due_agree (action : Action) {world world' : Context × σ}
    (dir : world.1.baseDir = world'.1.baseDir) (files : env.SameFiles world.2 world'.2) :
    (due env action world).code = (due env action world').code ∧
      (due env action world).data = (due env action world').data ∧
      (due env action world).error = (due env action world').error ∧
      (world.1.store = world'.1.store → due env action world = due env action world') := by
  cases action with
  | run script program args => exact ⟨rfl, rfl, rfl, fun _ => rfl⟩
  | print params =>
      refine ⟨rfl, rfl, rfl, fun store => ?_⟩
      simp only [due, store]
  | file operation path variableName =>
      cases operation with
      | write => exact ⟨rfl, rfl, rfl, fun _ => rfl⟩
      | read =>
          have same : due env (.file .read path variableName) world =
              due env (.file .read path variableName) world' := by
            simp only [due, dir, files.reading (world'.1.baseDir.join path)]
          rw [same]
          exact ⟨rfl, rfl, rfl, fun _ => rfl⟩

/-- Commands that are the same but for the line that they left. -/
structure SameVerdict (c c' : Command) : Prop where
  action : c.action = c'.action
  allowFailure : c.allowFailure = c'.allowFailure
  state : c.state = c'.state
  code : c.result.code = c'.result.code
  data : c.result.data = c'.result.data
  error : c.result.error = c'.result.error

theorem SameVerdict.refl (c : Command) : SameVerdict c c := ⟨rfl, rfl, rfl, rfl, rfl, rfl⟩

theorem SameVerdict.leaves {c c' : Command} (same : SameVerdict c c') : c.leaves = c'.leaves := by
  funext store
  simp only [Command.leaves, same.action, same.state, same.data]

end Command

/-- Where the files are the same, commands come to the same verdict, whatever the store holds. -/
theorem lockstep_sameVerdict (steady : env.Steady) :
    Lockstep env (fun c c' => c.SameVerdict c' ∧ c.Tame)
      (fun world world' =>
        world.1.baseDir = world'.1.baseDir ∧ env.SameFiles world.2 world'.2) where
  state := fun _ _ agree => agree.1.state
  allowFailure := fun _ _ agree => agree.1.allowFailure
  execute := by
    rintro c c' world world' ⟨same, tame⟩ ⟨dir, files⟩
    have tame' : c'.Tame := by
      rw [Command.Tame, ← same.action]
      exact tame
    rcases Command.execute_tame steady tame world with ⟨result, kept⟩
    rcases Command.execute_tame steady tame' world' with ⟨result', kept'⟩
    rcases Command.due_agree c'.action dir files with ⟨code, data, error, _⟩
    rw [same.action] at result
    rw [← result, ← result'] at code data error
    have state : Command.stateOf (Command.execute env c world).1.result =
        Command.stateOf (Command.execute env c' world').1.result := by
      rw [Command.stateOf, code]
      rfl
    refine ⟨⟨⟨same.action, same.allowFailure, state, code, data, error⟩, tame⟩, ?_,
      (kept.symm.trans files).trans kept'⟩
    rw [Command.execute_baseDir, Command.execute_baseDir, dir]

/-- Where the store is the same too, so are the lines. -/
theorem lockstep_eq (steady : env.Steady) :
    Lockstep env (fun c c' => c = c' ∧ c.Tame)
      (fun world world' => world.1 = world'.1 ∧ env.SameFiles world.2 world'.2) := by
  refine Lockstep.of_equal fun c world world' tame met => ?_
  rcases met with ⟨context, files⟩
  rcases Command.execute_tame steady tame world with ⟨result, kept⟩
  rcases Command.execute_tame steady tame world' with ⟨result', kept'⟩
  -- The store is part of the context, so the lines are the same as well.
  rcases Command.due_agree c.action (congrArg Context.baseDir context) files with ⟨_, _, _, same⟩
  have results := same (congrArg Context.store context)
  rw [← result, ← result'] at results
  have after : (Command.execute env c world).1 = (Command.execute env c world').1 := by
    simp only [Command.execute_eq] at results ⊢
    rw [results]
  refine ⟨after, tame, ?_, (kept.symm.trans files).trans kept'⟩
  rw [Command.context_execute, Command.context_execute, after, context]

/-! ## The store of all runs -/

theorem valueAfter_valueAfter (kind : Action → Bool) (commands : List Command)
    (before : Option Value) :
    valueAfter kind commands (valueAfter kind commands before) = valueAfter kind commands before := by
  unfold valueAfter
  cases lastPassed kind commands with
  | none => rfl
  | some c => rfl

/-- What commands leave in a store they do not change by leaving it again. -/
theorem foldl_leaves_again {commands : List Command} (delivered : ∀ c ∈ commands, c.Delivered)
    (store : Store) :
    commands.foldl (fun store c => c.leaves store)
        (commands.foldl (fun store c => c.leaves store) store) =
      commands.foldl (fun store c => c.leaves store) store := by
  refine Store.ext fun name => ?_
  rw [get?_foldl_leaves delivered, get?_foldl_leaves delivered, valueAfter_valueAfter]

theorem foldl_leaves_congr {commands commands' : List Command}
    (same : List.Forall₂ Command.SameVerdict commands commands') (store : Store) :
    commands.foldl (fun store c => c.leaves store) store =
      commands'.foldl (fun store c => c.leaves store) store := by
  induction same generalizing store with
  | nil => rfl
  | cons first _ ih => rw [List.foldl_cons, List.foldl_cons, first.leaves, ih]

namespace Pipeline

theorem store_execute (env : Environment σ) (p : Pipeline) (s : σ) :
    (p.execute env s).1.store =
      (p.execute env s).1.commands.foldl (fun store c => c.leaves store) p.store :=
  congrArg Context.store (p.context_execute env s)

theorem rerun_concat (env : Environment σ) (p : Pipeline) (worlds : List σ) (s : σ) :
    p.rerun env (worlds ++ [s]) = ((p.rerun env worlds).execute env s).1 := by
  simp [rerun]

section

variable {p q q' : Pipeline} {s s' : σ}

theorem Kept.tame (kept : Kept p q) (tame : ∀ c ∈ p.commands, c.Tame) : ∀ c ∈ q.commands, c.Tame := by
  -- Both pipelines have the same commands once they are cleared.
  have cleared : q.commands.map Command.reset = p.commands.map Command.reset := by
    rw [← commands_reset, kept.stages, commands_reset]
  intro c mem
  have same : c.reset ∈ p.commands.map Command.reset := cleared ▸ List.mem_map_of_mem mem
  rcases List.mem_map.1 same with ⟨c', there, equal⟩
  have action : c'.reset.action = c.reset.action := congrArg Command.action equal
  intro script program args
  exact action ▸ tame c' there script program args

/-- Runs of what is kept of one pipeline come to the same verdicts. -/
theorem sameVerdicts_execute (steady : env.Steady) (tame : ∀ c ∈ p.commands, c.Tame)
    (kept : Kept p q) (kept' : Kept p q') (files : env.SameFiles s s') :
    (q.execute env s).1.state = (q'.execute env s').1.state ∧
      List.Forall₂ (Stage.Agree Command.SameVerdict) (q.execute env s).1.stages
        (q'.execute env s').1.stages ∧
      env.SameFiles (q.execute env s).2 (q'.execute env s').2 := by
  have agree : List.Forall₂ (Stage.Agree fun c c' => c.SameVerdict c' ∧ c.Tame)
      (q.stages.map Stage.reset) (q'.stages.map Stage.reset) := by
    rw [kept.stages, kept'.stages]
    exact agree_reset fun c mem => ⟨.refl _, tame c mem⟩
  have dir : q.baseDir = q'.baseDir := kept.baseDir.trans kept'.baseDir.symm
  rcases (lockstep_sameVerdict steady).pipeline agree ⟨dir, files⟩ with ⟨state, stages, _, left⟩
  exact ⟨state, stages.imp (Stage.Agree.imp fun _ _ => And.left), left⟩

/-- Without processes, a run leaves the files as they are. -/
theorem sameFiles_execute (steady : env.Steady) (tame : ∀ c ∈ p.commands, c.Tame) (s : σ) :
    env.SameFiles s (p.execute env s).2 := by
  rw [p.world_of_no_processes s steady.writable tame]
  exact steady.lines _ s

/-- However many runs there were, the store is the one that a single run leaves. -/
theorem store_rerun (steady : env.Steady) (tame : ∀ c ∈ p.commands, c.Tame) {worlds : List σ}
    (files : ∀ t ∈ worlds, env.SameFiles s t) (some : worlds ≠ []) :
    (p.rerun env worlds).store = (p.execute env s).1.store := by
  induction worlds using List.reverseRecOn with
  | nil => exact absurd rfl some
  | append_singleton worlds t ih =>
      rcases sameVerdicts_execute steady tame (p.kept_rerun env worlds) (.refl p)
        (files t (by simp)).symm with ⟨_, stages, _⟩
      have leaves := foldl_leaves_congr (commands_of_agree stages)
      have delivered : ∀ c ∈ (p.execute env s).1.commands, c.Delivered :=
        fun c mem => p.delivered_of_mem env s mem
      rw [rerun_concat, store_execute, leaves]
      rcases Decidable.em (worlds = []) with rfl | more
      · exact (store_execute env p s).symm
      · -- The earlier runs left what this one leaves again.
        rw [ih (fun u mem => files u (List.mem_append_left _ mem)) more, store_execute,
          foldl_leaves_again delivered]

/-- Runs that begin with the same store end alike. -/
theorem execute_eq_of_store (steady : env.Steady) (tame : ∀ c ∈ p.commands, c.Tame)
    (kept : Kept p q) (kept' : Kept p q') (store : q.store = q'.store)
    (files : env.SameFiles s s') : (q.execute env s).1 = (q'.execute env s').1 := by
  have cleared : q.stages.map Stage.reset = q'.stages.map Stage.reset :=
    kept.stages.trans kept'.stages.symm
  have context : q.context = q'.context := by
    calc
      q.context = ⟨q.store, q.baseDir, q.context.runId⟩ := rfl
      _ = ⟨q'.store, q'.baseDir, q'.context.runId⟩ := by
            rw [store, kept.baseDir, kept'.baseDir, kept.runId, kept'.runId]
  rcases (lockstep_eq steady).pipeline_eq cleared (kept.tame tame) ⟨context, files⟩ with
    ⟨state, stages, left, _⟩
  have after : (q.execute env s).1.context = (q'.execute env s').1.context := left
  have flag : q.allowFailure = q'.allowFailure := kept.allowFailure.trans kept'.allowFailure.symm
  calc
    (q.execute env s).1
        = ⟨(q.execute env s).1.stages, q.allowFailure, (q.execute env s).1.state,
            (q.execute env s).1.context⟩ := rfl
    _ = ⟨(q'.execute env s').1.stages, q'.allowFailure, (q'.execute env s').1.state,
          (q'.execute env s').1.context⟩ := by rw [stages, flag, state, after]

/-! ## Any number of runs -/

variable {worlds worlds' : List σ}

theorem sameVerdicts_rerun (steady : env.Steady) (tame : ∀ c ∈ p.commands, c.Tame)
    (files : ∀ t ∈ worlds, env.SameFiles s t) (files' : ∀ t ∈ worlds', env.SameFiles s t)
    (some : worlds ≠ []) (some' : worlds' ≠ []) :
    (p.rerun env worlds).state = (p.rerun env worlds').state ∧
      List.Forall₂ (Stage.Agree Command.SameVerdict) (p.rerun env worlds).stages
        (p.rerun env worlds').stages := by
  -- What counts is the last run of each side.
  rcases (List.eq_nil_or_concat' worlds).resolve_left some with ⟨front, t, rfl⟩
  rcases (List.eq_nil_or_concat' worlds').resolve_left some' with ⟨front', t', rfl⟩
  have last : env.SameFiles t t' := (files t (by simp)).symm.trans (files' t' (by simp))
  rcases sameVerdicts_execute steady tame (p.kept_rerun env front) (p.kept_rerun env front') last
    with ⟨state, stages, _⟩
  rw [rerun_concat, rerun_concat]
  exact ⟨state, stages⟩

theorem rerun_eq (steady : env.Steady) (tame : ∀ c ∈ p.commands, c.Tame)
    (files : ∀ t ∈ worlds, env.SameFiles s t) (files' : ∀ t ∈ worlds', env.SameFiles s t)
    (more : 2 ≤ worlds.length) (more' : 2 ≤ worlds'.length) :
    p.rerun env worlds = p.rerun env worlds' := by
  have some : worlds ≠ [] := List.ne_nil_of_length_pos (by omega)
  have some' : worlds' ≠ [] := List.ne_nil_of_length_pos (by omega)
  rcases (List.eq_nil_or_concat' worlds).resolve_left some with ⟨front, t, rfl⟩
  rcases (List.eq_nil_or_concat' worlds').resolve_left some' with ⟨front', t', rfl⟩
  -- Before the last run there was another one, which left the store that the last one meets.
  have earlier : front ≠ [] := by
    rintro rfl
    simp at more
  have earlier' : front' ≠ [] := by
    rintro rfl
    simp at more'
  have store := store_rerun steady tame (fun u mem => files u (List.mem_append_left _ mem)) earlier
  have store' := store_rerun steady tame (fun u mem => files' u (List.mem_append_left _ mem)) earlier'
  have last : env.SameFiles t t' := (files t (by simp)).symm.trans (files' t' (by simp))
  rw [rerun_concat, rerun_concat]
  exact execute_eq_of_store steady tame (p.kept_rerun env front) (p.kept_rerun env front')
    (store.trans store'.symm) last

end
end Pipeline

/-- In worlds where the files are the same, a pipeline without processes comes to the same verdicts in
every run and leaves the same store; from the second run on, the tree is the same in everything, lines
included.  A run leaves the files as they are, so that each run may well begin in the world that the
one before it left. -/
theorem rerun_stabilises (env : Environment σ) (steady : env.Steady) (p : Pipeline)
    (tame : ∀ c ∈ p.commands, c.Tame) (s : σ) (worlds worlds' : List σ)
    (files : ∀ t ∈ worlds, env.SameFiles s t) (files' : ∀ t ∈ worlds', env.SameFiles s t) :
    (worlds ≠ [] → worlds' ≠ [] →
      let q := p.rerun env worlds
      let q' := p.rerun env worlds'
      q.state = q'.state ∧
      List.Forall₂ (Stage.Agree Command.SameVerdict) q.stages q'.stages ∧
      Runnable.status q = Runnable.status q' ∧ q.store = q'.store) ∧
    (2 ≤ worlds.length → 2 ≤ worlds'.length → p.rerun env worlds = p.rerun env worlds') ∧
    (∀ t, env.SameFiles s t → env.SameFiles s ((p.rerun env worlds).execute env t).2) := by
  refine ⟨?_, ?_, ?_⟩
  · intro some some' q q'
    rcases Pipeline.sameVerdicts_rerun steady tame files files' some some' with ⟨state, stages⟩
    have flag : q.allowFailure = q'.allowFailure :=
      (p.kept_rerun env worlds).allowFailure.trans (p.kept_rerun env worlds').allowFailure.symm
    have store := Pipeline.store_rerun steady tame files some
    have store' := Pipeline.store_rerun steady tame files' some'
    exact ⟨state, stages, Runnable.status_congr state flag, store.trans store'.symm⟩
  · exact Pipeline.rerun_eq steady tame files files'
  · intro t same
    have still := (p.kept_rerun env worlds).tame tame
    exact same.trans (Pipeline.sameFiles_execute steady still t)

/-- A pipeline that prints a variable, reads it from a file, fails to read it again and prints it once
more. -/
def Pipeline.printingEarly : Pipeline :=
  { stages := [⟨"s", false, [⟨"j", false,
      [.print [.reference "v"] "a", .readInto ⟨"V"⟩ "v" "b",
        (Command.readInto ⟨"W"⟩ "v" "c").withAllowFailure true, .print [.reference "v"] "d"],
      .unstarted⟩], .unstarted⟩]
    allowFailure := false
    state := .unstarted
    context := .ofDir ⟨""⟩ 0 }

theorem Environment.steady_keepingLines (file : Path) (text : String) :
    (keepingLines file text).Steady := ⟨fun _ _ => rfl, fun _ _ _ => ⟨rfl, rfl⟩⟩

/-- The line in front of the read is empty in the first run and the contents of the file in the second
one; then nothing changes any more. -/
theorem rerun_stabilises_printingEarly :
    let env := Environment.keepingLines ⟨"V"⟩ "1.0"
    let p := Pipeline.printingEarly
    let outputs := fun q : Pipeline => q.commands.map fun c => c.result.output
    env.Steady ∧ (∀ c ∈ p.commands, c.Tame) ∧
      outputs (p.rerun env [[]]) = [some "", none, none, some "1.0"] ∧
      outputs (p.rerun env [[], ["", "1.0"]]) = [some "1.0", none, none, some "1.0"] ∧
      p.rerun env [[], ["", "1.0"], []] = p.rerun env [[], ["", "1.0"]] ∧
      (p.rerun env [[], ["", "1.0"]]).store = (p.rerun env [[]]).store := by
  intro env p outputs
  have steady : env.Steady := Environment.steady_keepingLines ⟨"V"⟩ "1.0"
  have tame : ∀ c ∈ p.commands, c.Tame := by
    simp [p, Pipeline.printingEarly, Pipeline.commands, Stage.commands, Command.readInto,
      Command.print, Command.ofAction, Command.withAllowFailure, Command.Tame]
  have files : ∀ worlds : List (List String), ∀ t ∈ worlds, env.SameFiles [] t :=
    fun _ _ _ _ => ⟨rfl, rfl⟩
  have thrice := rerun_stabilises env steady p tame [] [[], ["", "1.0"], []] [[], ["", "1.0"]]
    (files _) (files _)
  have twice := rerun_stabilises env steady p tame [] [[], ["", "1.0"]] [[]] (files _) (files _)
  refine ⟨steady, tame, by decide, by decide, thrice.2.1 (by decide) (by decide), ?_⟩
  exact (twice.1 (by simp) (by simp)).2.2.2

end CiPipeline
