import Mathlib.Data.List.Induction
import CiPipeline.Proofs.Run.Reach

/-!
# Trace — the world that passes from command to command

Each command that a run executes meets the world that the command before it left.  Of the context
only the store changes, and only by files that are read; what was read stands on the commands
themselves, so the store at any point of a run can be read off the tree.

* `Trace`: executions that follow each other, and `Pipeline.trace_executions`;
* `Command.leaves`: the store that a command leaves, read off the command;
* `Pipeline.execution_at`: the execution of a command at a given point of the tree;
* `lastPassed`: the last command of a kind that passed, and `get?_foldl_leaves`: it decides what a
  variable holds;
* `Environment.keepingLines`: a world to try runs in.
-/

namespace CiPipeline

variable {σ : Type} {env : Environment σ}

/-! ## Executions that follow each other -/

/-- Each execution meets the world that the one before it left. -/
inductive Trace (env : Environment σ) :
    Context × σ → List (Execution σ) → Context × σ → Prop
  | nil {world : Context × σ} : Trace env world [] world
  | cons {c : Command} {world final : Context × σ} {rest : List (Execution σ)}
      (onward : Trace env (Command.execute env c world).2 rest final) :
      Trace env world ((c, world) :: rest) final

namespace Trace

variable {world final : Context × σ} {es es' : List (Execution σ)} {e : Execution σ}

theorem concat (trace : Trace env world es final) (c : Command) :
    Trace env world (es ++ [(c, final)]) (Command.execute env c final).2 := by
  -- A trace is built from its first execution, and this one goes behind its last.
  induction trace with
  | nil => exact .cons .nil
  | cons _ ih => exact .cons ih

/-- Up to an execution there is a trace to the world that it meets. -/
theorem before (trace : Trace env world (es ++ e :: es') final) : Trace env world es e.2 := by
  -- The executions in front are peeled off one by one, each from the world it left.
  induction es generalizing world with
  | nil =>
      cases trace with
      | cons => exact .nil
  | cons _ es ih =>
      cases trace with
      | cons onward => exact .cons (ih onward)

end Trace

/-- A run that is recorded leaves a trace. -/
theorem Pipeline.trace_executions (env : Environment σ) (p : Pipeline) (s : σ) :
    Trace env (p.context, s) (p.executions env s)
      ((p.execute env s).1.context, (p.execute env s).2) := by
  -- The record of any point of the walk is a trace to the world of that point.
  let traced : List (Execution σ) × Context × σ → Prop := fun world =>
    Trace env (p.context, s) world.1 world.2
  have keeps : ∀ (c : Command) (world : List (Execution σ) × Context × σ), traced world →
      True ∧ traced (Run.recording (Command.execute env) c world).2 :=
    fun c world trace => ⟨trivial, trace.concat c⟩
  have run := (ordered_walk (fun _ _ => True) traced keeps p ([], p.context, s) .nil).2
  have walked := p.walk_recording (Command.execute env) ([], p.context, s)
  simpa [traced, executions, execute_eq_walk, walked] using run

/-- The executions of a run leave the commands that have started, in the order of the tree. -/
theorem Pipeline.outcomes_eq_filter (env : Environment σ) (p : Pipeline) (s : σ) :
    (p.executions env s).map (Execution.outcome env) =
      (p.execute env s).1.commands.filter Command.started := by
  rw [outcomes_eq_started]
  -- The commands of the tree are those of its stages, each filtered on its own.
  simp only [commands, Stage.commands, List.filter_flatMap]
  rfl

/-- A command that has started was executed. -/
theorem Pipeline.exists_execution (env : Environment σ) (p : Pipeline) (s : σ) {c : Command}
    (mem : c ∈ (p.execute env s).1.commands) (started : c.started = true) :
    ∃ e ∈ p.executions env s, e.outcome env = c := by
  have recorded := List.mem_filter.2 ⟨mem, started⟩
  rw [← outcomes_eq_filter] at recorded
  exact List.mem_map.1 recorded

/-! ## The store that a command leaves -/

namespace Command

/-- A file command that passed has put its data into its variable. -/
def leaves (c : Command) (store : Store) : Store :=
  match c.action, c.state, c.result.data with
  | .file _ _ name, .passed, some data => store.insert name (.text data)
  | _, _, _ => store

/-- A file command that passed was there to read its file, and holds the contents. -/
def Delivered (c : Command) : Prop :=
  ∀ operation path name, c.action = .file operation path name → c.state = .passed →
    operation = .read ∧ ∃ contents, c.result.data = some contents

/-- An execution changes the store as the command shows it afterwards, and nothing else of the
context. -/
theorem context_execute (c : Command) (world : Context × σ) :
    (execute env c world).2.1 =
      { world.1 with store := (execute env c world).1.leaves world.1.store } := by
  rcases c with ⟨id, action, allowFailure, state, result⟩
  cases action with
  | run script program args => rfl
  | print params => rfl
  | file operation path name =>
      cases operation with
      | write => rfl
      | read =>
          simp only [execute, dispatch, runFile, leaves]
          split
          · split
            · rfl
            · rfl
          · rfl

theorem stateOf_ofError (error : CommandError) : stateOf (.ofError error) = .failed :=
  if_neg error.code_ne_success

theorem delivered_execute (c : Command) (world : Context × σ) :
    (execute env c world).1.Delivered := by
  rcases c with ⟨id, action, allowFailure, state, result⟩
  intro operation path name file passed
  change action = .file operation path name at file
  subst file
  cases operation with
  | write =>
      have failed := (stateOf_ofError (.unsupportedOperation .write)).symm.trans passed
      cases failed
  | read =>
      refine ⟨rfl, ?_⟩
      simp only [execute, dispatch, runFile] at passed ⊢
      -- Whatever keeps the file from being read makes the command fail.
      by_cases present : env.present (world.1.resolve path) world.2 = true
      · rw [if_pos present] at passed ⊢
        cases read : env.readText (world.1.resolve path) world.2 with
        | ok contents => exact ⟨contents, rfl⟩
        | error problem =>
            rw [read] at passed
            cases (stateOf_ofError (.io problem)).symm.trans passed
      · rw [if_neg present] at passed
        cases (stateOf_ofError (.fileNotFound _)).symm.trans passed

theorem delivered_reset (c : Command) : c.reset.Delivered := by
  intro operation path name file passed
  cases passed

theorem leaves_of_not_started {c : Command} (idle : c.started = false) (store : Store) :
    c.leaves store = store := by
  rcases c with ⟨id, action, allowFailure, state, result⟩
  cases state with
  | unstarted => simp [leaves]
  | passed => cases idle
  | failed => cases idle

/-- Only a file command that passed changes the store. -/
theorem leaves_eq_self {c : Command}
    (other : (∀ operation path name, c.action ≠ .file operation path name) ∨ c.state ≠ .passed)
    (store : Store) : c.leaves store = store := by
  unfold leaves
  split
  · rename_i operation path name contents file passed data
    rcases other with noFile | notPassed
    · exact absurd file (noFile operation path name)
    · exact absurd passed notPassed
  · rfl

end Command

theorem Trace.context {world final : Context × σ} {es : List (Execution σ)}
    (trace : Trace env world es final) :
    final.1 = { world.1 with
      store := (es.map (Execution.outcome env)).foldl (fun store c => c.leaves store)
        world.1.store } := by
  induction trace with
  | nil => rfl
  | @cons c world final rest onward ih =>
      rw [ih, Command.context_execute]
      rfl

/-! ## The store at a point of the tree -/

/-- Commands that have not started leave no trace in the store. -/
theorem foldl_leaves_filter (commands : List Command) (store : Store) :
    (commands.filter Command.started).foldl (fun store c => c.leaves store) store =
      commands.foldl (fun store c => c.leaves store) store := by
  rw [List.foldl_filter]
  congr 1
  funext store c
  cases started : c.started with
  | true => simp
  | false => simp [Command.leaves_of_not_started started]

namespace Pipeline

variable (env) (p : Pipeline) (s : σ)

/-- The store after a run can be read off the tree. -/
theorem context_execute :
    (p.execute env s).1.context = { p.context with
      store := (p.execute env s).1.commands.foldl (fun store c => c.leaves store) p.store } := by
  have run := (p.trace_executions env s).context
  rw [outcomes_eq_filter, foldl_leaves_filter] at run
  exact run

/-- A command that has started was executed after those before it in the tree that have started, and
met the store that these leave. -/
theorem execution_at {before after : List Command} {c : Command}
    (place : (p.execute env s).1.commands = before ++ c :: after) (started : c.started = true) :
    ∃ earlier e later, p.executions env s = earlier ++ e :: later ∧
      earlier.map (Execution.outcome env) = before.filter Command.started ∧
      e.outcome env = c ∧
      e.2.1.store = before.foldl (fun store c => c.leaves store) p.store := by
  -- The command splits the tree, and with it the record, which shows what has started.
  have outcomes := p.outcomes_eq_filter env s
  rw [place, List.filter_append, List.filter_cons_of_pos started] at outcomes
  obtain ⟨earlier, rest, split, first, second⟩ := List.map_eq_append_iff.1 outcomes
  obtain ⟨e, later, rfl, outcome, _⟩ := List.map_eq_cons_iff.1 second
  refine ⟨earlier, e, later, split, first, outcome, ?_⟩
  -- Up to the command the record is a trace, and the commands that are left out change nothing.
  have trace := p.trace_executions env s
  rw [split] at trace
  have met := trace.before.context
  rw [first, foldl_leaves_filter] at met
  rw [met]
  rfl

/-- What stands in the tree after a run was executed in this run, or is as the reset left it. -/
theorem executed_or_reset {c : Command} (mem : c ∈ (p.execute env s).1.commands) :
    ∃ before ∈ p.commands, Command.Executed env p.baseDir before.reset c ∨ c = before.reset := by
  rcases mem_commands.1 mem with ⟨i, j, k, found⟩
  rcases command_after found with ⟨before, stood, ⟨_, executed⟩ | ⟨_, cleared⟩⟩
  · exact ⟨before, mem_commands.2 ⟨i, j, k, stood⟩, .inl executed⟩
  · exact ⟨before, mem_commands.2 ⟨i, j, k, stood⟩, .inr cleared⟩

/-- Whatever a run does not get to is cleared, so what passed has passed in this run. -/
theorem delivered_of_mem {c : Command} (mem : c ∈ (p.execute env s).1.commands) : c.Delivered := by
  rcases p.executed_or_reset env s mem with ⟨before, _, ⟨context, s, _, rfl⟩ | rfl⟩
  · exact Command.delivered_execute _ _
  · exact before.delivered_reset

end Pipeline

/-! ## What a variable holds -/

/-- The file commands for a variable. -/
def Action.targets (name : String) : Action → Bool
  | .file _ _ variableName => variableName == name
  | _ => false

/-- The commands that read a file into a variable. -/
def Action.reads (name : String) : Action → Bool
  | .file .read _ variableName => variableName == name
  | _ => false

/-- The last of the commands that is of a kind and passed. -/
def lastPassed (kind : Action → Bool) (commands : List Command) : Option Command :=
  commands.reverse.find? fun c => kind c.action && c.state.isPassed

/-- The data of the last command of a kind that passed, or the value before if there is none. -/
def valueAfter (kind : Action → Bool) (commands : List Command) (before : Option Value) :
    Option Value :=
  match lastPassed kind commands with
  | some c => c.result.data.map Value.text
  | none => before

theorem valueAfter_concat (kind : Action → Bool) (commands : List Command) (c : Command)
    (before : Option Value) :
    valueAfter kind (commands ++ [c]) before =
      if kind c.action && c.state.isPassed then c.result.data.map Value.text
      else valueAfter kind commands before := by
  simp only [valueAfter, lastPassed, List.reverse_append, List.reverse_singleton,
    List.singleton_append, List.find?_cons]
  cases (kind c.action && c.state.isPassed) with
  | true => rfl
  | false => rfl

namespace Command

theorem get?_leaves {c : Command} (delivered : c.Delivered) (store : Store) (name : String) :
    (c.leaves store).get? name =
      if c.action.targets name && c.state.isPassed then c.result.data.map Value.text
      else store.get? name := by
  by_cases file : ∃ operation path variableName, c.action = .file operation path variableName
  · rcases file with ⟨operation, path, variableName, file⟩
    by_cases passed : c.state = .passed
    · rcases delivered operation path variableName file passed with ⟨_, contents, data⟩
      simp [leaves, file, passed, data, Store.get?_insert, Action.targets, State.isPassed]
    · simp [leaves_eq_self (.inr passed), State.isPassed, passed]
  · have other : ∀ operation path variableName,
        c.action ≠ .file operation path variableName := by
      simpa using file
    have none : c.action.targets name = false := by
      unfold Action.targets
      split
      · exact absurd ‹_› (other _ _ _)
      · rfl
    simp [leaves_eq_self (.inl other), none]

/-- Only reading passes, so that the kind of operation makes no difference. -/
theorem reads_and_passed {c : Command} (delivered : c.Delivered) (name : String) :
    (c.action.reads name && c.state.isPassed) = (c.action.targets name && c.state.isPassed) := by
  cases passed : c.state.isPassed with
  | false => simp
  | true =>
      simp only [Bool.and_true]
      cases file : c.action with
      | run script program args => rfl
      | print params => rfl
      | file operation path variableName =>
          have state : c.state = .passed := by simpa [State.isPassed] using passed
          rcases delivered operation path variableName file state with ⟨rfl, _⟩
          rfl

end Command

theorem get?_foldl_leaves {commands : List Command} (delivered : ∀ c ∈ commands, c.Delivered)
    (store : Store) (name : String) :
    (commands.foldl (fun store c => c.leaves store) store).get? name =
      valueAfter (Action.targets name) commands (store.get? name) := by
  -- The last command comes first in the look-up, so the induction takes it off the end.
  induction commands using List.reverseRecOn with
  | nil => rfl
  | append_singleton commands c ih =>
      rw [List.foldl_append, List.foldl_cons, List.foldl_nil, valueAfter_concat,
        Command.get?_leaves (delivered c (by simp)),
        ih fun c mem => delivered c (List.mem_append_left _ mem)]

theorem valueAfter_reads {commands : List Command} (delivered : ∀ c ∈ commands, c.Delivered)
    (name : String) (before : Option Value) :
    valueAfter (Action.reads name) commands before =
      valueAfter (Action.targets name) commands before := by
  induction commands using List.reverseRecOn with
  | nil => rfl
  | append_singleton commands c ih =>
      rw [valueAfter_concat, valueAfter_concat, Command.reads_and_passed (delivered c (by simp)),
        ih fun c mem => delivered c (List.mem_append_left _ mem)]

/-! ## A small world -/

/-- A world with one file, which keeps the lines that are printed. -/
def Environment.keepingLines (file : Path) (text : String) : Environment (List String) where
  spawn := fun _ _ _ lines => (.ok (.code 0), lines)
  present := fun path _ => path == file
  readText := fun path _ => if path = file then .ok text else .error .notFound
  printLine := fun line lines => (.ok (), lines ++ [line])

end CiPipeline
