import CiPipeline.Proofs.Run.Trace
import CiPipeline.Proofs.Text.Words

/-!
# Listing — the processes that a run starts

An environment can keep a list of what it is asked to start and is otherwise as before.  A run cannot
tell the difference, and the list shows the processes of the commands that have started, in the order
of the tree.

* `Environment.listing`: an environment that keeps the list;
* `Action.argv?`: what an action starts;
* `Pipeline.execute_listing`: a run is as before;
* `Pipeline.listed`: what it adds to the list.
-/

namespace CiPipeline

variable {σ : Type}

/-- The environment, with a list of the programs that it is asked to start and their arguments. -/
def Environment.listing (env : Environment σ) : Environment (List (List String) × σ) where
  spawn := fun program args dir world =>
    let (outcome, s) := env.spawn program args dir world.2
    (outcome, world.1 ++ [program :: args], s)
  present := fun path world => env.present path world.2
  readText := fun path world => env.readText path world.2
  printLine := fun line world =>
    let (outcome, s) := env.printLine line world.2
    (outcome, world.1, s)

/-- The program that a process starts, and its arguments. -/
def Action.argv? : Action → Option (List String)
  | .run _ program args => some (program :: args)
  | .file .. => none
  | .print _ => none

/-- The world without the list. -/
def unlisted (world : Context × List (List String) × σ) : Context × σ := (world.1, world.2.2)

namespace Command

variable (env : Environment σ) (c : Command) (world : Context × List (List String) × σ)

theorem execute_listing :
    execute env c (unlisted world) =
      ((execute env.listing c world).1, unlisted (execute env.listing c world).2) := by
  rcases c with ⟨id, action, allowFailure, state, result⟩
  rcases world with ⟨context, log, s⟩
  cases action with
  | run script program args =>
      simp only [execute, dispatch, runProcess, Environment.listing, unlisted]
      cases (env.spawn program args context.baseDir s).1 with
      | error problem => rfl
      | ok exit =>
          cases exit with
          | code code => rfl
          | signal => rfl
  | file operation path variableName => rfl
  | print params =>
      simp only [execute, dispatch, runPrint, Environment.listing, unlisted]
      cases (env.printLine (printedLine params context.store) s).1 with
      | error problem => rfl
      | ok => rfl

/-- A process is put on the list, whatever comes of it. -/
theorem listed_execute :
    (execute env.listing c world).2.2.1 = world.2.1 ++ c.action.argv?.toList := by
  rcases c with ⟨id, action, allowFailure, state, result⟩
  rcases world with ⟨context, log, s⟩
  cases action with
  | run script program args =>
      simp only [execute, dispatch, runProcess, Environment.listing, Action.argv?]
      cases (env.spawn program args context.baseDir s).1 with
      | error problem => rfl
      | ok exit =>
          cases exit with
          | code code => rfl
          | signal => rfl
  | file operation path variableName => exact (List.append_nil _).symm
  | print params =>
      simp only [execute, dispatch, runPrint, Environment.listing, Action.argv?]
      cases (env.printLine (printedLine params context.store) s).1 with
      | error problem => exact (List.append_nil _).symm
      | ok => exact (List.append_nil _).symm

end Command

/-- Executions that follow each other add their processes to the list in their order. -/
theorem Trace.listed {env : Environment σ} {world final : Context × List (List String) × σ}
    {es : List (Execution (List (List String) × σ))} (trace : Trace env.listing world es final) :
    final.2.1 =
      world.2.1 ++ (es.map (Execution.outcome env.listing)).filterMap fun c => c.action.argv? := by
  induction trace with
  | nil => exact (List.append_nil _).symm
  | @cons c world final rest onward ih =>
      have kept : (Execution.outcome env.listing (c, world)).action = c.action := rfl
      rw [ih, Command.listed_execute, List.map_cons, List.filterMap_cons, kept]
      cases c.action.argv? with
      | none => simp
      | some argv => simp

namespace Pipeline

variable (env : Environment σ) (p : Pipeline) (log : List (List String)) (s : σ)

theorem execute_listing :
    p.execute env s = ((p.execute env.listing (log, s)).1, (p.execute env.listing (log, s)).2.2) := by
  have walked := p.walk_map (Command.execute env) (Command.execute env.listing) unlisted
    (Command.execute_listing env) (p.context, log, s)
  have start : unlisted (p.context, log, s) = (p.context, s) := rfl
  rw [execute_eq_walk, execute_eq_walk, ← start, walked]
  rfl

/-- A run puts on the list what the commands that have started are to start. -/
theorem listed :
    (p.execute env.listing (log, s)).2.1 =
      log ++ ((p.execute env s).1.commands.filter Command.started).filterMap
        fun c => c.action.argv? := by
  rw [p.execute_listing env log s, ← outcomes_eq_filter]
  exact (p.trace_executions env.listing (log, s)).listed

end Pipeline
end CiPipeline
