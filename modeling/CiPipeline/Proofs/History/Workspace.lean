import Mathlib.Logic.Relation
import CiPipeline.Proofs.History.Edit
import CiPipeline.Proofs.Run.Trace

/-!
# Workspace — everything that can be done with pipelines

A program holds pipelines, and commands outside of them.  It makes new ones, copies, builds, loads and
executes them, in any order.  What is known of every command that has not run, and stays known when
it is executed and when time goes on, is known of all commands that it ever holds.

* `Workspace`: the pipelines and commands that are held, and all executions so far;
* `Workspace.Change`: what may become of a pipeline without executing it;
* `Workspace.Step`: all that a program may do next;
* `Lasting`: what a property of commands needs in order to last;
* `Workspace.each_of_step`, `Workspace.each_of_reached`: then it holds of everything that is held.
-/

namespace CiPipeline

/-- What a program holds, and the executions that it has seen. -/
structure Workspace (σ : Type) where
  pipelines : List Pipeline
  commands : List Command
  past : List (Execution σ)

variable {σ : Type}

namespace Workspace

def empty (σ : Type) : Workspace σ := ⟨[], [], []⟩

def withPipeline (w : Workspace σ) (p : Pipeline) : Workspace σ :=
  { w with pipelines := w.pipelines ++ [p] }

def withCommand (w : Workspace σ) (c : Command) : Workspace σ :=
  { w with commands := w.commands ++ [c] }

/-- Puts another pipeline in the place of one that is held. -/
def replace (w : Workspace σ) (i : Nat) (p : Pipeline) : Workspace σ :=
  { w with pipelines := w.pipelines.set i p }

def remember (w : Workspace σ) (executions : List (Execution σ)) : Workspace σ :=
  { w with past := w.past ++ executions }

/-! ## Steps -/

/-- What may become of a pipeline without executing it.  Calls that fail leave what the calls before
them have built. -/
inductive Change (w : Workspace σ) (p : Pipeline) : Pipeline → Prop
  | build (calls : List Call) (held : ∀ c, Call.command c ∈ calls → c ∈ w.commands) :
      Change w p (p.build calls).1
  | allow (allowFailure : Bool) : Change w p (p.withAllowFailure allowFailure)
  | assign {name : String} {value : Value} {overwrite : Bool} {q : Pipeline}
      (done : p.setVariable name value overwrite = .ok q) : Change w p q
  | append {loaded : Pipeline} (held : loaded ∈ w.pipelines) : Change w p (p.append loaded)
  | load {fs : FileSystem} {directory : Location} {ids : IdSupply} {path : Path} {q : Pipeline}
      (done : p.loadFile fs directory ids path = .ok q) : Change w p q

/-- What a program may do next. -/
inductive Step (env : Environment σ) (w : Workspace σ) : Workspace σ → Prop
  | create (baseDir : Path) (runId : Nat) : Step env w (w.withPipeline (.ofDir baseDir runId))
  | read {fs : FileSystem} {directory : Location} {runId : Nat} {ids : IdSupply} {path : Path}
      {p : Pipeline} (done : Pipeline.ofFile fs directory runId ids path = .ok p) :
      Step env w (w.withPipeline p)
  | clone {p : Pipeline} (held : p ∈ w.pipelines) : Step env w (w.withPipeline p)
  | change {i : Nat} {p q : Pipeline} (held : w.pipelines[i]? = some p) (change : Change w p q) :
      Step env w (w.replace i q)
  | execute {i : Nat} {p : Pipeline} (held : w.pipelines[i]? = some p) (s : σ) :
      Step env w ((w.replace i (p.execute env s).1).remember (p.executions env s))
  | prepare (action : Action) (id : String) : Step env w (w.withCommand (.ofAction action id))
  | allow {c : Command} (held : c ∈ w.commands) (allowFailure : Bool) :
      Step env w (w.withCommand (c.withAllowFailure allowFailure))
  | pick {p : Pipeline} {c : Command} (held : p ∈ w.pipelines) (there : c ∈ p.commands) :
      Step env w (w.withCommand c)
  | perform {c : Command} (held : c ∈ w.commands) (world : Context × σ) :
      Step env w ((w.withCommand (Command.execute env c world).1).remember [(c, world)])

/-- All commands that are held have the property. -/
structure Each (P : Command → Prop) (w : Workspace σ) : Prop where
  pipelines : ∀ p ∈ w.pipelines, p.Each P
  commands : ∀ c ∈ w.commands, P c

end Workspace

/-! ## What lasts -/

/-- A property of commands, in view of the executions so far, that a fresh command has, that does not
depend on flags, and that holds of a command that was executed from then on. -/
structure Lasting (env : Environment σ) (P : List (Execution σ) → Command → Prop) : Prop where
  fresh : ∀ past c, Command.Fresh c → P past c
  allow : ∀ past c allowFailure, P past c → P past (c.withAllowFailure allowFailure)
  executed : ∀ past e, e ∈ past → P past (e.outcome env)
  later : ∀ past more c, P past c → P (past ++ more) c

namespace Workspace

variable {P : Command → Prop} {w : Workspace σ}

theorem Each.imp {Q : Command → Prop} (weaker : ∀ c, P c → Q c) (each : w.Each P) : w.Each Q where
  pipelines := fun p held c mem => weaker c (each.pipelines p held c mem)
  commands := fun c held => weaker c (each.commands c held)

theorem Each.withPipeline {p : Pipeline} (new : p.Each P) (each : w.Each P) :
    (w.withPipeline p).Each P where
  pipelines := by
    intro q held
    rcases List.mem_append.1 held with before | last
    · exact each.pipelines q before
    · exact List.mem_singleton.1 last ▸ new
  commands := each.commands

theorem Each.withCommand {c : Command} (new : P c) (each : w.Each P) : (w.withCommand c).Each P where
  pipelines := each.pipelines
  commands := by
    intro c' held
    rcases List.mem_append.1 held with before | last
    · exact each.commands c' before
    · exact List.mem_singleton.1 last ▸ new

theorem Each.replace {i : Nat} {p : Pipeline} (new : p.Each P) (each : w.Each P) :
    (w.replace i p).Each P where
  pipelines := by
    intro q held
    rcases List.mem_or_eq_of_mem_set held with before | rfl
    · exact each.pipelines q before
    · exact new
  commands := each.commands

/-- What is remembered is not held. -/
theorem Each.remember {executions : List (Execution σ)} (each : w.Each P) :
    (w.remember executions).Each P := ⟨each.pipelines, each.commands⟩

/-- A change brings in new commands and commands that are held. -/
theorem Change.each {p q : Pipeline} (change : Change w p q)
    (new : ∀ c : Command, c.Fresh → c.action.Scripted → P c) (held : w.Each P) (each : p.Each P) :
    q.Each P := by
  cases change with
  | build calls given =>
      exact Pipeline.each_build new (fun c mem => held.commands c (given c mem)) each
  | allow allowFailure => exact each
  | @assign name value overwrite _ done =>
      unfold Pipeline.setVariable at done
      cases stored : p.store.set name value overwrite with
      | error e =>
          rw [stored] at done
          cases done
      | ok store =>
          rw [stored] at done
          cases done
          exact each
  | append mem => exact each.append (held.pipelines _ mem)
  | load done =>
      rcases Pipeline.loadFile_ok done with ⟨loaded, accepted, rfl⟩
      exact each.append (Pipeline.each_ofFile new accepted)

end Workspace

/-- What stands in the tree after a run was executed in this run or is fresh. -/
theorem Pipeline.fresh_or_executed (env : Environment σ) (p : Pipeline) (s : σ) {c : Command}
    (mem : c ∈ (p.execute env s).1.commands) :
    c.Fresh ∨ ∃ e ∈ p.executions env s, e.outcome env = c := by
  cases started : c.started with
  | true => exact .inr (p.exists_execution env s mem started)
  | false =>
      rcases p.executed_or_reset env s mem with ⟨before, _, executed | rfl⟩
      · have ran := Command.Executed.state_ne _ _ executed
        simp [Command.started, State.isUnstarted] at started
        exact absurd started ran
      · exact .inl rfl

namespace Workspace

variable {env : Environment σ} {P : List (Execution σ) → Command → Prop} {w w' : Workspace σ}

/-- What lasts is kept by every step. -/
theorem each_of_step (lasting : Lasting env P) (step : Step env w w') (each : w.Each (P w.past)) :
    w'.Each (P w'.past) := by
  cases step with
  | create baseDir runId => exact each.withPipeline fun c mem => nomatch mem
  | read done =>
      exact each.withPipeline (Pipeline.each_ofFile (fun c fresh _ => lasting.fresh _ c fresh) done)
  | clone held => exact each.withPipeline (each.pipelines _ held)
  | change held change =>
      have before := each.pipelines _ (List.mem_of_getElem? held)
      exact each.replace (change.each (fun c fresh _ => lasting.fresh w.past c fresh) each before)
  | @execute i p held s =>
      -- The executions of this run are remembered before the tree is looked at.
      have kept : w.Each (P (w.past ++ p.executions env s)) :=
        each.imp fun c known => lasting.later _ _ c known
      refine (kept.replace fun c mem => ?_).remember
      rcases p.fresh_or_executed env s mem with fresh | ⟨e, there, rfl⟩
      · exact lasting.fresh _ c fresh
      · exact lasting.executed _ e (List.mem_append_right _ there)
  | prepare action id =>
      exact each.withCommand (lasting.fresh _ _ (Command.fresh_ofAction action id))
  | allow held allowFailure =>
      exact each.withCommand (lasting.allow _ _ allowFailure (each.commands _ held))
  | pick held there => exact each.withCommand (each.pipelines _ held _ there)
  | @perform c held world =>
      have kept : w.Each (P (w.past ++ [(c, world)])) :=
        each.imp fun c known => lasting.later _ _ c known
      exact (kept.withCommand (lasting.executed _ (c, world) (by simp))).remember

/-- What lasts holds of everything that a program ever holds. -/
theorem each_of_reached (lasting : Lasting env P)
    (reached : Relation.ReflTransGen (Step env) (empty σ) w) : w.Each (P w.past) := by
  induction reached with
  | refl => exact ⟨by simp [empty], by simp [empty]⟩
  | tail _ step ih => exact each_of_step lasting step ih

end Workspace
end CiPipeline
