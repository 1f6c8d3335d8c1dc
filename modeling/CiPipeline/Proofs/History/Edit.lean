import CiPipeline.Proofs.Definition.Origins
import CiPipeline.Proofs.Run.Lookup

/-!
# Edit — what calls do to a pipeline

A call that succeeds adds a node at the end of the tree, sets the flag of the last stage or job, or
changes nothing.  The commands that it adds have not run and start the words of their scripts, unless a
command is handed to it as it is.  So what holds of such commands and of those that are handed over goes
on to hold of all.

* `Command.Fresh`: a command without a trace of an execution;
* `Action.Scripted`: a process is started by the words of its script;
* `Edit`: the changes that a call may make, and `Handle.edit_of_call`;
* `Pipeline.Each`: a property of all commands;
* `Edit.each`, `Pipeline.each_build`: what an edit, and a chain of calls, keeps;
* `Pipeline.each_ofFile`: the commands of a loaded file are new.
-/

namespace CiPipeline

/-- Clearing the command changes nothing. -/
def Command.Fresh (c : Command) : Prop := c.reset = c

theorem Command.fresh_ofAction (action : Action) (id : String) :
    (Command.ofAction action id).Fresh := rfl

/-- The program and the arguments of a process are the words of its script. -/
def Action.Scripted : Action → Prop
  | .run script program args => Script.split script = (program, args)
  | .file .. => True
  | .print _ => True

@[simp] theorem Action.scripted_ofScript (script : String) : (Action.ofScript script).Scripted := rfl

/-! ## One call -/

/-- The changes that a call may make to a pipeline. -/
inductive Edit (call : Call) (p : Pipeline) : Pipeline → Prop
  | none : Edit call p p
  | stage (name : String) : Edit call p (p.addStage name)
  | job (name : String) : Edit call p (p.onLastStage (·.push (.ofName name)))
  | command (c : Command) (source : c.Fresh ∧ c.action.Scripted ∨ call = .command c) :
      Edit call p (p.onLastJob (·.push c))
  | allowStage : Edit call p (p.onLastStage (·.withAllowFailure true))
  | allowJob : Edit call p (p.onLastJob (·.withAllowFailure true))

section

variable {call : Call} {p q : Pipeline} {handle handle' : Handle}

theorem Handle.root_ok {result : Except PipelineError Pipeline}
    (done : root result = .ok (handle', q)) : result = .ok q := by
  cases result with
  | error e => cases done
  | ok r =>
      cases done
      rfl

theorem Pipeline.addJob_ok {name : String} (done : p.addJob name = .ok q) :
    q = p.onLastStage (·.push (.ofName name)) := by
  unfold addJob at done
  split at done
  · cases done
  · cases done
    rfl

theorem Pipeline.addCommand_ok {c : Command} {reason : String}
    (done : p.addCommand c reason = .ok q) : q = p.onLastJob (·.push c) := by
  unfold addCommand at done
  cases required : p.requireJob reason with
  | error e =>
      rw [required] at done
      cases done
  | ok =>
      rw [required] at done
      cases done
      rfl

theorem Edit.fresh {action : Action} {id : String} (scripted : action.Scripted) :
    Edit call p (p.onLastJob (·.push (.ofAction action id))) :=
  .command _ (.inl ⟨Command.fresh_ofAction action id, scripted⟩)

theorem Edit.run (script id : String) : Edit call p (p.onLastJob (·.push (.run script id))) :=
  .fresh (Action.scripted_ofScript script)

theorem Edit.print (params : List Parameter) (id : String) :
    Edit call p (p.onLastJob (·.push (.print params id))) :=
  .fresh trivial

theorem Edit.readInto (path : Path) (variableName id : String) :
    Edit call p (p.onLastJob (·.push (.readInto path variableName id))) :=
  .fresh trivial

/-- Every call that succeeds is an edit. -/
theorem Handle.edit_of_call (done : handle.call call p = .ok (handle', q)) : Edit call p q := by
  -- Each handle has calls of its own and refuses the others.
  cases handle with
  | pipeline =>
      cases call with
      | stage name =>
          cases done
          exact .stage name
      | job name =>
          rw [Pipeline.addJob_ok (root_ok done)]
          exact .job name
      | run script id =>
          rw [Pipeline.addCommand_ok (root_ok done)]
          exact .run _ _
      | print params id =>
          rw [Pipeline.addCommand_ok (root_ok done)]
          exact .print _ _
      | readInto path variableName overwrite id =>
          rw [Pipeline.addReadInto_eq (root_ok done)]
          exact .readInto _ _ _
      | _ => cases done
  | stage =>
      cases call with
      | stage name =>
          cases done
          exact .stage name
      | job name =>
          cases done
          exact .job name
      | allowFailure =>
          cases done
          exact .allowStage
      | _ => cases done
  | job =>
      cases call with
      | stage name =>
          cases done
          exact .stage name
      | job name =>
          cases done
          exact .job name
      | run script id =>
          cases done
          exact .run _ _
      | print params id =>
          cases done
          exact .print _ _
      | readInto path variableName overwrite id =>
          rw [Pipeline.call_readInto_eq done]
          exact .readInto _ _ _
      | allowFailure =>
          cases done
          exact .allowJob
      | command c =>
          cases done
          exact .command c (.inr rfl)
      | npm =>
          cases done
          exact .none
      | _ => cases done
  | npm =>
      cases call with
      | install production id =>
          cases done
          exact .run _ _
      | publish id =>
          cases done
          exact .run _ _
      | npmRun script args id =>
          cases done
          exact .run _ _
      | _ => cases done

end

/-! ## Properties of all commands -/

/-- All commands of the pipeline have the property. -/
def Pipeline.Each (P : Command → Prop) (p : Pipeline) : Prop := ∀ c ∈ p.commands, P c

section

variable {P : Command → Prop} {p q : Pipeline}

theorem Pipeline.mem_changeLast {α : Type} {f : α → α} {as : List α} {b : α}
    (mem : b ∈ changeLast f as) : b ∈ as ∨ ∃ a ∈ as, b = f a := by
  induction as using changeLast.induct with
  | case1 => cases mem
  | case2 a => exact .inr ⟨a, List.mem_cons_self, List.mem_singleton.1 mem⟩
  | case3 a as more ih =>
      rw [changeLast.eq_3 _ _ _ more] at mem
      rcases List.mem_cons.1 mem with rfl | later
      · exact .inl List.mem_cons_self
      · rcases ih later with same | ⟨a', there, changed⟩
        · exact .inl (List.mem_cons_of_mem _ same)
        · exact .inr ⟨a', List.mem_cons_of_mem _ there, changed⟩

namespace Pipeline

theorem Each.onLastStage {f : Stage → Stage}
    (keeps : ∀ stage : Stage, (∀ c ∈ stage.commands, P c) → ∀ c ∈ (f stage).commands, P c)
    (each : p.Each P) : (p.onLastStage f).Each P := by
  intro c mem
  rcases List.mem_flatMap.1 mem with ⟨stage, there, inside⟩
  have below : ∀ stage ∈ p.stages, ∀ c ∈ stage.commands, P c :=
    fun stage there c inside => each c (List.mem_flatMap.2 ⟨stage, there, inside⟩)
  rcases mem_changeLast there with same | ⟨before, stood, rfl⟩
  · exact below stage same c inside
  · exact keeps before (below before stood) c inside

theorem Each.onLastJob {f : Job → Job}
    (keeps : ∀ job : Job, (∀ c ∈ job.commands, P c) → ∀ c ∈ (f job).commands, P c)
    (each : p.Each P) : (p.onLastJob f).Each P := by
  -- The last job is the one to change inside the last stage.
  refine each.onLastStage fun stage held c mem => ?_
  rcases List.mem_flatMap.1 mem with ⟨job, there, inside⟩
  have below : ∀ job ∈ stage.jobs, ∀ c ∈ job.commands, P c :=
    fun job there c inside => held c (List.mem_flatMap.2 ⟨job, there, inside⟩)
  rcases mem_changeLast there with same | ⟨before, stood, rfl⟩
  · exact below job same c inside
  · exact keeps before (below before stood) c inside

theorem Each.push {c : Command} (new : P c) (each : p.Each P) :
    (p.onLastJob (·.push c)).Each P := by
  refine each.onLastJob fun job held c' mem => ?_
  rcases List.mem_append.1 mem with before | last
  · exact held c' before
  · cases List.mem_singleton.1 last
    exact new

theorem commands_append (p loaded : Pipeline) :
    (p.append loaded).commands = p.commands ++ loaded.commands := by
  simp [commands, append]

theorem Each.append {loaded : Pipeline} (each : p.Each P) (also : loaded.Each P) :
    (p.append loaded).Each P := by
  intro c mem
  rw [commands_append] at mem
  rcases List.mem_append.1 mem with before | after
  · exact each c before
  · exact also c after

theorem loadFile_ok {fs : FileSystem} {directory : Location} {ids : IdSupply} {path : Path}
    (done : p.loadFile fs directory ids path = .ok q) :
    ∃ loaded, ofFile fs directory p.context.runId ids (p.context.resolve path) = .ok loaded ∧
      q = p.append loaded := by
  unfold loadFile at done
  cases loaded : ofFile fs directory p.context.runId ids (p.context.resolve path) with
  | error e =>
      rw [loaded] at done
      cases done
  | ok nested =>
      rw [loaded] at done
      cases done
      exact ⟨nested, rfl, rfl⟩

end Pipeline

/-- An edit keeps a property of all commands that new ones have, and those that are handed over. -/
theorem Edit.each {call : Call} (edit : Edit call p q)
    (new : ∀ c : Command, c.Fresh → c.action.Scripted → P c)
    (given : ∀ c, call = .command c → P c) (each : p.Each P) : q.Each P := by
  cases edit with
  | none => exact each
  | stage name =>
      intro c mem
      simp only [Pipeline.commands, Pipeline.addStage, Stage.ofName, Stage.commands,
        List.flatMap_append, List.flatMap_cons, List.flatMap_nil, List.append_nil] at mem
      exact each c mem
  | job name =>
      refine each.onLastStage fun stage held c mem => held c ?_
      simpa [Stage.commands, Stage.push, Job.ofName] using mem
  | command c source =>
      rcases source with ⟨fresh, scripted⟩ | handed
      · exact each.push (new c fresh scripted)
      · exact each.push (given c handed)
  | allowStage => exact each.onLastStage fun _ held => held
  | allowJob => exact each.onLastJob fun _ held => held

theorem Handle.each_chain (new : ∀ c : Command, c.Fresh → c.action.Scripted → P c) {calls : List Call}
    (given : ∀ c, Call.command c ∈ calls → P c) (handle : Handle) (each : p.Each P) :
    (chain handle p calls).1.Each P := by
  induction calls generalizing handle p with
  | nil => exact each
  | cons call rest ih =>
      rw [chain]
      cases done : handle.call call p with
      -- The first call that fails ends the chain, and what is built stays.
      | error e => exact each
      | ok result =>
          rcases result with ⟨handle', q⟩
          have kept : q.Each P := by
            refine (edit_of_call done).each new (fun c handed => given c ?_) each
            rw [handed]
            exact List.mem_cons_self
          exact ih (fun c mem => given c (List.mem_cons_of_mem _ mem)) handle' kept

namespace Pipeline

theorem each_build (new : ∀ c : Command, c.Fresh → c.action.Scripted → P c) {calls : List Call}
    (given : ∀ c, Call.command c ∈ calls → P c) (each : p.Each P) : (p.build calls).1.Each P :=
  Handle.each_chain new given .pipeline each

/-- Commands of a loaded file are new. -/
theorem each_ofFile (new : ∀ c : Command, c.Fresh → c.action.Scripted → P c) {fs : FileSystem}
    {directory : Location} {runId : Nat} {ids : IdSupply} {path : Path} {loaded : Pipeline}
    (accepted : ofFile fs directory runId ids path = .ok loaded) : loaded.Each P := by
  intro c mem
  rcases exists_origin_of_mem accepted mem with ⟨origin, ⟨action, allowFailure⟩, id, rfl⟩
  cases action with
  | run script => exact new _ rfl (Action.scripted_ofScript script)
  | readInto path variableName => exact new _ rfl trivial
  | print params => exact new _ rfl trivial

end Pipeline
end
end CiPipeline
