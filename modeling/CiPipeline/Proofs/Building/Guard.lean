import Mathlib.Data.List.Basic
import CiPipeline.Proofs.Definition.Calls

/-!
# Guard — what the calls of a pipeline need

A job is added to the last stage and a command to the last job of the last stage.  A pipeline
refuses a call that finds no such place, and one that would read into a variable that has a value.
It checks this before it changes anything, so that a call is refused and leaves no trace, or it adds
one node.

* `Pipeline.Trailing`: the three ways in which a pipeline may end;
* `Call.Asks`: the calls that need a place, and what they say that they need it for;
* `Refused`: the reasons for which a pipeline refuses a call;
* `Effect`: what a call does otherwise;
* `Handle.refused_or_effect`: the calls of a pipeline come to one or the other;
* `root_calls_are_guarded`: so they are guarded, and a call that is refused leaves no trace.
-/

namespace CiPipeline

/-- A call that reads into a variable must keep the value that is there, or it may assign one. -/
theorem Store.held_or_free (store : Store) (variableName : String) (overwrite : Bool) :
    (overwrite = false ∧ ∃ existing, store.get? variableName = some existing) ∨
      (overwrite = true ∨ store.get? variableName = none) := by
  cases overwrite with
  | true => exact .inr (.inl rfl)
  | false =>
      cases held : store.get? variableName with
      | none => exact .inr (.inr rfl)
      | some existing => exact .inl ⟨rfl, existing, rfl⟩

/-! ## How a pipeline ends -/

namespace Pipeline

/-- A pipeline may end without a stage, with a stage that has no job, or with a job. -/
inductive Trailing : Pipeline → Prop
  | nothing {p : Pipeline} (empty : p.stages = []) : Trailing p
  | stage (front : Pipeline) (stage : Stage) (empty : stage.jobs = []) :
      Trailing (front.push stage)
  | job (front : Pipeline) (stage : Stage) (job : Job) : Trailing (front.push (stage.push job))

theorem trailing (p : Pipeline) : p.Trailing := by
  rcases p with ⟨stages, allowFailure, state, context⟩
  rcases List.eq_nil_or_concat' stages with rfl | ⟨front, last, rfl⟩
  · exact .nothing rfl
  · -- The last stage is taken off, and then its last job.
    rcases last with ⟨name, allows, jobs, stateOfLast⟩
    rcases List.eq_nil_or_concat' jobs with rfl | ⟨others, j, rfl⟩
    · exact .stage ⟨front, allowFailure, state, context⟩ ⟨name, allows, [], stateOfLast⟩ rfl
    · exact .job ⟨front, allowFailure, state, context⟩ ⟨name, allows, others, stateOfLast⟩ j

theorem getLast?_push (p : Pipeline) (stage : Stage) :
    (p.push stage).stages.getLast? = some stage := by
  simp [push]

/-! ## Whether there is a place -/

variable {p : Pipeline} {stage : Stage} {reason : String} {e : PipelineError}

theorem requireJob_of_empty (empty : p.stages = []) (reason : String) :
    p.requireJob reason = .error (.noStage reason) := by
  simp [requireJob, empty]

theorem requireJob_push (p : Pipeline) (empty : stage.jobs = []) (reason : String) :
    (p.push stage).requireJob reason = .error (.noJob reason) := by
  simp [requireJob, getLast?_push, empty]

theorem requireJob_push_push (p : Pipeline) (stage : Stage) (job : Job) (reason : String) :
    (p.push (stage.push job)).requireJob reason = .ok () := by
  simp [requireJob, getLast?_push, Stage.push]

theorem addCommand_error (missing : p.requireJob reason = .error e) (c : Command) :
    p.addCommand c reason = .error e := by
  simp [addCommand, missing, bind, Except.bind]

theorem addCommand_push (p : Pipeline) (stage : Stage) (job : Job) (c : Command)
    (reason : String) :
    (p.push (stage.push job)).addCommand c reason = .ok (p.push (stage.push (job.push c))) := by
  simp [addCommand, requireJob_push_push, bind, Except.bind]

/-! ## Whether a variable is free -/

section

variable {path : Path} {variableName id : String} {existing : Value} {overwrite : Bool}

theorem readIntoCommand_held (held : p.store.get? variableName = some existing) (path : Path)
    (id : String) :
    p.readIntoCommand path variableName false id =
      .error (.duplicateVariable variableName existing) := by
  simp [readIntoCommand, Store.claim, held, bind, Except.bind]

theorem readIntoCommand_free (free : overwrite = true ∨ p.store.get? variableName = none)
    (path : Path) (id : String) :
    p.readIntoCommand path variableName overwrite id =
      .ok (.readInto (p.baseDir.join path) variableName id) := by
  have claimed : p.store.claim variableName overwrite = .ok () := by
    rcases free with rfl | unheld
    · exact Definition.claim_overwrite p.store variableName
    · simp [Store.claim, unheld]
  simp [readIntoCommand, claimed, bind, Except.bind, Context.resolve, baseDir]

theorem addReadInto_error (missing : p.requireJob "to open a file" = .error e) :
    p.addReadInto path variableName overwrite id = .error e := by
  simp [addReadInto, missing, bind, Except.bind]

/-- With a job at hand, what is left to decide is whether the command can be made. -/
theorem addReadInto_push (p : Pipeline) (stage : Stage) (job : Job) (path : Path)
    (variableName : String) (overwrite : Bool) (id : String) :
    (p.push (stage.push job)).addReadInto path variableName overwrite id =
      ((p.push (stage.push job)).readIntoCommand path variableName overwrite id).map
        fun c => p.push (stage.push (job.push c)) := by
  cases made : (p.push (stage.push job)).readIntoCommand path variableName overwrite id with
  | error e => simp [addReadInto, requireJob_push_push, made, bind, Except.bind, Except.map]
  | ok c =>
      simp [addReadInto, requireJob_push_push, made, addCommand_push, bind, Except.bind,
        Except.map]

end
end Pipeline

/-! ## Refusals and effects -/

/-- The calls of a pipeline that need a place at its end, and what they say they need it for. -/
inductive Call.Asks : Call → String → Prop
  | job (name : String) : Asks (.job name) "to add a job"
  | run (script id : String) : Asks (.run script id) "to add a command"
  | print (params : List Parameter) (id : String) : Asks (.print params id) "to print something"
  | readInto (path : Path) (variableName : String) (overwrite : Bool) (id : String) :
      Asks (.readInto path variableName overwrite id) "to open a file"

/-- The reasons for which a pipeline refuses a call, each with the error that says so.  A missing
stage comes before a missing job, and both come before a variable that has a value. -/
inductive Refused (p : Pipeline) (c : Call) (purpose : String) : PipelineError → Prop
  | noStage (empty : p.stages = []) : Refused p c purpose (.noStage purpose)
  | noJob {front : Pipeline} {stage : Stage} (ends : p = front.push stage) (empty : stage.jobs = [])
      (needs : ∀ name, c ≠ .job name) : Refused p c purpose (.noJob purpose)
  | duplicateVariable {front : Pipeline} {stage : Stage} {job : Job} {path : Path}
      {variableName id : String} {existing : Value} (ends : p = front.push (stage.push job))
      (reads : c = .readInto path variableName false id)
      (held : p.store.get? variableName = some existing) :
      Refused p c purpose (.duplicateVariable variableName existing)

/-- The command that a call adds in a directory. -/
def Call.command? (baseDir : Path) : Call → Option Command
  | .run script id => some (.run script id)
  | .print params id => some (.print params id)
  | .readInto path variableName _ id => some (.readInto (baseDir.join path) variableName id)
  | .command c => some c
  | .install production id => some (.run (Npm.installScript production) id)
  | .publish id => some (.run Npm.publishScript id)
  | .npmRun script args id => some (.run (Npm.runScript script args) id)
  | _ => none

/-- What a call on a handle does, and the handle that it returns.  A node is added at the end, the
last stage or job is allowed to fail, or nothing changes. -/
inductive Effect (handle : Handle) (c : Call) (p : Pipeline) : Handle → Pipeline → Prop
  | stage {name : String} (adds : c = .stage name) :
      Effect handle c p .stage (p.push (.ofName name))
  | job {name : String} {front : Pipeline} {stage : Stage} (adds : c = .job name)
      (ends : p = front.push stage) :
      Effect handle c p .job (front.push (stage.push (.ofName name)))
  | command {command : Command} {front : Pipeline} {stage : Stage} {job : Job}
      (adds : c.command? p.baseDir = some command) (ends : p = front.push (stage.push job)) :
      Effect handle c p .job (front.push (stage.push (job.push command)))
  | allowStage {front : Pipeline} {stage : Stage} (on : handle = .stage)
      (allows : c = .allowFailure) (ends : p = front.push stage) :
      Effect handle c p .stage (front.push (stage.withAllowFailure true))
  | allowJob {front : Pipeline} {stage : Stage} {job : Job} (on : handle = .job)
      (allows : c = .allowFailure) (ends : p = front.push (stage.push job)) :
      Effect handle c p .job (front.push (stage.push (job.withAllowFailure true)))
  | npm (on : handle = .job) (asks : c = .npm) : Effect handle c p .npm p

namespace Handle

variable {p : Pipeline} {c : Call} {purpose : String} {cause : PipelineError}

/-- A call that adds a command fails as the search for its job does. -/
theorem call_of_missing (asks : c.Asks purpose) (needs : ∀ name, c ≠ .job name)
    (missing : p.requireJob purpose = .error cause) :
    call .pipeline c p = .error (.pipeline cause) := by
  cases asks with
  | job name => exact absurd rfl (needs name)
  | run script id => simp [call, Pipeline.addRun, Pipeline.addCommand_error missing, root]
  | print params id => simp [call, Pipeline.addPrint, Pipeline.addCommand_error missing, root]
  | readInto path variableName overwrite id =>
      simp [call, Pipeline.addReadInto_error missing, root]

/-- A reason to refuse is a refusal, as the checks come in the order of the reasons. -/
theorem call_of_refused (asks : c.Asks purpose) (refused : Refused p c purpose cause) :
    call .pipeline c p = .error (.pipeline cause) := by
  cases refused with
  | noStage empty =>
      -- The call for a job looks for a stage by itself, and its answer is the same.
      by_cases job : ∃ name, c = .job name
      · rcases job with ⟨name, rfl⟩
        cases asks
        simp [call, Pipeline.addJob, empty, root]
      · have needs : ∀ name, c ≠ .job name := fun name same => job ⟨name, same⟩
        exact call_of_missing asks needs (Pipeline.requireJob_of_empty empty purpose)
  | @noJob front stage ends empty needs =>
      subst ends
      exact call_of_missing asks needs (Pipeline.requireJob_push front empty purpose)
  | @duplicateVariable front stage job path variableName id existing ends reads held =>
      subst ends reads
      cases asks
      have refused := Pipeline.readIntoCommand_held held path id
      simp [call, Pipeline.addReadInto_push, refused, Except.map, root]

/-- A pipeline that ends with a job takes every command that it does not refuse for a variable. -/
theorem refused_or_effect_of_job (front : Pipeline) (stage : Stage) (job : Job)
    (asks : c.Asks purpose) :
    (∃ cause, Refused (front.push (stage.push job)) c purpose cause) ∨
      ∃ q, call .pipeline c (front.push (stage.push job)) = .ok (.job, q) ∧
        Effect .pipeline c (front.push (stage.push job)) .job q := by
  cases asks with
  | job name =>
      refine .inr ⟨front.push ((stage.push job).push (.ofName name)), ?_, .job rfl rfl⟩
      simp [call, Pipeline.addJob_push, root]
  | run script id =>
      refine .inr ⟨_, ?_, .command rfl rfl⟩
      simp [call, Pipeline.addRun, Pipeline.addCommand_push, root]
  | print params id =>
      refine .inr ⟨_, ?_, .command rfl rfl⟩
      simp [call, Pipeline.addPrint, Pipeline.addCommand_push, root]
  | readInto path variableName overwrite id =>
      -- The job is there, so that only the variable can stand against the call.
      rcases Store.held_or_free front.store variableName overwrite with
        ⟨rfl, existing, held⟩ | free
      · exact .inl ⟨_, .duplicateVariable rfl rfl held⟩
      · have made := Pipeline.readIntoCommand_free (p := front.push (stage.push job)) free path id
        refine .inr ⟨_, ?_, .command rfl rfl⟩
        simp [call, Pipeline.addReadInto_push, made, Except.map, root]

/-- A call of a pipeline that is not refused has its effect. -/
theorem refused_or_effect (asks : c.Asks purpose) (p : Pipeline) :
    (∃ cause, Refused p c purpose cause) ∨
      ∃ q, call .pipeline c p = .ok (.job, q) ∧ Effect .pipeline c p .job q := by
  cases p.trailing with
  | nothing empty => exact .inl ⟨_, .noStage empty⟩
  | job front stage job => exact refused_or_effect_of_job front stage job asks
  | stage front stage empty =>
      cases asks with
      | job name =>
          refine .inr ⟨front.push (stage.push (.ofName name)), ?_, .job rfl rfl⟩
          simp [call, Pipeline.addJob_push, root]
      | run script id => exact .inl ⟨_, .noJob rfl empty (by simp)⟩
      | print params id => exact .inl ⟨_, .noJob rfl empty (by simp)⟩
      | readInto path variableName overwrite id => exact .inl ⟨_, .noJob rfl empty (by simp)⟩

/-! ### Chains of calls -/

theorem chain_cons_error {handle : Handle} {e : CallError}
    (failed : call handle c p = .error e) (rest : List Call) :
    chain handle p (c :: rest) = (p, some e) := by
  rw [chain, failed]

end Handle

/-- A pipeline refuses a call for exactly the reasons that there are, with the error that belongs to
the first of them; it is then as it was, and calls that follow are not made.  Otherwise the call
succeeds and adds one node at the end of the last stage or of its last job, and nothing else changes.
This is so whatever was built, loaded or executed before. -/
theorem root_calls_are_guarded (p : Pipeline) (c : Call) (purpose : String)
    (asks : c.Asks purpose) :
    (∀ (q : Pipeline) (e : CallError), p.build [c] = (q, some e) ↔
      q = p ∧ ∃ cause, e = .pipeline cause ∧ Refused p c purpose cause) ∧
    (∀ cause rest, Refused p c purpose cause → p.build (c :: rest) = (p, some (.pipeline cause))) ∧
    ((∃ q, p.build [c] = (q, none)) ↔ ∀ cause, ¬ Refused p c purpose cause) ∧
    (∀ q, p.build [c] = (q, none) → Effect .pipeline c p .job q) := by
  have refuses : ∀ cause rest, Refused p c purpose cause →
      p.build (c :: rest) = (p, some (.pipeline cause)) := by
    intro cause rest refused
    exact Handle.chain_cons_error (Handle.call_of_refused asks refused) rest
  have succeeds : ∀ q, Handle.call .pipeline c p = .ok (.job, q) → p.build [c] = (q, none) := by
    intro q done
    exact Handle.chain_cons done []
  -- A chain of one call has one result, and in either case the other one is out of the question.
  rcases Handle.refused_or_effect asks p with ⟨cause, refused⟩ | ⟨q, done, effect⟩
  · have built := refuses cause [] refused
    refine ⟨?_, refuses, ?_, ?_⟩
    · intro q e
      constructor
      · intro failed
        cases built.symm.trans failed
        exact ⟨rfl, cause, rfl, refused⟩
      · rintro ⟨rfl, cause', rfl, refused'⟩
        exact refuses cause' [] refused'
    · constructor
      · rintro ⟨q, done⟩
        cases built.symm.trans done
      · intro free
        exact absurd refused (free cause)
    · intro q done
      cases built.symm.trans done
  · have built := succeeds q done
    have free : ∀ cause, ¬ Refused p c purpose cause := by
      intro cause refused
      cases built.symm.trans (refuses cause [] refused)
    refine ⟨?_, refuses, ⟨fun _ => free, fun _ => ⟨q, built⟩⟩, ?_⟩
    · intro q' e
      constructor
      · intro failed
        cases built.symm.trans failed
      · rintro ⟨rfl, cause, rfl, refused⟩
        exact absurd refused (free cause)
    · intro q' done
      cases built.symm.trans done
      exact effect

/-- The last stage came without a job, so that a command finds no job, although the stage before has
one.  A job finds its stage. -/
theorem root_calls_are_guarded_jobless :
    let p := ((Pipeline.ofDir ⟨""⟩ 0).build [.stage "s", .job "j"]).1.append
      ((Pipeline.ofDir ⟨""⟩ 0).build [.stage "t"]).1
    (Call.run "make" "c").Asks "to add a command" ∧ (Call.job "k").Asks "to add a job" ∧
      p.build [.run "make" "c", .stage "u"] = (p, some (.pipeline (.noJob "to add a command"))) ∧
      ∃ q, p.build [.job "k"] = (q, none) ∧ Effect .pipeline (.job "k") p .job q ∧
        q.stages.map (fun stage => stage.jobs.map Job.name) = [["j"], ["k"]] := by
  intro p
  have command : (Call.run "make" "c").Asks "to add a command" := .run "make" "c"
  have job : (Call.job "k").Asks "to add a job" := .job "k"
  have ends : p = ((Pipeline.ofDir ⟨""⟩ 0).build [.stage "s", .job "j"]).1.push (.ofName "t") := rfl
  have refused : Refused p (.run "make" "c") "to add a command" (.noJob "to add a command") :=
    .noJob ends rfl (by simp)
  rcases root_calls_are_guarded p _ _ command with ⟨_, refuses, _, _⟩
  rcases root_calls_are_guarded p _ _ job with ⟨_, _, _, effects⟩
  exact ⟨command, job, refuses _ [.stage "u"] refused, _, rfl, effects _ rfl, rfl⟩

end CiPipeline
