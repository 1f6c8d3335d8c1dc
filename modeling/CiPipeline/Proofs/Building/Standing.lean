import CiPipeline.Proofs.Building.Guard
import CiPipeline.Proofs.Building.Masking

/-!
# Standing — handles and what they stand on

The calls of a handle do not look whether there is a stage or a job for them; without one they would
change nothing and report nothing.  But a handle is only returned by a call that leaves what it stands
on at the end of the tree, and as long as calls follow each other, it stays there.

* `Handle.takes`: the calls that a handle has;
* `Handle.Stands`: a pipeline ends with what a handle stands on;
* `Handle.Reaches`: calls that succeed one after another lead from handle to handle;
* `Effect.stands`, `Handle.Reaches.stands`: what one call, and a chain of calls, leave at the end;
* `Handle.answers_call`: on what it stands on, a call has its effect or is refused for a variable;
* `Handle.call_eq_root`, `Handle.call_redrawn`: and it comes to the same as the call of the pipeline,
  up to the identifier when that one draws another;
* `handles_lose_no_call`: so all of this holds in every chain.
-/

namespace CiPipeline
namespace Handle

/-! ## Handles in a chain -/

/-- The calls that a handle has. -/
def takes : Handle → Call → Bool
  | npm, .install .. | npm, .publish _ | npm, .npmRun .. => true
  | npm, _ => false
  | _, .stage _ | _, .job _ => true
  | pipeline, .run .. | pipeline, .print .. | pipeline, .readInto .. => true
  | stage, .allowFailure => true
  | job, .run .. | job, .print .. | job, .readInto .. => true
  | job, .allowFailure | job, .command _ | job, .npm => true
  | _, _ => false

/-- The pipeline ends with what the handle stands on: a stage, or a job of the last stage. -/
inductive Stands : Handle → Pipeline → Prop
  | pipeline (p : Pipeline) : Stands .pipeline p
  | stage (front : Pipeline) (stage : Stage) : Stands .stage (front.push stage)
  | job (front : Pipeline) (stage : Stage) (job : Job) :
      Stands .job (front.push (stage.push job))
  | npm (front : Pipeline) (stage : Stage) (job : Job) :
      Stands .npm (front.push (stage.push job))

/-- Calls of which none fails lead from one handle, on a pipeline, to another. -/
inductive Reaches (start : Handle) (p : Pipeline) : List Call → Handle → Pipeline → Prop
  | refl : Reaches start p [] start p
  | call {calls : List Call} {handle handle' : Handle} {q r : Pipeline} {c : Call}
      (before : Reaches start p calls handle q) (done : handle.call c q = .ok (handle', r)) :
      Reaches start p (calls ++ [c]) handle' r

/-- What a call may come to when the pipeline ends with what the handle stands on.  Only a variable
that has a value can stand against it. -/
inductive Answers (handle : Handle) (c : Call) (p : Pipeline) :
    Except CallError (Handle × Pipeline) → Prop
  | duplicate {path : Path} {variableName id : String} {existing : Value}
      (reads : c = .readInto path variableName false id)
      (held : p.store.get? variableName = some existing) :
      Answers handle c p (.error (.pipeline (.duplicateVariable variableName existing)))
  | effect {handle' : Handle} {q : Pipeline} (effect : Effect handle c p handle' q) :
      Answers handle c p (.ok (handle', q))

variable {handle handle' : Handle} {c : Call} {p q : Pipeline}

/-! ## One call -/

/-- A handle has no other calls than those in the table. -/
theorem call_unavailable_iff (handle : Handle) (c : Call) (p : Pipeline) :
    handle.call c p = .error .unavailable ↔ handle.takes c = false := by
  have root_ne : ∀ result, root result ≠ .error .unavailable := by
    intro result
    cases result with
    | error e => simp [root]
    | ok q => simp [root]
  cases handle with
  | npm => cases c <;> simp [call, takes]
  | stage => cases c <;> simp [call, takes]
  | pipeline => cases c <;> simp [call, takes, root_ne]
  | job =>
      cases c with
      | readInto path variableName overwrite id =>
          simp only [call, takes]
          cases p.readIntoCommand path variableName overwrite id with
          | error e => simp
          | ok command => simp
      | _ => simp [call, takes]

/-- A call that both the handle and the pipeline itself have comes to the same on either. -/
theorem call_eq_root (stands : handle.Stands p) (taken : handle.takes c = true)
    (root : Handle.pipeline.takes c = true) : handle.call c p = Handle.pipeline.call c p := by
  cases stands with
  | pipeline => rfl
  | npm front stage job => cases c <;> cases taken <;> cases root
  | stage front stage =>
      cases c with
      | stage name => rfl
      | job name => simp [call, Pipeline.addJob_push, Handle.root]
      | _ => simp [takes] at taken root
  | job front stage job =>
      cases c with
      | stage name => rfl
      | job name => simp [call, Pipeline.addJob_push, Handle.root]
      | run script id =>
          simp [call, pushCommand, Pipeline.addRun, Pipeline.addCommand_push, Handle.root]
      | print params id =>
          simp [call, pushCommand, Pipeline.addPrint, Pipeline.addCommand_push, Handle.root]
      | readInto path variableName overwrite id =>
          simp only [call, pushCommand, Pipeline.addReadInto_push, Pipeline.onLastJob_push]
          cases (front.push (stage.push job)).readIntoCommand path variableName overwrite id with
          | error e => rfl
          | ok command => rfl
      | _ => simp [takes] at taken root

/-- And so it does, up to the identifiers, when the call of the pipeline draws another identifier. -/
theorem call_redrawn (stands : handle.Stands p) (taken : handle.takes c = true)
    (root : Handle.pipeline.takes c = true) {mask : String} {c' : Call}
    (redrawn : c'.masked mask = c.masked mask) :
    (handle.call c p).map (maskedAnswer mask) =
      (Handle.pipeline.call c' p).map (maskedAnswer mask) :=
  calc
    (handle.call c p).map (maskedAnswer mask)
        = (Handle.pipeline.call c p).map (maskedAnswer mask) := by
          rw [call_eq_root stands taken root]
    _ = Handle.pipeline.call (c.masked mask) (p.masked mask) := (call_masked mask _ c p).symm
    _ = Handle.pipeline.call (c'.masked mask) (p.masked mask) := by rw [redrawn]
    _ = (Handle.pipeline.call c' p).map (maskedAnswer mask) := call_masked mask _ c' p

theorem Answers.of_ok (done : handle.call c p = .ok (handle', q))
    (effect : Effect handle c p handle' q) : handle.Answers c p (handle.call c p) := by
  rw [done]
  exact .effect effect

/-- A call that adds a command adds it to the job that the handle stands on. -/
theorem Answers.of_pushCommand {front : Pipeline} {stage : Stage} {job : Job} {command : Command}
    (adds : c.command? front.baseDir = some command)
    (pushes : handle.call c (front.push (stage.push job)) =
      .ok (pushCommand (front.push (stage.push job)) command)) :
    handle.Answers c (front.push (stage.push job))
      (handle.call c (front.push (stage.push job))) := by
  have pushed : pushCommand (front.push (stage.push job)) command =
      (.job, front.push (stage.push (job.push command))) := by
    simp [pushCommand]
  rw [pushed] at pushes
  exact .of_ok pushes (.command adds rfl)

theorem answers_call (inside : handle ≠ .pipeline) (stands : handle.Stands p)
    (taken : handle.takes c = true) : handle.Answers c p (handle.call c p) := by
  -- Each handle has calls of its own, and what it stands on is where they act.
  cases stands with
  | pipeline => exact absurd rfl inside
  | npm front stage job =>
      cases c with
      | install production id => exact .of_pushCommand rfl rfl
      | publish id => exact .of_pushCommand rfl rfl
      | npmRun script args id => exact .of_pushCommand rfl rfl
      | _ => cases taken
  | stage front stage =>
      cases c with
      | stage name => exact .effect (.stage rfl)
      | job name => exact .of_ok (call_job (.inl rfl) stage name) (.job rfl rfl)
      | allowFailure => exact .of_ok (by simp [call]) (.allowStage rfl rfl rfl)
      | _ => cases taken
  | job front stage job =>
      cases c with
      | stage name => exact .effect (.stage rfl)
      | job name => exact .of_ok (call_job (.inr rfl) (stage.push job) name) (.job rfl rfl)
      | run script id => exact .of_pushCommand rfl rfl
      | print params id => exact .of_pushCommand rfl rfl
      | command command => exact .of_pushCommand rfl rfl
      | allowFailure => exact .of_ok (by simp [call]) (.allowJob rfl rfl rfl)
      | npm => exact .effect (.npm rfl rfl)
      | readInto path variableName overwrite id =>
          rcases Store.held_or_free front.store variableName overwrite with
            ⟨rfl, existing, held⟩ | free
          · have refused := Pipeline.readIntoCommand_held
              (p := front.push (stage.push job)) held path id
            have answer : call .job (.readInto path variableName false id)
                (front.push (stage.push job)) =
                  .error (.pipeline (.duplicateVariable variableName existing)) := by
              simp [call, refused]
            rw [answer]
            exact .duplicate rfl held
          · have made := Pipeline.readIntoCommand_free
              (p := front.push (stage.push job)) free path id
            exact .of_pushCommand rfl (by simp [call, made])
      | _ => cases taken

/-- A call that succeeds has its effect, also when it is one of the pipeline itself. -/
theorem effect_of_call (stands : handle.Stands p) (done : handle.call c p = .ok (handle', q)) :
    Effect handle c p handle' q := by
  by_cases root : handle = .pipeline
  · -- The pipeline itself takes stages anywhere, and for the rest it looks for a place.
    subst root
    have asked : (∃ name, c = .stage name) ∨ ∃ purpose, c.Asks purpose := by
      cases c with
      | stage name => exact .inl ⟨name, rfl⟩
      | job name => exact .inr ⟨_, .job name⟩
      | run script id => exact .inr ⟨_, .run script id⟩
      | print params id => exact .inr ⟨_, .print params id⟩
      | readInto path variableName overwrite id =>
          exact .inr ⟨_, .readInto path variableName overwrite id⟩
      | _ => cases done
    rcases asked with ⟨name, rfl⟩ | ⟨purpose, asks⟩
    · cases done
      exact .stage rfl
    · rcases refused_or_effect asks p with ⟨cause, refused⟩ | ⟨q', done', effect⟩
      · cases (call_of_refused asks refused).symm.trans done
      · cases done'.symm.trans done
        exact effect
  · have taken : handle.takes c = true := by
      cases lacks : handle.takes c with
      | true => rfl
      | false => cases ((call_unavailable_iff handle c p).2 lacks).symm.trans done
    have answers := answers_call root stands taken
    rw [done] at answers
    cases answers with
    | effect effect => exact effect

end Handle

/-! ## Chains of calls -/

/-- A call leaves what the handle that it returns stands on at the end of the pipeline. -/
theorem Effect.stands {handle handle' : Handle} {c : Call} {p q : Pipeline}
    (effect : Effect handle c p handle' q) (stands : handle.Stands p) : handle'.Stands q := by
  cases effect with
  | stage adds => exact .stage p _
  | @job name front stage adds ends => exact .job front stage _
  | @command command front stage job adds ends => exact .job front stage _
  | @allowStage front stage on allows ends => exact .stage front _
  | @allowJob front stage job on allows ends => exact .job front stage _
  | npm on asks =>
      -- Nothing is added, so the job must have been there before.
      subst on
      cases stands with
      | job front stage job => exact .npm front stage job

namespace Handle

variable {handle : Handle} {p₀ p : Pipeline} {calls : List Call}

theorem Reaches.stands (reached : Reaches .pipeline p₀ calls handle p) : handle.Stands p := by
  induction reached with
  | refl => exact .pipeline p₀
  | call before done ih => exact (effect_of_call ih done).stands ih

/-- A chain goes on where its first calls have led. -/
theorem Reaches.chain_append {start : Handle} (reached : Reaches start p₀ calls handle p)
    (rest : List Call) : chain start p₀ (calls ++ rest) = chain handle p rest := by
  induction reached generalizing rest with
  | refl => rfl
  | @call calls handle handle' q r c before done ih =>
      calc
        chain start p₀ (calls ++ [c] ++ rest)
            = chain start p₀ (calls ++ c :: rest) := by simp
        _ = chain handle q (c :: rest) := ih (c :: rest)
        _ = chain handle' r rest := chain_cons done rest

end Handle

/-- A handle that a chain of calls has led to stands on a stage, or on a job of the last stage.  So
none of its calls is lost: each one changes just the end that the handle stands on, unless it would
read into a variable that has a value.  The calls that the pipeline has as well come to the same
there, and when the two draw identifiers of their own, to the same up to these. -/
theorem handles_lose_no_call (p₀ p : Pipeline) (calls : List Call) (handle : Handle)
    (reached : Handle.Reaches .pipeline p₀ calls handle p) :
    (∀ rest, p₀.build (calls ++ rest) = handle.chain p rest) ∧
    (handle = .stage → p.stages ≠ []) ∧
    (handle = .job ∨ handle = .npm → ∃ stage, p.stages.getLast? = some stage ∧ stage.jobs ≠ []) ∧
    (∀ c, handle.call c p = .error .unavailable ↔ handle.takes c = false) ∧
    (∀ c, handle ≠ .pipeline → handle.takes c = true → handle.Answers c p (handle.call c p)) ∧
    (∀ c, handle.takes c = true → Handle.pipeline.takes c = true →
      handle.call c p = Handle.pipeline.call c p ∧
      ∀ c' mask, c'.masked mask = c.masked mask →
        (handle.call c p).map (Handle.maskedAnswer mask) =
          (Handle.pipeline.call c' p).map (Handle.maskedAnswer mask)) := by
  have stands := reached.stands
  refine ⟨reached.chain_append, ?_, ?_, ?_, ?_, ?_⟩
  · rintro rfl
    cases stands with
    | stage front stage => simp [Pipeline.push]
  · intro onJob
    have ends : ∃ (front : Pipeline) (stage : Stage) (job : Job), p = front.push (stage.push job) := by
      rcases onJob with rfl | rfl
      · cases stands with
        | job front stage job => exact ⟨front, stage, job, rfl⟩
      · cases stands with
        | npm front stage job => exact ⟨front, stage, job, rfl⟩
    rcases ends with ⟨front, stage, job, rfl⟩
    exact ⟨stage.push job, Pipeline.getLast?_push front _, by simp [Stage.push]⟩
  · intro c
    exact Handle.call_unavailable_iff handle c p
  · intro c inside taken
    exact Handle.answers_call inside stands taken
  · intro c taken root
    refine ⟨Handle.call_eq_root stands taken root, ?_⟩
    intro c' mask redrawn
    exact Handle.call_redrawn stands taken root redrawn

/-- After a call of the package manager, the handle stands on the job.  It keeps a variable that has a
value, as the pipeline does, and lets only this job fail. -/
theorem handles_lose_no_call_holding :
    let p₀ : Pipeline :=
      { Pipeline.ofDir ⟨""⟩ 0 with
        context := { Context.ofDir ⟨""⟩ 0 with store := Store.empty.insert "v" (.text "x") } }
    let calls := [.stage "s", .job "j", .npm, .install true "c"]
    let p := (p₀.build calls).1
    let read := Call.readInto ⟨"V"⟩ "v" false "d"
    Handle.Reaches .pipeline p₀ calls .job p ∧
      Handle.call .job read p = .error (.pipeline (.duplicateVariable "v" (.text "x"))) ∧
      Handle.pipeline.call read p = .error (.pipeline (.duplicateVariable "v" (.text "x"))) ∧
      p₀.build (calls ++ [read]) = (p, some (.pipeline (.duplicateVariable "v" (.text "x")))) := by
  intro p₀ calls p read
  have stage : Handle.Reaches .pipeline p₀ [.stage "s"] .stage _ := .call .refl rfl
  have job : Handle.Reaches .pipeline p₀ [.stage "s", .job "j"] .job _ := .call stage rfl
  have npm : Handle.Reaches .pipeline p₀ [.stage "s", .job "j", .npm] .npm _ := .call job rfl
  have reached : Handle.Reaches .pipeline p₀ calls .job p := .call npm rfl
  rcases handles_lose_no_call p₀ p calls .job reached with ⟨build, _, _, _, _, same⟩
  have kept : Handle.pipeline.call read p =
      .error (.pipeline (.duplicateVariable "v" (.text "x"))) := by decide
  refine ⟨reached, ?_, kept, ?_⟩
  · rw [(same read rfl rfl).1]
    exact kept
  · rw [build [read]]
    exact Handle.chain_cons_error ((same read rfl rfl).1.trans kept) []

end CiPipeline
