import CiPipeline.Pipeline.Build
import CiPipeline.Proofs.Run.Masking

/-!
# Masking — calls up to the identifiers that they draw

A call that makes a command draws an identifier for it.  Calls do not look at identifiers, so a masked
call does to a masked pipeline what the call does to the pipeline, and fails where it fails.

* `Call.masked`: a call that draws the mask;
* `Pipeline.onLastStage_masked`, `Pipeline.onLastJob_masked`: changes at the end of a masked pipeline;
* `Handle.call_masked`: one call under a mask.
-/

namespace CiPipeline

/-- The call with the mask for the identifier of its command. -/
def Call.masked (mask : String) : Call → Call
  | .stage name => .stage name
  | .job name => .job name
  | .run script _ => .run script mask
  | .print params _ => .print params mask
  | .readInto path variableName overwrite _ => .readInto path variableName overwrite mask
  | .allowFailure => .allowFailure
  | .command c => .command (c.masked mask)
  | .npm => .npm
  | .install production _ => .install production mask
  | .publish _ => .publish mask
  | .npmRun script args _ => .npmRun script args mask

/-! ## Calls of a pipeline -/

namespace Pipeline

/-- A change of the last element under a map that it does not see. -/
theorem changeLast_map {α : Type} {f f' g : α → α} (same : ∀ a, f (g a) = g (f' a)) (as : List α) :
    changeLast f (as.map g) = (changeLast f' as).map g := by
  induction as with
  | nil => rfl
  | cons a as ih =>
      cases as with
      | nil => simp [changeLast, same]
      | cons b bs => simpa [changeLast] using ih

variable {mask : String}

theorem onLastStage_masked {f f' : Stage → Stage}
    (same : ∀ stage : Stage, f (stage.masked mask) = (f' stage).masked mask) (p : Pipeline) :
    (p.masked mask).onLastStage f = (p.onLastStage f').masked mask := by
  simp only [onLastStage, masked, changeLast_map same]

theorem onLastJob_masked {f f' : Job → Job}
    (same : ∀ job : Job, f (job.masked mask) = (f' job).masked mask) (p : Pipeline) :
    (p.masked mask).onLastJob f = (p.onLastJob f').masked mask := by
  refine onLastStage_masked (fun stage => ?_) p
  simp only [Stage.masked, changeLast_map same]

theorem addStage_masked (p : Pipeline) (name : String) :
    (p.masked mask).addStage name = (p.addStage name).masked mask := by
  simp [addStage, masked, Stage.masked, Stage.ofName]

theorem pushJob_masked (p : Pipeline) (name : String) :
    (p.masked mask).onLastStage (·.push (.ofName name)) =
      (p.onLastStage (·.push (.ofName name))).masked mask :=
  onLastStage_masked (fun stage => by simp [Stage.push, Stage.masked, Job.masked, Job.ofName]) p

theorem pushCommand_masked (p : Pipeline) (c : Command) :
    (p.masked mask).onLastJob (·.push (c.masked mask)) =
      (p.onLastJob (·.push c)).masked mask :=
  onLastJob_masked (fun job => by simp [Job.push, Job.masked]) p

theorem allowStage_masked (p : Pipeline) :
    (p.masked mask).onLastStage (·.withAllowFailure true) =
      (p.onLastStage (·.withAllowFailure true)).masked mask := by
  refine onLastStage_masked (fun stage => ?_) p
  rfl

theorem allowJob_masked (p : Pipeline) :
    (p.masked mask).onLastJob (·.withAllowFailure true) =
      (p.onLastJob (·.withAllowFailure true)).masked mask := by
  refine onLastJob_masked (fun job => ?_) p
  rfl

theorem addJob_masked (p : Pipeline) (name : String) :
    (p.masked mask).addJob name = (p.addJob name).map (masked mask) := by
  have empty : (p.masked mask).stages.isEmpty = p.stages.isEmpty := List.isEmpty_map
  rw [addJob, addJob, empty, pushJob_masked]
  split
  · rfl
  · rfl

theorem requireJob_masked (p : Pipeline) (reason : String) :
    (p.masked mask).requireJob reason = p.requireJob reason := by
  simp only [requireJob, masked, List.getLast?_map]
  cases p.stages.getLast? with
  | none => rfl
  | some stage => simp [Stage.masked]

theorem addCommand_masked (p : Pipeline) (c : Command) (reason : String) :
    (p.masked mask).addCommand (c.masked mask) reason =
      (p.addCommand c reason).map (masked mask) := by
  unfold addCommand
  rw [requireJob_masked, pushCommand_masked]
  cases p.requireJob reason with
  | error e => rfl
  | ok => rfl

theorem readIntoCommand_masked (p : Pipeline) (path : Path) (variableName : String)
    (overwrite : Bool) (id : String) :
    (p.masked mask).readIntoCommand path variableName overwrite mask =
      (p.readIntoCommand path variableName overwrite id).map (Command.masked mask) := by
  have store : (p.masked mask).store = p.store := rfl
  unfold readIntoCommand
  rw [store]
  cases p.store.claim variableName overwrite with
  | error e => rfl
  | ok => rfl

theorem addReadInto_masked (p : Pipeline) (path : Path) (variableName : String) (overwrite : Bool)
    (id : String) :
    (p.masked mask).addReadInto path variableName overwrite mask =
      (p.addReadInto path variableName overwrite id).map (masked mask) := by
  unfold addReadInto
  rw [requireJob_masked, readIntoCommand_masked p path variableName overwrite id]
  cases p.requireJob "to open a file" with
  | error e => rfl
  | ok =>
      cases p.readIntoCommand path variableName overwrite id with
      | error e => rfl
      | ok c => exact p.addCommand_masked c "to open a file"

end Pipeline

/-! ## Calls of handles -/

namespace Handle

/-- What a call answers, with the pipeline under a mask. -/
def maskedAnswer (mask : String) (answer : Handle × Pipeline) : Handle × Pipeline :=
  (answer.1, answer.2.masked mask)

variable (mask : String)

theorem root_masked (result : Except PipelineError Pipeline) :
    root (result.map (Pipeline.masked mask)) = (root result).map (maskedAnswer mask) := by
  cases result with
  | error e => rfl
  | ok q => rfl

theorem pushCommand_masked (p : Pipeline) (c : Command) :
    pushCommand (p.masked mask) (c.masked mask) = maskedAnswer mask (pushCommand p c) := by
  rw [pushCommand, Pipeline.pushCommand_masked]
  rfl

/-- Calls come to the same whichever identifiers they draw. -/
theorem call_masked (handle : Handle) (c : Call) (p : Pipeline) :
    handle.call (c.masked mask) (p.masked mask) = (handle.call c p).map (maskedAnswer mask) := by
  -- The pipeline itself may refuse a call; the other handles change the end of the tree as it is.
  cases handle with
  | pipeline =>
      cases c with
      | stage name => exact congrArg (fun q => Except.ok (stage, q)) (p.addStage_masked name)
      | job name => exact (congrArg root (p.addJob_masked name)).trans (root_masked mask _)
      | run script id =>
          exact (congrArg root (p.addCommand_masked (.run script id) _)).trans (root_masked mask _)
      | print params id =>
          exact (congrArg root (p.addCommand_masked (.print params id) _)).trans (root_masked mask _)
      | readInto path variableName overwrite id =>
          exact (congrArg root (p.addReadInto_masked path variableName overwrite id)).trans
            (root_masked mask _)
      | _ => rfl
  | stage =>
      cases c with
      | stage name => exact congrArg (fun q => Except.ok (stage, q)) (p.addStage_masked name)
      | job name => exact congrArg (fun q => Except.ok (job, q)) (p.pushJob_masked name)
      | allowFailure => exact congrArg (fun q => Except.ok (stage, q)) p.allowStage_masked
      | _ => rfl
  | job =>
      cases c with
      | stage name => exact congrArg (fun q => Except.ok (stage, q)) (p.addStage_masked name)
      | job name => exact congrArg (fun q => Except.ok (job, q)) (p.pushJob_masked name)
      | run script id => exact congrArg Except.ok (pushCommand_masked mask p (.run script id))
      | print params id => exact congrArg Except.ok (pushCommand_masked mask p (.print params id))
      | readInto path variableName overwrite id =>
          -- Only the variable is looked up, and the store has no identifiers.
          simp only [call, Call.masked, p.readIntoCommand_masked path variableName overwrite id]
          cases p.readIntoCommand path variableName overwrite id with
          | error e => rfl
          | ok command => exact congrArg Except.ok (pushCommand_masked mask p command)
      | allowFailure => exact congrArg (fun q => Except.ok (job, q)) p.allowJob_masked
      | command command => exact congrArg Except.ok (pushCommand_masked mask p command)
      | _ => rfl
  | npm =>
      cases c with
      | install production id => exact congrArg Except.ok (pushCommand_masked mask p (.run _ id))
      | publish id => exact congrArg Except.ok (pushCommand_masked mask p (.run _ id))
      | npmRun script args id => exact congrArg Except.ok (pushCommand_masked mask p (.run _ id))
      | _ => rfl

end Handle
end CiPipeline
