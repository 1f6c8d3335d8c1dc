import CiPipeline.Stage

/-!
# Pipeline — the root of the tree

A pipeline owns its stages and the context its commands share.

* `Pipeline.ofDir`: an empty pipeline;
* `Pipeline.execute`: one run, after the results of earlier runs are cleared;
* `Pipeline.append`: the stages of another pipeline are added at the end.
-/

namespace CiPipeline

structure Pipeline where
  stages : List Stage
  allowFailure : Bool
  state : State
  context : Context
deriving DecidableEq, Inhabited

namespace Pipeline

def ofDir (baseDir : Path) (runId : Nat) : Pipeline :=
  ⟨[], false, .unstarted, .ofDir baseDir runId⟩

def baseDir (p : Pipeline) : Path := p.context.baseDir

def store (p : Pipeline) : Store := p.context.store

def withAllowFailure (p : Pipeline) (allowFailure : Bool) : Pipeline :=
  { p with allowFailure := allowFailure }

def display (p : Pipeline) : String := "Pipeline: " ++ toString p.stages.length ++ " stages"

def setVariable (p : Pipeline) (name : String) (value : Value) (overwrite : Bool) :
    Except PipelineError Pipeline := do
  let store ← p.store.set name value overwrite
  .ok { p with context := { p.context with store := store } }

/-- Adds the stages of another pipeline; its variables and flags stay behind. -/
def append (p loaded : Pipeline) : Pipeline := { p with stages := p.stages ++ loaded.stages }

instance : Runnable Pipeline := ⟨allowFailure, state⟩

variable {σ : Type}

def execute (env : Environment σ) (p : Pipeline) (s : σ) : Pipeline × σ :=
  let (state, stages, context, s) :=
    Run.inOrder (Stage.execute env) (p.stages.map Stage.reset) (p.context, s)
  ({ p with state := state, stages := stages, context := context }, s)

end Pipeline
end CiPipeline
