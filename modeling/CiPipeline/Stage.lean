import CiPipeline.Job

/-!
# Stage — an ordered list of jobs
-/

namespace CiPipeline

structure Stage where
  name : String
  allowFailure : Bool
  jobs : List Job
  state : State
deriving DecidableEq, Repr, Inhabited

namespace Stage

def ofName (name : String) : Stage := ⟨name, false, [], .unstarted⟩

def id (stage : Stage) : String := Slug.ofName stage.name

def display (stage : Stage) : String :=
  "Stage(" ++ stage.id ++ "): " ++ toString stage.jobs.length ++ " jobs"

def push (stage : Stage) (j : Job) : Stage := { stage with jobs := stage.jobs ++ [j] }

def withAllowFailure (stage : Stage) (allowFailure : Bool) : Stage :=
  { stage with allowFailure := allowFailure }

def reset (stage : Stage) : Stage :=
  { stage with state := .unstarted, jobs := stage.jobs.map Job.reset }

instance : Runnable Stage := ⟨allowFailure, state⟩

def execute {σ : Type} (env : Environment σ) (stage : Stage) (world : Context × σ) :
    Stage × Context × σ :=
  let (state, jobs, world) := Run.inOrder (Job.execute env) stage.jobs world
  ({ stage with state := state, jobs := jobs }, world)

end Stage
end CiPipeline
