import CiPipeline.Pipeline.Basic

/-!
# Build — adding stages, jobs and commands

Nodes are added at the end: a job to the last stage, a command to the last job of the last stage.
The calls of the pipeline itself fail when there is no such stage or job.  A call returns a handle
on what it added, and a handle takes further calls.

* `Pipeline.addStage`, `addJob`, `addRun`, `addReadInto`, `addPrint`: the calls of a pipeline;
* `Handle`: what a call returns;
* `Call`: the calls, and `Handle.call`: their effect;
* `Pipeline.build`: a chain of calls, up to the first that fails.
-/

namespace CiPipeline
namespace Pipeline

/-! ## The last stage and the last job -/

/-- Changes the last element of a list. -/
def changeLast {α : Type} (f : α → α) : List α → List α
  | [] => []
  | [a] => [f a]
  | a :: as => a :: changeLast f as

theorem changeLast_append_singleton {α : Type} (f : α → α) (as : List α) (a : α) :
    changeLast f (as ++ [a]) = as ++ [f a] := by
  induction as with
  | nil => rfl
  | cons b bs ih =>
      -- The rest is not empty, so the first element is not the last one.
      cases bs with
      | nil => rfl
      | cons b' bs => simpa [changeLast] using ih

def onLastStage (p : Pipeline) (f : Stage → Stage) : Pipeline :=
  { p with stages := changeLast f p.stages }

def onLastJob (p : Pipeline) (f : Job → Job) : Pipeline :=
  p.onLastStage fun stage => { stage with jobs := changeLast f stage.jobs }

/-- Whether there is a job to add commands to. -/
def requireJob (p : Pipeline) (reason : String) : Except PipelineError Unit :=
  match p.stages.getLast? with
  | none => .error (.noStage reason)
  | some stage => if stage.jobs.isEmpty then .error (.noJob reason) else .ok ()

/-! ## Calls of the pipeline -/

def addStage (p : Pipeline) (name : String) : Pipeline :=
  { p with stages := p.stages ++ [.ofName name] }

def addJob (p : Pipeline) (name : String) : Except PipelineError Pipeline :=
  if p.stages.isEmpty then .error (.noStage "to add a job")
  else .ok (p.onLastStage (·.push (.ofName name)))

def addCommand (p : Pipeline) (c : Command) (reason : String) : Except PipelineError Pipeline := do
  p.requireJob reason
  .ok (p.onLastJob (·.push c))

def addRun (p : Pipeline) (script : String) (id : String) : Except PipelineError Pipeline :=
  p.addCommand (.run script id) "to add a command"

def addPrint (p : Pipeline) (params : List Parameter) (id : String) :
    Except PipelineError Pipeline :=
  p.addCommand (.print params id) "to print something"

/-- A command that reads a file, its path taken relative to the base directory. -/
def readIntoCommand (p : Pipeline) (path : Path) (variableName : String) (overwrite : Bool)
    (id : String) : Except PipelineError Command := do
  p.store.claim variableName overwrite
  .ok (.readInto (p.context.resolve path) variableName id)

def addReadInto (p : Pipeline) (path : Path) (variableName : String) (overwrite : Bool)
    (id : String) : Except PipelineError Pipeline := do
  p.requireJob "to open a file"
  let c ← p.readIntoCommand path variableName overwrite id
  p.addCommand c "to open a file"

end Pipeline

/-! ## Handles -/

/-- What the last call returned: the pipeline, its last stage, its last job, or the commands of the
package manager for that job. -/
inductive Handle where
  | pipeline
  | stage
  | job
  | npm
deriving DecidableEq, Repr

/-- The calls.  A call that makes a command comes with the identifier that is drawn for it. -/
inductive Call where
  | stage (name : String)
  | job (name : String)
  | run (script : String) (id : String)
  | print (params : List Parameter) (id : String)
  | readInto (path : Path) (variableName : String) (overwrite : Bool) (id : String)
  | allowFailure
  | command (c : Command)
  | npm
  | install (production : Bool) (id : String)
  | publish (id : String)
  | npmRun (script : String) (args : Option String) (id : String)
deriving DecidableEq, Repr

namespace Npm

def installScript (production : Bool) : String :=
  if production then "npm install --production" else "npm install"

def publishScript : String := "npm publish"

/-- Arguments are passed on after two dashes. -/
def runScript (script : String) : Option String → String
  | some args => "npm run " ++ script ++ " -- " ++ args
  | none => "npm run " ++ script

end Npm

/-- Why a call in a chain fails: it has an error of its own, or the handle has no such call. -/
inductive CallError where
  | pipeline (error : PipelineError)
  | unavailable
deriving DecidableEq, Repr

namespace Handle

/-- Adds a command through a handle on a job. -/
def pushCommand (p : Pipeline) (c : Command) : Handle × Pipeline := (job, p.onLastJob (·.push c))

/-- A call of the pipeline itself. -/
def root (result : Except PipelineError Pipeline) :
    Except CallError (Handle × Pipeline) :=
  match result with
  | .ok q => .ok (job, q)
  | .error e => .error (.pipeline e)

def call (handle : Handle) (c : Call) (p : Pipeline) : Except CallError (Handle × Pipeline) :=
  match handle, c with
  | npm, .install production id => .ok (pushCommand p (.run (Npm.installScript production) id))
  | npm, .publish id => .ok (pushCommand p (.run Npm.publishScript id))
  | npm, .npmRun script args id => .ok (pushCommand p (.run (Npm.runScript script args) id))
  | npm, _ => .error .unavailable
  | _, .stage name => .ok (stage, p.addStage name)
  | pipeline, .job name => root (p.addJob name)
  | pipeline, .run script id => root (p.addRun script id)
  | pipeline, .print params id => root (p.addPrint params id)
  | pipeline, .readInto path variableName overwrite id =>
    root (p.addReadInto path variableName overwrite id)
  | pipeline, _ => .error .unavailable
  | _, .job name => .ok (job, p.onLastStage (·.push (.ofName name)))
  | stage, .allowFailure => .ok (stage, p.onLastStage (·.withAllowFailure true))
  | stage, _ => .error .unavailable
  | job, .allowFailure => .ok (job, p.onLastJob (·.withAllowFailure true))
  | job, .command c => .ok (pushCommand p c)
  | job, .run script id => .ok (pushCommand p (.run script id))
  | job, .print params id => .ok (pushCommand p (.print params id))
  | job, .readInto path variableName overwrite id =>
    match p.readIntoCommand path variableName overwrite id with
    | .ok c => .ok (pushCommand p c)
    | .error e => .error (.pipeline e)
  | job, .npm => .ok (npm, p)
  | job, _ => .error .unavailable

/-- The pipeline after a chain of calls and the error that ended it, if any. -/
def chain (handle : Handle) (p : Pipeline) : List Call → Pipeline × Option CallError
  | [] => (p, none)
  | c :: rest =>
    match handle.call c p with
    | .ok (handle, p) => chain handle p rest
    | .error e => (p, some e)

end Handle

namespace Pipeline

def build (p : Pipeline) (calls : List Call) : Pipeline × Option CallError :=
  Handle.chain .pipeline p calls

end Pipeline
end CiPipeline
