import CiPipeline.Run.Environment
import CiPipeline.State

/-!
# Command — the unit of work of a pipeline

A command has an identifier, which it is made with, an action, a flag that allows it to fail, and the
state and result of its last execution.

* `CommandResult`: what an execution leaves behind;
* `Command`: the command, its constructors and `Command.reset`;
* `Command.execute`: one execution in an environment.
-/

namespace CiPipeline

structure CommandResult where
  code : Int
  /-- The contents of a file that was read. -/
  data : Option String
  /-- The line that was printed. -/
  output : Option String
  error : Option CommandError
deriving DecidableEq, Repr

namespace CommandResult

def ofCode (code : Int) : CommandResult := ⟨code, none, none, none⟩

def ofError (error : CommandError) : CommandResult := ⟨error.code, none, none, some error⟩

def ofData (contents : String) : CommandResult := ⟨ResultCode.success, some contents, none, none⟩

def ofOutput (line : String) : CommandResult := ⟨ResultCode.success, none, some line, none⟩

/-- The result of a command that has not run. -/
def unstarted : CommandResult := ofCode ResultCode.unstarted

instance : Inhabited CommandResult := ⟨unstarted⟩

end CommandResult

structure Command where
  /-- Drawn when the command is made, and kept from then on. -/
  id : String
  action : Action
  allowFailure : Bool
  state : State
  result : CommandResult
deriving DecidableEq, Repr, Inhabited

namespace Command

/-- A new command, with the identifier that is drawn for it. -/
def ofAction (action : Action) (id : String) : Command := ⟨id, action, false, .unstarted, .unstarted⟩

def run (script : String) (id : String) : Command := ofAction (.ofScript script) id

def readInto (path : Path) (variableName : String) (id : String) : Command :=
  ofAction (.file .read path variableName) id

def print (params : List Parameter) (id : String) : Command := ofAction (.print params) id

def withAllowFailure (c : Command) (allowFailure : Bool) : Command :=
  { c with allowFailure := allowFailure }

def reset (c : Command) : Command := { c with state := .unstarted, result := .unstarted }

instance : Runnable Command := ⟨allowFailure, state⟩

/-! ## Execution -/

variable {σ : Type}

def runProcess (env : Environment σ) (program : String) (args : List String) (context : Context)
    (s : σ) : CommandResult × σ :=
  let (outcome, s) := env.spawn program args context.baseDir s
  match outcome with
  | .ok (.code code) => (.ofCode code, s)
  | .ok .signal => (.ofError (.terminated program), s)
  | .error problem => (.ofError (.spawn program problem), s)

/-- Reads a file into a variable, whatever the variable held. -/
def runFile (env : Environment σ) (operation : FileOperation) (path : Path) (variableName : String)
    (context : Context) (s : σ) : CommandResult × Context :=
  match operation with
  | .write => (.ofError (.unsupportedOperation .write), context)
  | .read =>
    let path := context.resolve path
    if env.present path s then
      match env.readText path s with
      | .ok contents =>
        (.ofData contents, { context with store := context.store.insert variableName (.text contents) })
      | .error problem => (.ofError (.io problem), context)
    else (.ofError (.fileNotFound path), context)

/-- The line of a print command: an unassigned reference prints nothing. -/
def printedLine (params : List Parameter) (store : Store) : String :=
  " ".intercalate (params.map fun p => ((p.resolve store).map Value.display).getD "")

def runPrint (env : Environment σ) (params : List Parameter) (context : Context) (s : σ) :
    CommandResult × σ :=
  let line := printedLine params context.store
  let (outcome, s) := env.printLine line s
  match outcome with
  | .ok () => (.ofOutput line, s)
  | .error problem => (.ofError (.io problem), s)

def dispatch (env : Environment σ) (action : Action) (context : Context) (s : σ) :
    CommandResult × Context × σ :=
  match action with
  | .run _ program args =>
    let (result, s) := runProcess env program args context s
    (result, context, s)
  | .file operation path variableName =>
    let (result, context) := runFile env operation path variableName context s
    (result, context, s)
  | .print params =>
    let (result, s) := runPrint env params context s
    (result, context, s)

/-- A command passes exactly when its result code is zero. -/
def stateOf (result : CommandResult) : State :=
  if result.code = ResultCode.success then .passed else .failed

def execute (env : Environment σ) (c : Command) (world : Context × σ) : Command × Context × σ :=
  let (result, context, s) := dispatch env c.action world.1 world.2
  ({ c with state := stateOf result, result := result }, context, s)

end Command
end CiPipeline
