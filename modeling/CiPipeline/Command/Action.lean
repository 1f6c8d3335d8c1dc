import CiPipeline.Command.Parameter
import CiPipeline.Script

/-!
# Action — what a command does

A command runs a process, works on a file or prints a line.

* `FileOperation`: what is done with a file;
* `Action`: the three kinds with their parameters;
* `Action.display`, `Action.name`: how an action is shown.
-/

namespace CiPipeline

inductive FileOperation where
  | read
  | write
deriving DecidableEq, Repr, Inhabited

namespace FileOperation

def name : FileOperation → String
  | read => "read"
  | write => "write"

def all : List FileOperation := [read, write]

end FileOperation

inductive Action where
  /-- A process; `script` is what was written, `program` and `args` what is started. -/
  | run (script program : String) (args : List String)
  | file (operation : FileOperation) (path : Path) (variableName : String)
  | print (params : List Parameter)
deriving DecidableEq, Repr, Inhabited

namespace Action

def ofScript (script : String) : Action :=
  let (program, args) := Script.split script
  run script program args

def name : Action → String
  | run .. => "run"
  | file .. => "file"
  | print _ => "print"

def display : Action → String
  | run script _ _ => script
  | file operation path variableName =>
    "file " ++ operation.name ++ " " ++ path.text ++ " -> " ++ variableName
  | print params => "print " ++ " ".intercalate (params.map Parameter.display)

def script? : Action → Option String
  | run script _ _ => some script
  | _ => none

end Action
end CiPipeline
