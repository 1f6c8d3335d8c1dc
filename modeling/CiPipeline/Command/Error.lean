import CiPipeline.Command.Action

/-!
# Error — why a command failed

* `CommandError`: the causes that are recorded on a command;
* `CommandError.code`: the result code of a cause;
* `ResultCode`: the codes of results that are no exit codes.
-/

namespace CiPipeline

namespace ResultCode

def success : Int := 0

def unstarted : Int := -1

def unsupportedOperation : Int := -2

def fileNotFound : Int := -3

def general : Int := -10000

end ResultCode

inductive CommandError where
  | unsupportedOperation (operation : FileOperation)
  | fileNotFound (path : Path)
  | spawn (program : String) (problem : IoProblem)
  | terminated (program : String)
  | io (problem : IoProblem)
deriving DecidableEq, Repr

namespace CommandError

def message : CommandError → String
  | unsupportedOperation operation => "Unsupported file operation \"" ++ operation.name ++ "\""
  | fileNotFound path => "File not found: " ++ path.text
  | spawn program problem => "Failed to spawn '" ++ program ++ "': " ++ problem.message
  | terminated program => "'" ++ program ++ "' was terminated by a signal"
  | io problem => "IO error: " ++ problem.message

def code : CommandError → Int
  | unsupportedOperation _ => ResultCode.unsupportedOperation
  | fileNotFound _ => ResultCode.fileNotFound
  | spawn .. => ResultCode.general
  | terminated _ => ResultCode.general
  | io _ => ResultCode.general

theorem code_ne_success (error : CommandError) : error.code ≠ ResultCode.success := by
  cases error <;> simp [code, ResultCode.success, ResultCode.unsupportedOperation,
    ResultCode.fileNotFound, ResultCode.general]

end CommandError
end CiPipeline
