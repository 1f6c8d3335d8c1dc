import CiPipeline.IoProblem
import CiPipeline.Path
import CiPipeline.Store.Value

/-!
# Error — what goes wrong while a pipeline is built, loaded or exported

* `PipelineError`: the causes;
* `PipelineError.message`: their texts.
-/

namespace CiPipeline

inductive PipelineError where
  /-- A job or a command is added before there is a stage; `reason` says what for. -/
  | noStage (reason : String)
  /-- A command is added before the last stage has a job. -/
  | noJob (reason : String)
  | duplicateVariable (name : String) (existing : Value)
  /-- A definition file does not exist. -/
  | notFound (path : Path)
  /-- A file is there but defines no pipeline. -/
  | invalidExport (path : Path) (reason : String)
  | unknownProvider (name : String)
  | serialization (reason : String)
  | io (problem : IoProblem)
deriving DecidableEq, Repr

namespace PipelineError

def message : PipelineError → String
  | noStage reason => "You need a stage " ++ reason ++ " (run .stage(...))."
  | noJob reason => "You need a job " ++ reason ++ " (run .job(...))."
  | duplicateVariable name existing =>
    "The variable name \"" ++ name ++ "\" was already assigned the value " ++ existing.display
      ++ ". Specify overwrite to replace it."
  | notFound path =>
    "The pipeline definition to import at \"" ++ path.text ++ "\" could not be found."
  | invalidExport path reason =>
    "The file at \"" ++ path.text ++ "\" does not define a `pipelyne` pipeline: " ++ reason
  | unknownProvider name => "Unknown CI provider \"" ++ name ++ "\"."
  | serialization reason => "Serialization error: " ++ reason
  | io problem => "IO error: " ++ problem.message

end PipelineError
end CiPipeline
