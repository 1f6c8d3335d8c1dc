import CiPipeline.Pipeline.Error

/-!
# Provider — the services a pipeline can be exported to
-/

namespace CiPipeline

inductive Provider where
  | travis
deriving DecidableEq, Repr, Inhabited

namespace Provider

def id : Provider → String
  | travis => "travis"

def ofId (s : String) : Except PipelineError Provider :=
  match s with
  | "travis" => .ok travis
  | other => .error (.unknownProvider other)

end Provider
end CiPipeline
