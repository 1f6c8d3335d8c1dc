import CiPipeline.Pipeline.Error

/-!
# Format — the two forms in which a pipeline is shown
-/

namespace CiPipeline

inductive DumpFormat where
  | json
  | overview
deriving DecidableEq, Repr

namespace DumpFormat

instance : Inhabited DumpFormat := ⟨overview⟩

def name : DumpFormat → String
  | json => "json"
  | overview => "overview"

def ofName (s : String) : Except PipelineError DumpFormat :=
  match s with
  | "json" => .ok json
  | "overview" => .ok overview
  | other => .error (.serialization ("unknown dump format \"" ++ other ++ "\""))

end DumpFormat
end CiPipeline
