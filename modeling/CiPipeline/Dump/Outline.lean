import CiPipeline.Dump.Tree

/-!
# Outline — a pipeline as an indented list of lines

* `Pipeline.overview`: a line for each stage, job and command;
* `Pipeline.render`: the pipeline in one of the two formats.
-/

namespace CiPipeline

namespace Command

def outline (c : Command) : String := "    CMD: " ++ c.action.display ++ "\n"

end Command

namespace Job

def outline (j : Job) : String :=
  "  JOB: " ++ j.id ++ "\n" ++ String.join (j.commands.map Command.outline)

end Job

namespace Stage

def outline (stage : Stage) : String :=
  "STAGE: " ++ stage.id ++ "\n" ++ String.join (stage.jobs.map Job.outline)

end Stage

namespace Pipeline

def overview (p : Pipeline) : String := String.join (p.stages.map Stage.outline)

def render (p : Pipeline) : DumpFormat → String
  | .json => p.json
  | .overview => p.overview

end Pipeline
end CiPipeline
