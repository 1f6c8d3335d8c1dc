import CiPipeline.Command.Codec
import CiPipeline.Dump.Format
import CiPipeline.Pipeline.Basic

/-!
# Tree — a pipeline as JSON

The dump shows every stage, job and command with its identifier and its flag.

* `Pipeline.toTree`: the dump as a tree;
* `Pipeline.json`: the dump as a text.
-/

namespace CiPipeline

namespace Command

/-- The program or operation, where the action has one. -/
def dumpedOperation : Action → List (String × Json.Tree)
  | .run _ program _ => [("command", .string program)]
  | .file operation _ _ => [("command", .string operation.name)]
  | .print _ => []

def dumpedParams : Action → Json.Tree
  | .run _ _ args => .array (args.map .string)
  | .file _ path variableName => .array [.string path.text, .string variableName]
  | .print params => .array (params.map Parameter.toTree)

def dumpedScript : Action → List (String × Json.Tree)
  | .run script _ _ => [("script", .string script)]
  | _ => []

def toTree (c : Command) : Json.Tree :=
  .object ([("allowFailure", .bool c.allowFailure)] ++ dumpedOperation c.action
    ++ [("id", .string c.id), ("params", dumpedParams c.action)] ++ dumpedScript c.action
    ++ [("type", .string c.action.name)])

end Command

def Job.toTree (j : Job) : Json.Tree :=
  .object [("allowFailure", .bool j.allowFailure), ("id", .string j.id), ("name", .string j.name),
    ("commands", .array (j.commands.map Command.toTree))]

def Stage.toTree (stage : Stage) : Json.Tree :=
  .object [("allowFailure", .bool stage.allowFailure), ("id", .string stage.id),
    ("name", .string stage.name), ("jobs", .array (stage.jobs.map Job.toTree))]

namespace Pipeline

def toTree (p : Pipeline) : Json.Tree :=
  .object [("stages", .array (p.stages.map Stage.toTree))]

def json (p : Pipeline) : String := p.toTree.pretty

end Pipeline
end CiPipeline
