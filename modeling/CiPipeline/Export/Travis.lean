import CiPipeline.Export.Provider
import CiPipeline.Pipeline.Basic
import CiPipeline.Yaml.Writer

/-!
# Travis — pipelines as configuration files of Travis CI

Only processes are exported, as the script lines they were written as.  A line that prints its name
stands in front of each stage and each job, and the shell traces commands unless the stage may
fail.

* `TravisConfig`: the configuration;
* `Pipeline.toTravis`: the configuration of a pipeline;
* `TravisConfig.write`, `Pipeline.export`: its text.
-/

namespace CiPipeline

structure TravisConfig where
  language : String
  nodeVersions : List String
  cachedDirectories : List String
  script : List String
deriving DecidableEq, Repr

namespace Command

def scriptLines (commands : List Command) : List String :=
  commands.filterMap fun c => c.action.script?

end Command

namespace Job

def marker (name : String) : String := "printf -- \"JOB: " ++ name ++ "\""

def travisScript (j : Job) : List String := marker j.name :: Command.scriptLines j.commands

end Job

namespace Stage

def marker (name : String) : String := "printf -- \"STAGE: " ++ name ++ "\""

def tracing (allowFailure : Bool) : String := if allowFailure then "set +x" else "set -x"

def travisScript (stage : Stage) : List String :=
  marker stage.name :: tracing stage.allowFailure :: stage.jobs.flatMap Job.travisScript

end Stage

namespace TravisConfig

def ofScript (script : List String) : TravisConfig := ⟨"node_js", ["8"], ["node_modules"], script⟩

open Yaml in
def fields (c : TravisConfig) : List (String × Form) :=
  [("language", .text c.language), ("node_js", .list c.nodeVersions),
    ("cache", .record [("directories", .list c.cachedDirectories)]), ("script", .list c.script)]

def write (c : TravisConfig) : String := Yaml.Form.write c.fields

end TravisConfig

namespace Pipeline

def toTravis (p : Pipeline) : TravisConfig := .ofScript (p.stages.flatMap Stage.travisScript)

def exportText (p : Pipeline) : Provider → String
  | .travis => p.toTravis.write

/-- The configuration for the provider with a name. -/
def exportFor (p : Pipeline) (provider : String) : Except PipelineError String :=
  (Provider.ofId provider).map p.exportText

end Pipeline
end CiPipeline
