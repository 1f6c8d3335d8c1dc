import CiPipeline.Command.Codec
import CiPipeline.Yaml.Decode

/-!
# Document — values, parameters, states and actions in YAML texts
-/

namespace CiPipeline

open Yaml

namespace Value

def ofDocument (d : Document) : Except DecodeError Value := decode (d.datum .shape)

end Value

namespace Parameter

def ofDocument (d : Document) : Except DecodeError Parameter := decode (d.datum .shape)

end Parameter

namespace State

def ofDocument (d : Document) : Except DecodeError State := (d.variant names).map ofIndex

end State

namespace FileOperation

def ofDocument (d : Document) : Except DecodeError FileOperation := (d.variant names).map ofIndex

end FileOperation

namespace Action

def ofDocument (d : Document) : Except DecodeError Action := do
  let datum ← d.kinded typeKey "internally tagged enum CommandKind"
  ofTagged (some typeKey) (some ".[0]") datum

end Action
end CiPipeline
