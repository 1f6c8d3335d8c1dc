import CiPipeline.Command.Basic
import CiPipeline.Run.Sequence
import CiPipeline.Slug

/-!
# Job — an ordered list of commands
-/

namespace CiPipeline

structure Job where
  name : String
  allowFailure : Bool
  commands : List Command
  state : State
deriving DecidableEq, Repr, Inhabited

namespace Job

def ofName (name : String) : Job := ⟨name, false, [], .unstarted⟩

def id (j : Job) : String := Slug.ofName j.name

def display (j : Job) : String :=
  "Job(" ++ j.id ++ "): " ++ toString j.commands.length ++ " commands"

def push (j : Job) (c : Command) : Job := { j with commands := j.commands ++ [c] }

def withAllowFailure (j : Job) (allowFailure : Bool) : Job :=
  { j with allowFailure := allowFailure }

def reset (j : Job) : Job :=
  { j with state := .unstarted, commands := j.commands.map Command.reset }

instance : Runnable Job := ⟨allowFailure, state⟩

def execute {σ : Type} (env : Environment σ) (j : Job) (world : Context × σ) :
    Job × Context × σ :=
  let (state, commands, world) := Run.inOrder (Command.execute env) j.commands world
  ({ j with state := state, commands := commands }, world)

end Job
end CiPipeline
