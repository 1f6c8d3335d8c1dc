import CiPipeline.Command.Error

/-!
# Environment — the world a pipeline runs in

Commands start processes, read files and write lines.  What comes of it is up to the environment,
which may change its own state `σ` with every operation.

* `Exit`: how a process ended;
* `Environment σ`: the operations;
* `Context`: what the commands of one pipeline share.
-/

namespace CiPipeline

inductive Exit where
  | code (code : Int)
  | signal
deriving DecidableEq, Repr, Inhabited

namespace Exit

def code? : Exit → Option Int
  | code c => some c
  | signal => none

def isSuccess (e : Exit) : Bool := e == code 0

end Exit

structure Environment (σ : Type) where
  /-- Runs a program with arguments in a directory until it ends. -/
  spawn : String → List String → Path → σ → Except IoProblem Exit × σ
  /-- Whether a path can be found to exist. -/
  present : Path → σ → Bool
  /-- The text of a whole file. -/
  readText : Path → σ → Except IoProblem String
  /-- Writes a line to the standard output. -/
  printLine : String → σ → Except IoProblem Unit × σ

structure Context where
  store : Store
  /-- Where processes run and relative paths begin. -/
  baseDir : Path
  /-- Tells pipelines apart; a copy keeps it. -/
  runId : Nat
deriving DecidableEq, Inhabited

namespace Context

def ofDir (baseDir : Path) (runId : Nat) : Context := ⟨.empty, baseDir, runId⟩

def resolve (c : Context) (path : Path) : Path := c.baseDir.join path

end Context
end CiPipeline
