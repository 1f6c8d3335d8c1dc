/-!
# State — the outcome of a node

Stages, jobs and commands have a state.  A parent goes on past a node whose status is true: a node
that passed or whose failure is allowed.

* `State`: not run, passed, failed;
* `Runnable`: what a parent needs to know of a child;
* `Runnable.status`: whether a parent goes on.
-/

namespace CiPipeline

inductive State where
  | unstarted
  | passed
  | failed
deriving DecidableEq, Repr, Inhabited

namespace State

def isPassed (s : State) : Bool := s == passed

def isFailed (s : State) : Bool := s == failed

def isUnstarted (s : State) : Bool := s == unstarted

def display : State → String
  | unstarted => "UNSTARTED"
  | passed => "PASSED"
  | failed => "FAILED"

/-- The name in structured texts. -/
def name : State → String
  | unstarted => "unstarted"
  | passed => "passed"
  | failed => "failed"

def all : List State := [unstarted, passed, failed]

end State

class Runnable (α : Type) where
  allowFailure : α → Bool
  state : α → State

namespace Runnable

variable {α : Type} [Runnable α]

def status (a : α) : Bool := (state a).isPassed || allowFailure a

end Runnable
end CiPipeline
