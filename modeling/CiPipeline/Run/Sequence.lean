import CiPipeline.State

/-!
# Sequence — running children one after another

The children of a node run in order.  A failed child taints the parent even when its failure is
allowed; a child whose status is false is the last one to run.

* `Run.inOrder step children context`: the state of the parent, the children afterwards, and the
  context they leave behind.
-/

namespace CiPipeline
namespace Run

variable {α C : Type} [Runnable α]

/-- The state of a parent after one more child. -/
def taint (child rest : State) : State := if child.isFailed then .failed else rest

def inOrder (step : α → C → α × C) : List α → C → State × List α × C
  | [], context => (.passed, [], context)
  | child :: rest, context =>
    let (child, context) := step child context
    if Runnable.status child then
      let (state, rest, context) := inOrder step rest context
      (taint (Runnable.state child) state, child :: rest, context)
    else
      (taint (Runnable.state child) .passed, child :: rest, context)

end Run
end CiPipeline
