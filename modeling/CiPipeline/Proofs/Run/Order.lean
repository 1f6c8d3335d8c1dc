import CiPipeline.Run.Sequence

/-!
# Order — what running children in order does

A run over children is described once, by a relation between the children before it, the state of
their parent and the children after it.  What else there is to say of a run is read off this
relation.

* `halts`, `haltedBefore`: a child that ends the run, and whether one stands before an index;
* `Ordered Ran before state after`: the children up to the first whose status is false were `Ran`,
  the others are as before;
* `ordered_inOrder`: every run is of this kind;
* `Verdict`, `Ordered.verdict`: what the state of the parent says about its children.
-/

namespace CiPipeline
namespace Run

variable {α C D : Type} [Runnable α]

/-! ## Children that end a run -/

/-- A failure that is not allowed. -/
def halts (a : α) : Bool := (Runnable.state a).isFailed && !Runnable.allowFailure a

/-- Whether an earlier sibling of the child at `i` halts. -/
def haltedBefore (children : List α) (i : Nat) : Bool := (children.take i).any halts

@[simp] theorem haltedBefore_zero (children : List α) : haltedBefore children 0 = false := by
  simp [haltedBefore]

@[simp] theorem haltedBefore_cons_succ (a : α) (as : List α) (i : Nat) :
    haltedBefore (a :: as) (i + 1) = (halts a || haltedBefore as i) := by
  simp [haltedBefore]

/-- Of a child that has run, the status tells whether it halts. -/
theorem status_eq_not_halts {a : α} (started : Runnable.state a ≠ .unstarted) :
    Runnable.status a = !halts a := by
  cases state : Runnable.state a with
  | unstarted => exact absurd state started
  | passed => simp [Runnable.status, halts, state, State.isPassed, State.isFailed]
  | failed => simp [Runnable.status, halts, state, State.isPassed, State.isFailed]

/-! ## The relation -/

inductive Ordered (Ran : α → α → Prop) : List α → State → List α → Prop where
  | nil : Ordered Ran [] .passed []
  | next {a b : α} {as bs : List α} {state : State} :
      Ran a b → Runnable.status b = true → Ordered Ran as state bs →
        Ordered Ran (a :: as) (taint (Runnable.state b) state) (b :: bs)
  | halt {a b : α} {as : List α} :
      Ran a b → Runnable.status b = false →
        Ordered Ran (a :: as) (taint (Runnable.state b) .passed) (b :: as)

theorem inOrder_cons_next {step : α → C → α × C} {a : α} {as : List α} {c : C}
    (go : Runnable.status (step a c).1 = true) :
    inOrder step (a :: as) c =
      (taint (Runnable.state (step a c).1) (inOrder step as (step a c).2).1,
        (step a c).1 :: (inOrder step as (step a c).2).2.1,
        (inOrder step as (step a c).2).2.2) := by
  simp [inOrder, go]

theorem inOrder_cons_halt {step : α → C → α × C} {a : α} {as : List α} {c : C}
    (stop : Runnable.status (step a c).1 = false) :
    inOrder step (a :: as) c =
      (taint (Runnable.state (step a c).1) .passed, (step a c).1 :: as, (step a c).2) := by
  simp [inOrder, stop]

theorem inOrder_singleton (step : α → C → α × C) (a : α) (c : C) :
    inOrder step [a] c =
      (taint (Runnable.state (step a c).1) .passed, [(step a c).1], (step a c).2) := by
  cases go : Runnable.status (step a c).1 with
  | true => rw [inOrder_cons_next go]; rfl
  | false => exact inOrder_cons_halt go

/-- A run is ordered by what each step does, in worlds that satisfy an invariant of the steps. -/
theorem ordered_inOrder (Ran : α → α → Prop) (I : C → Prop) {step : α → C → α × C}
    (keeps : ∀ a c, I c → Ran a (step a c).1 ∧ I (step a c).2)
    (children : List α) (c : C) (start : I c) :
    Ordered Ran children (inOrder step children c).1 (inOrder step children c).2.1 ∧
      I (inOrder step children c).2.2 := by
  -- Each step hands its own world on, so the induction is for all worlds.
  induction children generalizing c with
  | nil => exact ⟨.nil, start⟩
  | cons a as ih =>
      rcases keeps a c start with ⟨ran, kept⟩
      cases status : Runnable.status (step a c).1 with
      | true =>
          rw [inOrder_cons_next status]
          have rest := ih (step a c).2 kept
          exact ⟨.next ran status rest.1, rest.2⟩
      | false =>
          rw [inOrder_cons_halt status]
          exact ⟨.halt ran status, kept⟩

/-- A step that forgets part of its world runs the same children to the same end. -/
theorem inOrder_map (step : α → C → α × C) (fine : α → D → α × D) (forget : D → C)
    (same : ∀ a d, step a (forget d) = ((fine a d).1, forget (fine a d).2))
    (children : List α) (d : D) :
    inOrder step children (forget d) =
      ((inOrder fine children d).1, (inOrder fine children d).2.1,
        forget (inOrder fine children d).2.2) := by
  induction children generalizing d with
  | nil => rfl
  | cons a as ih =>
      -- Both runs see the same status, so they stop at the same child.
      cases status : Runnable.status (fine a d).1 with
      | true => simp [inOrder, same, status, ih]
      | false => simp [inOrder, same, status]

/-- What the steps add to a log is, in order, what they leave to show on the children, provided that
nothing shows on a child before its step. -/
theorem log_inOrder {β : Type} (step : α → C → α × C) (log : C → List β) (shown : α → List β)
    (children : List α)
    (adds : ∀ a ∈ children, ∀ c, log (step a c).2 = log c ++ shown (step a c).1)
    (clear : ∀ a ∈ children, shown a = []) (c : C) :
    log (inOrder step children c).2.2 =
      log c ++ (inOrder step children c).2.1.flatMap shown := by
  induction children generalizing c with
  | nil => simp [inOrder]
  | cons a as ih =>
      have added := adds a List.mem_cons_self c
      have tail := ih (fun b mem => adds b (List.mem_cons_of_mem _ mem))
        (fun b mem => clear b (List.mem_cons_of_mem _ mem)) (step a c).2
      cases status : Runnable.status (step a c).1 with
      | true =>
          rw [inOrder_cons_next status]
          simp [tail, added]
      | false =>
          rw [inOrder_cons_halt status]
          -- The siblings that are left out show nothing.
          have none : as.flatMap shown = [] := by
            simpa using fun b mem => clear b (List.mem_cons_of_mem _ mem)
          simp [added, none]

/-! ## Reading the relation -/

namespace Ordered

variable {Ran : α → α → Prop} {before after : List α} {state : State}

theorem length_eq (run : Ordered Ran before state after) : after.length = before.length := by
  induction run with
  | nil => rfl
  | next _ _ _ ih => simp [ih]
  | halt _ _ => simp

theorem isSome_getElem? (run : Ordered Ran before state after) (i : Nat) :
    (after[i]?).isSome = (before[i]?).isSome := by
  have length := run.length_eq
  by_cases bound : i < after.length
  · rw [List.getElem?_eq_getElem bound, List.getElem?_eq_getElem (by omega)]
    rfl
  · rw [List.getElem?_eq_none (by omega), List.getElem?_eq_none (by omega)]

/-- What no child loses by running, the children keep. -/
theorem map_eq {β : Type} {f : α → β} (run : Ordered Ran before state after)
    (keeps : ∀ a b, Ran a b → f b = f a) : after.map f = before.map f := by
  induction run with
  | nil => rfl
  | next ran _ _ ih => simp [keeps _ _ ran, ih]
  | halt ran _ => simp [keeps _ _ ran]

theorem settled (run : Ordered Ran before state after) : state ≠ .unstarted := by
  induction run with
  | nil => simp
  | next _ _ _ ih =>
      unfold taint
      split
      · simp
      · exact ih
  | halt _ _ =>
      unfold taint
      split <;> simp

/-- A child behind one that halts is as before; any other has been run. -/
theorem getElem? (run : Ordered Ran before state after)
    (started : ∀ a b, Ran a b → Runnable.state b ≠ .unstarted) {i : Nat} {b : α}
    (found : after[i]? = some b) :
    ∃ a, before[i]? = some a ∧
      (haltedBefore after i = false ∧ Ran a b ∨ haltedBefore after i = true ∧ b = a) := by
  induction run generalizing i with
  | nil => simp at found
  | @next a₀ b₀ as bs state ran go _ ih =>
      -- A child that has run and let the run go on does not halt.
      have passes : halts b₀ = false := by
        simpa [status_eq_not_halts (started _ _ ran)] using go
      cases i with
      | zero =>
          have same : b₀ = b := by simpa using found
          exact ⟨a₀, rfl, Or.inl ⟨rfl, same ▸ ran⟩⟩
      | succ i => simpa [passes] using ih (by simpa using found)
  | @halt a₀ b₀ as ran stop =>
      -- Everything behind the child that stopped the run is as before.
      have stops : halts b₀ = true := by
        simpa [status_eq_not_halts (started _ _ ran)] using stop
      cases i with
      | zero =>
          have same : b₀ = b := by simpa using found
          exact ⟨a₀, rfl, Or.inl ⟨rfl, same ▸ ran⟩⟩
      | succ i => exact ⟨b, by simpa using found, Or.inr ⟨by simp [stops], rfl⟩⟩

end Ordered

/-! ## Verdicts -/

/-- A state that decides between two conditions of which exactly one holds. -/
inductive Verdict (clean tainted : Prop) : State → Prop where
  | passed : clean → ¬ tainted → Verdict clean tainted .passed
  | failed : ¬ clean → tainted → Verdict clean tainted .failed

namespace Verdict

variable {clean tainted : Prop} {state : State}

theorem passed_iff (v : Verdict clean tainted state) : state = .passed ↔ clean := by
  cases v with
  | passed clean _ => simpa using clean
  | failed unclean _ => simpa using unclean

theorem failed_iff (v : Verdict clean tainted state) : state = .failed ↔ tainted := by
  cases v with
  | passed _ untainted => simpa using untainted
  | failed _ tainted => simpa using tainted

theorem failed_iff_not (v : Verdict clean tainted state) : state = .failed ↔ ¬ clean := by
  cases v with
  | passed clean _ => simpa using clean
  | failed unclean _ => simpa using unclean

theorem congr {clean' tainted' : Prop} (v : Verdict clean tainted state) (same : clean ↔ clean')
    (same' : tainted ↔ tainted') : Verdict clean' tainted' state := by
  rwa [← propext same, ← propext same']

end Verdict

/-- When each child that has run decides about itself, the parent decides about all of them: also
about those that were left out, because a run only stops at a failure. -/
theorem Ordered.verdict {Ran : α → α → Prop} {before after : List α} {state : State}
    {clean tainted : α → Prop} (run : Ordered Ran before state after)
    (decides : ∀ a b, Ran a b → Verdict (clean b) (tainted b) (Runnable.state b)) :
    Verdict (∀ b ∈ after, clean b) (∃ b ∈ after, tainted b) state := by
  induction run with
  | nil => exact .passed (by simp) (by simp)
  | @next a b as bs rest ran go _ ih =>
      have first := decides a b ran
      cases state : Runnable.state b with
      | unstarted => cases state ▸ first
      | passed =>
          -- A clean child leaves the decision to the others.
          have fine := first.passed_iff.1 state
          have untainted : ¬ tainted b := fun bad => by simp [first.failed_iff.2 bad] at state
          have result : taint .passed rest = rest := by simp [taint, State.isFailed]
          rw [result]
          exact ih.congr (by simp [fine]) (by simp [untainted])
      | failed =>
          -- A tainted child decides, whatever comes after it.
          have bad := first.failed_iff.1 state
          have unclean := first.failed_iff_not.1 state
          exact .failed (by simp [unclean]) ⟨b, List.mem_cons_self, bad⟩
  | @halt a b as ran stop =>
      have first := decides a b ran
      -- Only a failure stops a run, so the children that are left out need no verdict.
      have failed : Runnable.state b = .failed := by
        cases state : Runnable.state b with
        | unstarted => cases state ▸ first
        | passed => simp [Runnable.status, state, State.isPassed] at stop
        | failed => rfl
      have bad := first.failed_iff.1 failed
      have unclean := first.failed_iff_not.1 failed
      rw [failed]
      exact .failed (by simp [unclean]) ⟨b, List.mem_cons_self, bad⟩

end Run
end CiPipeline
