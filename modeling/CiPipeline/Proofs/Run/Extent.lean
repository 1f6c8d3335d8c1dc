import CiPipeline.Proofs.Run.Taint

/-!
# Extent — how far a run gets

A run calls its children one after another, up to the first whose status is false after its call.  At
the children behind that one it does not look: they keep their states and results, which may come from
an earlier run.

* `Run.calls`, `Run.called`, `Run.left`: what comes of children that are all called;
* `Run.extent`: how many of its children a run calls;
* `Run.inOrder_eq`, `Run.inOrder_recording`: it calls these, and leaves the others alone;
* `Job.execute_eq`, `Stage.execute_eq`: jobs and stages on their own;
* `execution_stays_within_extent`: runs of any children, and repeated executions without a reset.
-/

namespace CiPipeline
namespace Run

variable {α C : Type}

/-! ## Calling all children -/

/-- The calls of a step on children in their order, each in the world that the call before it left. -/
def calls (step : α → C → α × C) : List α → C → List (α × C)
  | [], _ => []
  | a :: as, c => (a, c) :: calls step as (step a c).2

/-- The children as these calls leave them. -/
def called (step : α → C → α × C) (children : List α) (c : C) : List α :=
  (calls step children c).map fun call => (step call.1 call.2).1

/-- The world that these calls leave. -/
def left (step : α → C → α × C) (children : List α) (c : C) : C :=
  children.foldl (fun c a => (step a c).2) c

section

variable (step : α → C → α × C) (children : List α) (c : C)

@[simp] theorem called_nil : called step [] c = [] := rfl

@[simp] theorem called_cons (a : α) (as : List α) :
    called step (a :: as) c = (step a c).1 :: called step as (step a c).2 := rfl

/-- Each child is called once, in order. -/
@[simp] theorem map_fst_calls : (calls step children c).map Prod.fst = children := by
  induction children generalizing c with
  | nil => rfl
  | cons a as ih => simp [calls, ih]

@[simp] theorem length_calls : (calls step children c).length = children.length := by
  rw [← List.length_map Prod.fst, map_fst_calls]

/-- The first calls do not depend on the children behind them. -/
theorem calls_take (n : Nat) : calls step (children.take n) c = (calls step children c).take n := by
  induction children generalizing c n with
  | nil => simp [calls]
  | cons a as ih =>
      cases n with
      | zero => rfl
      | succ n => simp [calls, ih]

end

/-! ## The children that a run calls -/

variable [Runnable α]

/-- Failed when one of the children failed, passed otherwise. -/
def aggregate (done : List α) : State :=
  if ∃ b ∈ done, Runnable.state b = .failed then .failed else .passed

/-- The length of the shortest beginning of the children that ends in one whose status is false after
its call; of all children, if there is no such beginning. -/
def extent (step : α → C → α × C) (children : List α) (c : C) : Nat :=
  match (called step children c).findIdx? fun b => !Runnable.status b with
  | some i => i + 1
  | none => children.length

variable {step : α → C → α × C} {a : α} {as : List α} {c : C}

theorem taint_aggregate (b : α) (done : List α) :
    taint (Runnable.state b) (aggregate done) = aggregate (b :: done) := by
  cases state : Runnable.state b with
  | unstarted => simp [taint, aggregate, state, State.isFailed]
  | passed => simp [taint, aggregate, state, State.isFailed]
  | failed => simp [taint, aggregate, state, State.isFailed]

theorem extent_cons_next (go : Runnable.status (step a c).1 = true) :
    extent step (a :: as) c = extent step as (step a c).2 + 1 := by
  unfold extent
  rw [called_cons, List.findIdx?_cons]
  simp only [go, Bool.not_true, Bool.false_eq_true, if_false]
  cases (called step as (step a c).2).findIdx? fun b => !Runnable.status b with
  | none => rfl
  | some i => rfl

theorem extent_cons_halt (stop : Runnable.status (step a c).1 = false) :
    extent step (a :: as) c = 1 := by
  simp [extent, List.findIdx?_cons, stop]

section

variable (step : α → C → α × C) (children : List α) (c : C)

theorem extent_le : extent step children c ≤ children.length := by
  induction children generalizing c with
  | nil => exact Nat.le_refl 0
  | cons a as ih =>
      cases status : Runnable.status (step a c).1 with
      | true =>
          rw [extent_cons_next status]
          exact Nat.succ_le_succ (ih _)
      | false =>
          rw [extent_cons_halt status]
          exact Nat.succ_le_succ (Nat.zero_le _)

/-- A run is the calls of the children that it gets to; the other children are as before. -/
theorem inOrder_eq :
    inOrder step children c =
      (aggregate (called step (children.take (extent step children c)) c),
        called step (children.take (extent step children c)) c ++
          children.drop (extent step children c),
        left step (children.take (extent step children c)) c) := by
  -- The first child goes in the world of the run, the others in the one that it leaves.
  induction children generalizing c with
  | nil => simp [inOrder, aggregate, extent, left]
  | cons a as ih =>
      cases status : Runnable.status (step a c).1 with
      | true =>
          rw [inOrder_cons_next status, ih, extent_cons_next status, taint_aggregate]
          rfl
      | false =>
          rw [inOrder_cons_halt status, extent_cons_halt status]
          -- The run ends here, so the state is that of the first child alone.
          have alone : taint (Runnable.state (step a c).1) .passed = aggregate [(step a c).1] :=
            taint_aggregate (step a c).1 []
          rw [alone]
          rfl

/-- A run that is watched calls these children and no others. -/
theorem inOrder_recording (record : List (α × C)) :
    (inOrder (recording step) children (record, c)).2.2.1 =
      record ++ calls step (children.take (extent step children c)) c := by
  induction children generalizing record c with
  | nil => simp [inOrder, calls]
  | cons a as ih =>
      -- The call is noted behind those before it.
      have noted : (recording step a (record, c)).2 = (record ++ [(a, c)], (step a c).2) := rfl
      cases status : Runnable.status (step a c).1 with
      | true =>
          have go : Runnable.status (recording step a (record, c)).1 = true := status
          rw [inOrder_cons_next go, noted, ih, extent_cons_next status, List.append_assoc]
          rfl
      | false =>
          have stop : Runnable.status (recording step a (record, c)).1 = false := status
          rw [inOrder_cons_halt stop, noted, extent_cons_halt status]
          rfl

/-- The child at an index, called or left alone. -/
theorem getElem?_inOrder (i : Nat) :
    (inOrder step children c).2.1[i]? =
      if i < extent step children c then
        (calls step children c)[i]?.map fun call => (step call.1 call.2).1
      else children[i]? := by
  have length : (called step (children.take (extent step children c)) c).length =
      extent step children c := by
    simp [called, extent_le]
  rw [inOrder_eq]
  by_cases reached : i < extent step children c
  · rw [if_pos reached, List.getElem?_append_left (by rwa [length]), called, List.getElem?_map,
      calls_take, List.getElem?_take_of_lt reached]
  · rw [if_neg reached, List.getElem?_append_right (by rw [length]; omega), length,
      List.getElem?_drop]
    congr 1
    omega

/-- A run goes on past every child that it gets to, except the last. -/
theorem status_before_extent :
    ∀ b ∈ (called step (children.take (extent step children c)) c).dropLast,
      Runnable.status b = true := by
  induction children generalizing c with
  | nil => simp
  | cons a as ih =>
      cases status : Runnable.status (step a c).1 with
      | true =>
          rw [extent_cons_next status, List.take_succ_cons, called_cons]
          intro b mem
          -- The first child is not the last one only if another is called after it.
          cases rest : called step (as.take (extent step as (step a c).2)) (step a c).2 with
          | nil => simp [rest] at mem
          | cons d ds =>
              rw [rest, List.dropLast_cons_cons] at mem
              rcases List.mem_cons.1 mem with rfl | later
              · exact status
              · exact ih (step a c).2 b (rest ▸ later)
      | false =>
          rw [extent_cons_halt status]
          simp

/-- A run that leaves children alone ends at a child whose status is false. -/
theorem status_at_extent (short : extent step children c < children.length) :
    ∃ b, (called step (children.take (extent step children c)) c).getLast? = some b ∧
      Runnable.status b = false := by
  induction children generalizing c with
  | nil => cases short
  | cons a as ih =>
      cases status : Runnable.status (step a c).1 with
      | true =>
          rw [extent_cons_next status] at short ⊢
          rcases ih (step a c).2 (Nat.lt_of_succ_lt_succ short) with ⟨b, last, stops⟩
          refine ⟨b, ?_, stops⟩
          rw [List.take_succ_cons, called_cons, List.getLast?_cons, last]
          rfl
      | false =>
          refine ⟨(step a c).1, ?_, status⟩
          rw [extent_cons_halt status]
          rfl

end
end Run

/-! ## Jobs and stages on their own -/

variable {σ : Type} (env : Environment σ)

theorem Job.execute_eq (j : Job) (world : Context × σ) :
    let n := Run.extent (Command.execute env) j.commands world
    let done := Run.called (Command.execute env) (j.commands.take n) world
    j.execute env world =
      ({ j with state := Run.aggregate done, commands := done ++ j.commands.drop n },
        Run.left (Command.execute env) (j.commands.take n) world) := by
  intro n done
  rw [Job.execute, Run.inOrder_eq]

theorem Stage.execute_eq (stage : Stage) (world : Context × σ) :
    let n := Run.extent (Job.execute env) stage.jobs world
    let done := Run.called (Job.execute env) (stage.jobs.take n) world
    stage.execute env world =
      ({ stage with state := Run.aggregate done, jobs := done ++ stage.jobs.drop n },
        Run.left (Job.execute env) (stage.jobs.take n) world) := by
  intro n done
  rw [Stage.execute, Run.inOrder_eq]

def Stage.command? (stage : Stage) (i k : Nat) : Option Command :=
  stage.jobs[i]?.bind fun j => j.commands[k]?

/-- Whether an execution of a stage gets to the command at `k` of the job at `i`. -/
def Stage.Reaches (stage : Stage) (world : Context × σ) (i k : Nat) : Prop :=
  i < Run.extent (Job.execute env) stage.jobs world ∧
    ∃ j met, (Run.calls (Job.execute env) stage.jobs world)[i]? = some (j, met) ∧
      k < Run.extent (Command.execute env) j.commands met

theorem Job.getElem?_execute (j : Job) (world : Context × σ) {k : Nat}
    (missed : Run.extent (Command.execute env) j.commands world ≤ k) :
    (j.execute env world).1.commands[k]? = j.commands[k]? := by
  have child := Run.getElem?_inOrder (Command.execute env) j.commands world k
  rwa [if_neg (Nat.not_lt.2 missed)] at child

theorem Stage.getElem?_execute (stage : Stage) (world : Context × σ) {i : Nat}
    (missed : Run.extent (Job.execute env) stage.jobs world ≤ i) :
    (stage.execute env world).1.jobs[i]? = stage.jobs[i]? := by
  have child := Run.getElem?_inOrder (Job.execute env) stage.jobs world i
  rwa [if_neg (Nat.not_lt.2 missed)] at child

/-- A command that an execution does not get to is as before. -/
theorem Stage.command?_execute (stage : Stage) (world : Context × σ) {i k : Nat}
    (missed : ¬ stage.Reaches env world i k) :
    (stage.execute env world).1.command? i k = stage.command? i k := by
  by_cases reached : i < Run.extent (Job.execute env) stage.jobs world
  · -- The job is executed, in the world that its call meets, and does not get to the command.
    have child := Run.getElem?_inOrder (Job.execute env) stage.jobs world i
    rw [if_pos reached] at child
    have stood : stage.jobs[i]? =
        (Run.calls (Job.execute env) stage.jobs world)[i]?.map Prod.fst := by
      rw [← List.getElem?_map, Run.map_fst_calls]
    change (stage.execute env world).1.jobs[i]? = _ at child
    rw [command?, command?, child, stood]
    cases found : (Run.calls (Job.execute env) stage.jobs world)[i]? with
    | none => rfl
    | some visit =>
        have beyond : Run.extent (Command.execute env) visit.1.commands visit.2 ≤ k := by
          refine Nat.le_of_not_lt fun within => ?_
          exact missed ⟨reached, visit.1, visit.2, found, within⟩
        exact visit.1.getElem?_execute env visit.2 beyond
  · rw [command?, command?, stage.getElem?_execute env world (Nat.le_of_not_lt reached)]

/-- A run calls its children up to the first whose status is false after its call, each once, in order
and in the world that the one before it left.  The others keep their states and results.  The state
says whether one of those that were called failed.  So a job or a stage that is executed again without
a reset changes, itself apart, only what this execution gets to. -/
theorem execution_stays_within_extent :
    (∀ (α C : Type) [Runnable α] (step : α → C → α × C) (children : List α) (c : C),
      let n := Run.extent step children c
      let done := Run.called step (children.take n) c
      let run := Run.inOrder step children c
      (∀ b ∈ done.dropLast, Runnable.status b = true) ∧
      (n < children.length → ∃ b, done.getLast? = some b ∧ Runnable.status b = false) ∧
      (Run.inOrder (Run.recording step) children ([], c)).2.2.1 =
        Run.calls step (children.take n) c ∧
      run = (Run.aggregate done, done ++ children.drop n, Run.left step (children.take n) c)) ∧
    (∀ (σ : Type) (env : Environment σ) (j : Job) (earlier : List (Context × σ))
        (world : Context × σ),
      let before := j.rerun env earlier
      let after := (before.execute env world).1
      let n := Run.extent (Command.execute env) before.commands world
      after = { before with
        state := after.state
        commands := Run.called (Command.execute env) (before.commands.take n) world ++
          before.commands.drop n }) ∧
    (∀ (σ : Type) (env : Environment σ) (stage : Stage) (earlier : List (Context × σ))
        (world : Context × σ),
      let before := stage.rerun env earlier
      let after := (before.execute env world).1
      let n := Run.extent (Job.execute env) before.jobs world
      after = { before with
        state := after.state
        jobs := Run.called (Job.execute env) (before.jobs.take n) world ++ before.jobs.drop n } ∧
      ∀ i k, ¬ before.Reaches env world i k → after.command? i k = before.command? i k) := by
  refine ⟨?_, ?_, ?_⟩
  · intro α C _ step children c
    exact ⟨Run.status_before_extent step children c, Run.status_at_extent step children c,
      Run.inOrder_recording step children c [], Run.inOrder_eq step children c⟩
  · intro σ env j earlier world before after n
    have whole := congrArg Prod.fst (before.execute_eq env world)
    change after = _ at whole
    rw [whole]
  · intro σ env stage earlier world before after n
    have whole := congrArg Prod.fst (before.execute_eq env world)
    change after = _ at whole
    refine ⟨?_, fun i k => before.command?_execute env world⟩
    rw [whole]

end CiPipeline
