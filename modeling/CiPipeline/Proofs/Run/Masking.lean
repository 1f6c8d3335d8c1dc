import CiPipeline.Proofs.Run.Frame

/-!
# Masking — commands without their identifiers

Each command is made with an identifier of its own, so what is made twice is not the same.  Under a
mask all commands have the same identifier, and what is left to compare is what they do and what came
of it.  Runs do not look under the mask, and of the texts only the dump shows what it hides.

* `Pipeline.masked`: a pipeline whose commands all have one identifier;
* `Command.reset_eq_iff`, `Job.reset_eq_iff`, `Stage.reset_eq_iff`: shape and identifiers are all that
  is left of a node once it is cleared;
* `Pipeline.execute_masked`: a run under a mask;
* `Pipeline.overview_masked`, `Pipeline.exportText_masked`: texts.
-/

namespace CiPipeline

/-! ## Masks -/

def Command.masked (mask : String) (c : Command) : Command := { c with id := mask }

def Job.masked (mask : String) (j : Job) : Job :=
  { j with commands := j.commands.map (Command.masked mask) }

def Stage.masked (mask : String) (stage : Stage) : Stage :=
  { stage with jobs := stage.jobs.map (Job.masked mask) }

/-- All commands have the mask for an identifier. -/
def Pipeline.masked (mask : String) (p : Pipeline) : Pipeline :=
  { p with stages := p.stages.map (Stage.masked mask) }

@[simp] theorem Job.shape_masked (mask : String) (j : Job) : (j.masked mask).shape = j.shape := by
  simp [shape, masked, id, Function.comp_def, Command.shape, Command.masked]

@[simp] theorem Stage.shape_masked (mask : String) (stage : Stage) :
    (stage.masked mask).shape = stage.shape := by
  simp [shape, masked, id, Function.comp_def]

@[simp] theorem Pipeline.map_shape_masked (mask : String) (p : Pipeline) :
    (p.masked mask).stages.map Stage.shape = p.stages.map Stage.shape := by
  simp [masked, Function.comp_def]

/-- Under a mask, the identifiers can be read off the shape. -/
theorem Stage.ids_masked (mask : String) (stage : Stage) :
    (stage.masked mask).ids = stage.shape.2.2.2.map fun job => job.2.2.2.map fun _ => mask := by
  simp [ids, masked, shape, Job.ids, Job.masked, Job.shape, Command.masked, Function.comp_def]

theorem Pipeline.map_ids_masked_of_shape (mask : String) {p p' : Pipeline}
    (same : p.stages.map Stage.shape = p'.stages.map Stage.shape) :
    (p.masked mask).stages.map Stage.ids = (p'.masked mask).stages.map Stage.ids := by
  have read : ∀ q : Pipeline, (q.masked mask).stages.map Stage.ids =
      (q.stages.map Stage.shape).map fun stage => stage.2.2.2.map fun job =>
        job.2.2.2.map fun _ => mask := by
    simp [masked, Function.comp_def, Stage.ids_masked]
  rw [read, same, ← read]

theorem Pipeline.commands_masked (mask : String) (p : Pipeline) :
    (p.masked mask).commands = p.commands.map (Command.masked mask) := by
  simp [commands, masked, Stage.commands, Stage.masked, Job.masked, List.map_flatMap,
    List.flatMap_map]

/-! ## What is left of a node that is cleared -/

/-- When two functions tell together what a third one tells of an item, they tell the same of lists. -/
theorem map_eq_map_iff_and {α β γ δ : Type} {f : α → β} {g : α → γ} {h : α → δ}
    (tells : ∀ a a', f a = f a' ↔ g a = g a' ∧ h a = h a') (as as' : List α) :
    as.map f = as'.map f ↔ as.map g = as'.map g ∧ as.map h = as'.map h := by
  induction as generalizing as' with
  | nil => cases as' <;> simp
  | cons a as ih =>
      cases as' with
      | nil => simp
      | cons a' as' =>
          simp only [List.map_cons, List.cons.injEq, tells, ih]
          tauto

theorem Command.reset_eq_iff (c c' : Command) :
    c.reset = c'.reset ↔ c.shape = c'.shape ∧ c.id = c'.id := by
  simp only [reset, shape, Command.mk.injEq, Prod.mk.injEq, and_true]
  exact and_comm

theorem Job.reset_eq_iff (j j' : Job) :
    j.reset = j'.reset ↔ j.shape = j'.shape ∧ j.ids = j'.ids := by
  have commands := map_eq_map_iff_and Command.reset_eq_iff j.commands j'.commands
  simp only [reset, shape, ids, Job.mk.injEq, Prod.mk.injEq, commands, and_true]
  constructor
  · rintro ⟨name, allowFailure, shapes, ids⟩
    exact ⟨⟨congrArg Slug.ofName name, name, allowFailure, shapes⟩, ids⟩
  · rintro ⟨⟨_, name, allowFailure, shapes⟩, ids⟩
    exact ⟨name, allowFailure, shapes, ids⟩

theorem Stage.reset_eq_iff (stage stage' : Stage) :
    stage.reset = stage'.reset ↔ stage.shape = stage'.shape ∧ stage.ids = stage'.ids := by
  have jobs := map_eq_map_iff_and Job.reset_eq_iff stage.jobs stage'.jobs
  simp only [reset, shape, ids, Stage.mk.injEq, Prod.mk.injEq, jobs, and_true]
  constructor
  · rintro ⟨name, allowFailure, shapes, ids⟩
    exact ⟨⟨congrArg Slug.ofName name, name, allowFailure, shapes⟩, ids⟩
  · rintro ⟨⟨_, name, allowFailure, shapes⟩, ids⟩
    exact ⟨name, allowFailure, shapes, ids⟩

/-- Cleared stages of one shape are the same where their commands have the same identifiers. -/
theorem map_reset_eq_iff (stages stages' : List Stage) :
    stages.map Stage.reset = stages'.map Stage.reset ↔
      stages.map Stage.shape = stages'.map Stage.shape ∧
      stages.map Stage.ids = stages'.map Stage.ids :=
  map_eq_map_iff_and Stage.reset_eq_iff stages stages'

theorem Pipeline.map_reset_masked_of_shape (mask : String) {p p' : Pipeline}
    (same : p.stages.map Stage.shape = p'.stages.map Stage.shape) :
    (p.masked mask).stages.map Stage.reset = (p'.masked mask).stages.map Stage.reset := by
  refine (map_reset_eq_iff _ _).2 ⟨?_, map_ids_masked_of_shape mask same⟩
  rw [map_shape_masked, map_shape_masked, same]

/-! ## Runs -/

/-- A step that does not see how its children are changed runs them to the same end. -/
theorem Run.inOrder_map_children {α C : Type} [Runnable α] {step : α → C → α × C} {f : α → α}
    (state : ∀ a, Runnable.state (f a) = Runnable.state a)
    (status : ∀ a, Runnable.status (f a) = Runnable.status a)
    (same : ∀ a c, step (f a) c = (f (step a c).1, (step a c).2)) (children : List α) (c : C) :
    inOrder step (children.map f) c =
      ((inOrder step children c).1, (inOrder step children c).2.1.map f,
        (inOrder step children c).2.2) := by
  -- The world moves on with each child, so the induction is for all of them.
  induction children generalizing c with
  | nil => rfl
  | cons a as ih =>
      cases halts : Runnable.status (step a c).1 with
      | true => simp [inOrder, same, status, state, halts, ih]
      | false => simp [inOrder, same, status, state, halts]

section

variable {σ : Type} (env : Environment σ) (mask : String)

theorem Command.execute_masked (c : Command) (world : Context × σ) :
    Command.execute env (c.masked mask) world =
      ((Command.execute env c world).1.masked mask, (Command.execute env c world).2) := rfl

theorem Job.execute_masked (j : Job) (world : Context × σ) :
    (j.masked mask).execute env world =
      ((j.execute env world).1.masked mask, (j.execute env world).2) := by
  have run := Run.inOrder_map_children (f := Command.masked mask) (fun _ => rfl) (fun _ => rfl)
    (Command.execute_masked env mask) j.commands world
  simp [execute, masked, run]

theorem Stage.execute_masked (stage : Stage) (world : Context × σ) :
    (stage.masked mask).execute env world =
      ((stage.execute env world).1.masked mask, (stage.execute env world).2) := by
  have run := Run.inOrder_map_children (f := Job.masked mask) (fun _ => rfl) (fun _ => rfl)
    (Job.execute_masked env mask) stage.jobs world
  simp [execute, masked, run]

theorem Job.reset_masked (j : Job) : (j.masked mask).reset = j.reset.masked mask := by
  simp [reset, masked, Function.comp_def, Command.reset, Command.masked]

theorem Stage.reset_masked (stage : Stage) : (stage.masked mask).reset = stage.reset.masked mask := by
  simp [reset, masked, Function.comp_def, Job.reset_masked]

/-- Which identifiers were drawn makes no difference to a run. -/
theorem Pipeline.execute_masked (p : Pipeline) (s : σ) :
    (p.masked mask).execute env s = ((p.execute env s).1.masked mask, (p.execute env s).2) := by
  -- A run begins with a reset, and it makes no difference which of the two comes first.
  have cleared : (p.masked mask).stages.map Stage.reset =
      (p.stages.map Stage.reset).map (Stage.masked mask) := by
    simp [masked, Function.comp_def, Stage.reset_masked]
  have run := Run.inOrder_map_children (f := Stage.masked mask) (fun _ => rfl) (fun _ => rfl)
    (Stage.execute_masked env mask) (p.stages.map Stage.reset) (p.context, s)
  have context : (p.masked mask).context = p.context := rfl
  simp only [execute, cleared, context, run]
  rfl

end

/-! ## Texts -/

section

variable (mask : String)

@[simp] theorem Command.outline_masked (c : Command) : (c.masked mask).outline = c.outline := rfl

@[simp] theorem Job.outline_masked (j : Job) : (j.masked mask).outline = j.outline := by
  simp [outline, masked, id, Function.comp_def]

@[simp] theorem Stage.outline_masked (stage : Stage) :
    (stage.masked mask).outline = stage.outline := by
  simp [outline, masked, id, Function.comp_def]

theorem Pipeline.overview_masked (p : Pipeline) : (p.masked mask).overview = p.overview := by
  simp [overview, masked, Function.comp_def]

@[simp] theorem Job.travisScript_masked (j : Job) :
    (j.masked mask).travisScript = j.travisScript := by
  simp [travisScript, masked, Command.scriptLines, Function.comp_def, Command.masked]

@[simp] theorem Stage.travisScript_masked (stage : Stage) :
    (stage.masked mask).travisScript = stage.travisScript := by
  simp [travisScript, masked, List.flatMap_map]

theorem Pipeline.exportText_masked (p : Pipeline) (provider : Provider) :
    (p.masked mask).exportText provider = p.exportText provider := by
  cases provider with
  | travis => simp [exportText, toTravis, masked, List.flatMap_map]

end
end CiPipeline
