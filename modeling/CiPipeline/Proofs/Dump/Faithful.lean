import CiPipeline.Proofs.Json.Text
import CiPipeline.Proofs.Run.Masking
import CiPipeline.Proofs.Run.Place

/-!
# Faithful — dumps that tell pipelines apart

A dump shows everything of the stages that runs do not change: two pipelines with the same dump have
the same stages, jobs and commands, and their commands have the same identifiers.  Under a mask the
identifiers are not told apart, and all else still is.

* `Pipeline.PrintsFinite`: no print command has a number that JSON cannot write;
* `Command.toTree_eq_iff`, `Job.toTree_eq_iff`, `Stage.toTree_eq_iff`: what the trees tell;
* `Pipeline.toTree_plain`: the tree of a dump has a text of its own;
* `Pipeline.json_eq_iff`: what the texts tell.
-/

namespace CiPipeline

/-! ## Finite numbers -/

/-- A literal number is finite. -/
def Parameter.isFinite : Parameter → Bool
  | .literal (.number x) => x.isFinite
  | _ => true

def Action.isFinite : Action → Bool
  | .print params => params.all Parameter.isFinite
  | _ => true

/-- The print commands have finite numbers only. -/
def Pipeline.PrintsFinite (p : Pipeline) : Prop := ∀ c ∈ p.commands, c.action.isFinite = true

instance (p : Pipeline) : Decidable p.PrintsFinite :=
  inferInstanceAs (Decidable (∀ c ∈ p.commands, c.action.isFinite = true))

/-! ## Plain trees -/

theorem Json.Tree.plain_strings (texts : List String) :
    (Json.Tree.array (texts.map Json.Tree.string)).Plain := by
  refine .array fun t mem => ?_
  rcases List.mem_map.1 mem with ⟨s, _, rfl⟩
  exact .string s

open Json.Tree (Plain)

theorem Parameter.toTree_plain {param : Parameter} (finite : param.isFinite = true) :
    param.toTree.Plain := by
  cases param with
  | reference name =>
      refine .object fun f mem => ?_
      rw [List.mem_singleton.1 mem]
      exact .string name
  | literal value =>
      cases value with
      | bool b => exact .bool b
      | number x => exact .number finite
      | text s => exact .string s

theorem Command.dumpedParams_plain {a : Action} (finite : a.isFinite = true) :
    (dumpedParams a).Plain := by
  cases a with
  | run script program args => exact Json.Tree.plain_strings args
  | file operation path variableName => exact Json.Tree.plain_strings [path.text, variableName]
  | print params =>
      refine .array fun t mem => ?_
      rcases List.mem_map.1 mem with ⟨param, written, rfl⟩
      exact param.toTree_plain (List.all_eq_true.1 finite param written)

theorem Command.toTree_plain {c : Command} (finite : c.action.isFinite = true) : c.toTree.Plain := by
  have params := dumpedParams_plain finite
  refine .object ?_
  cases kind : c.action with
  | run script program args =>
      rw [kind] at params
      simp [dumpedOperation, dumpedScript, params, Plain.bool, Plain.string]
  | file operation path variableName =>
      rw [kind] at params
      simp [dumpedOperation, dumpedScript, params, Plain.bool, Plain.string]
  | print _ =>
      rw [kind] at params
      simp [dumpedOperation, dumpedScript, params, Plain.bool, Plain.string]

theorem Job.toTree_plain {j : Job} (finite : ∀ c ∈ j.commands, c.action.isFinite = true) :
    j.toTree.Plain := by
  have commands : ∀ t ∈ j.commands.map Command.toTree, t.Plain :=
    List.forall_mem_map.2 fun c mem => c.toTree_plain (finite c mem)
  refine .object ?_
  simp only [List.forall_mem_cons]
  exact ⟨.bool _, .string _, .string _, .array commands, List.forall_mem_nil _⟩

theorem Stage.toTree_plain {stage : Stage}
    (finite : ∀ c ∈ stage.commands, c.action.isFinite = true) : stage.toTree.Plain := by
  have jobs : ∀ t ∈ stage.jobs.map Job.toTree, t.Plain :=
    List.forall_mem_map.2 fun j mem => j.toTree_plain fun c inside =>
      finite c (List.mem_flatMap.2 ⟨j, mem, inside⟩)
  refine .object ?_
  simp only [List.forall_mem_cons]
  exact ⟨.bool _, .string _, .string _, .array jobs, List.forall_mem_nil _⟩

theorem Pipeline.toTree_plain {p : Pipeline} (finite : p.PrintsFinite) : p.toTree.Plain := by
  have stages : ∀ t ∈ p.stages.map Stage.toTree, t.Plain :=
    List.forall_mem_map.2 fun stage mem => stage.toTree_plain fun c inside =>
      finite c (List.mem_flatMap.2 ⟨stage, mem, inside⟩)
  refine .object ?_
  simp only [List.forall_mem_cons]
  exact ⟨.array stages, List.forall_mem_nil _⟩

theorem Pipeline.PrintsFinite.masked {p : Pipeline} (finite : p.PrintsFinite) (mask : String) :
    (p.masked mask).PrintsFinite := by
  intro c mem
  rw [commands_masked] at mem
  rcases List.mem_map.1 mem with ⟨before, stood, rfl⟩
  exact finite before stood

/-! ## What the trees tell -/

theorem Parameter.toTree_injective : Function.Injective Parameter.toTree := by
  intro param param' same
  cases param with
  | reference name =>
      cases param' with
      | reference name' =>
          cases same
          rfl
      | literal value => cases value <;> cases same
  | literal value =>
      cases param' with
      | reference name' => cases value <;> cases same
      | literal value' =>
          cases value with
          | bool b => cases value' <;> cases same; rfl
          | number x => cases value' <;> cases same; rfl
          | text s => cases value' <;> cases same; rfl

theorem FileOperation.name_injective : Function.Injective FileOperation.name := by
  intro operation operation' same
  cases operation <;> cases operation' <;> first | rfl | exact absurd same (by decide)

/-- The last field of the tree of a command tells the kind. -/
theorem Command.name_eq_of_toTree {c c' : Command} (same : c.toTree = c'.toTree) :
    c.action.name = c'.action.name := by
  have last := congrArg List.getLast? (Json.Tree.object.inj same)
  rw [List.getLast?_concat, List.getLast?_concat] at last
  simpa using last

theorem Command.toTree_eq_iff (c c' : Command) :
    c.toTree = c'.toTree ↔ c.shape = c'.shape ∧ c.id = c'.id := by
  rcases c with ⟨id, action, allowFailure, _, _⟩
  rcases c' with ⟨id', action', allowFailure', _, _⟩
  constructor
  · intro same
    have kinds := name_eq_of_toTree same
    cases action with
    | run script program args =>
        cases action' with
        | run script' program' args' =>
            have strings : Function.Injective (List.map Json.Tree.string) :=
              List.map_injective_iff.2 fun s s' same => Json.Tree.string.inj same
            simp [toTree, dumpedOperation, dumpedParams, dumpedScript, strings.eq_iff] at same
            simp [shape, same]
        | file operation' path' name' => simp [Action.name] at kinds
        | print params' => simp [Action.name] at kinds
    | file operation path name =>
        cases action' with
        | run script' program' args' => simp [Action.name] at kinds
        | file operation' path' name' =>
            rcases path with ⟨path⟩
            rcases path' with ⟨path'⟩
            simp [toTree, dumpedOperation, dumpedParams, dumpedScript,
              FileOperation.name_injective.eq_iff] at same
            simp [shape, same]
        | print params' => simp [Action.name] at kinds
    | print params =>
        cases action' with
        | run script' program' args' => simp [Action.name] at kinds
        | file operation' path' name' => simp [Action.name] at kinds
        | print params' =>
            have texts := List.map_injective_iff.2 Parameter.toTree_injective
            simp [toTree, dumpedOperation, dumpedParams, dumpedScript, texts.eq_iff] at same
            simp [shape, same]
  · rintro ⟨shapes, ids⟩
    cases shapes
    cases ids
    rfl

theorem Job.toTree_eq_iff (j j' : Job) :
    j.toTree = j'.toTree ↔ j.shape = j'.shape ∧ j.ids = j'.ids := by
  have commands := map_eq_map_iff_and Command.toTree_eq_iff j.commands j'.commands
  simp only [toTree, shape, ids, Json.Tree.object.injEq, Json.Tree.array.injEq,
    Json.Tree.bool.injEq, Json.Tree.string.injEq, List.cons.injEq, Prod.mk.injEq, true_and, and_true,
    commands]
  constructor
  · rintro ⟨allowFailure, id, name, shapes, ids⟩
    exact ⟨⟨id, name, allowFailure, shapes⟩, ids⟩
  · rintro ⟨⟨id, name, allowFailure, shapes⟩, ids⟩
    exact ⟨allowFailure, id, name, shapes, ids⟩

theorem Stage.toTree_eq_iff (stage stage' : Stage) :
    stage.toTree = stage'.toTree ↔ stage.shape = stage'.shape ∧ stage.ids = stage'.ids := by
  have jobs := map_eq_map_iff_and Job.toTree_eq_iff stage.jobs stage'.jobs
  simp only [toTree, shape, ids, Json.Tree.object.injEq, Json.Tree.array.injEq,
    Json.Tree.bool.injEq, Json.Tree.string.injEq, List.cons.injEq, Prod.mk.injEq, true_and, and_true,
    jobs]
  constructor
  · rintro ⟨allowFailure, id, name, shapes, ids⟩
    exact ⟨⟨id, name, allowFailure, shapes⟩, ids⟩
  · rintro ⟨⟨id, name, allowFailure, shapes⟩, ids⟩
    exact ⟨allowFailure, id, name, shapes, ids⟩

namespace Pipeline

theorem toTree_eq_iff (p q : Pipeline) :
    p.toTree = q.toTree ↔
      p.stages.map Stage.shape = q.stages.map Stage.shape ∧
      p.stages.map Stage.ids = q.stages.map Stage.ids := by
  rw [← map_eq_map_iff_and Stage.toTree_eq_iff]
  simp [toTree]

/-! ## What the texts tell -/

/-- Two dumps are the same exactly when the pipelines have the same stages and jobs, with names,
flags and order, and the same commands with all their parameters and flags, and when the commands
have the same identifiers.  With masked identifiers nothing is left to compare but the pipelines. -/
theorem json_eq_iff {p q : Pipeline} (finite : p.PrintsFinite) (finite' : q.PrintsFinite) :
    (∀ mask : String,
      (p.masked mask).json = (q.masked mask).json ↔
        p.stages.map Stage.shape = q.stages.map Stage.shape) ∧
    (p.json = q.json ↔
      p.stages.map Stage.shape = q.stages.map Stage.shape ∧
      p.stages.map Stage.ids = q.stages.map Stage.ids) := by
  have texts : ∀ p q : Pipeline, p.PrintsFinite → q.PrintsFinite → (p.json = q.json ↔
      p.stages.map Stage.shape = q.stages.map Stage.shape ∧
      p.stages.map Stage.ids = q.stages.map Stage.ids) := by
    intro p q finite finite'
    have trees : p.json = q.json ↔ p.toTree = q.toTree :=
      ⟨Json.Tree.pretty_injective (toTree_plain finite) (toTree_plain finite'),
        congrArg Json.Tree.pretty⟩
    rw [trees, toTree_eq_iff]
  refine ⟨fun mask => ?_, texts p q finite finite'⟩
  rw [texts _ _ (finite.masked mask) (finite'.masked mask), map_shape_masked, map_shape_masked]
  -- The masked identifiers are the same as soon as there are as many of them.
  exact and_iff_left_of_imp (map_ids_masked_of_shape mask)

/-- One command, which prints a number behind a variable. -/
def printingOnly (x : Binary64) : Pipeline :=
  let c := Command.print [.reference "v", .literal (.number x)] "c"
  { ofDir ⟨""⟩ 0 with stages := [⟨"s", true, [⟨"j", false, [c], .unstarted⟩], .unstarted⟩] }

/-- The two zeros are different numbers, so the dumps differ. -/
theorem json_eq_iff_zeros :
    let positive := printingOnly ⟨0⟩
    let negative := printingOnly ⟨0x8000000000000000⟩
    positive.PrintsFinite ∧ negative.PrintsFinite ∧
      ∀ mask : String, (positive.masked mask).json ≠ (negative.masked mask).json := by
  have positive : (printingOnly ⟨0⟩).PrintsFinite := by decide
  have negative : (printingOnly ⟨0x8000000000000000⟩).PrintsFinite := by decide
  have shapes : (printingOnly ⟨0⟩).stages.map Stage.shape ≠
      (printingOnly ⟨0x8000000000000000⟩).stages.map Stage.shape := by
    simp [printingOnly, Stage.shape, Job.shape, Command.shape, Command.print, Command.ofAction]
  refine ⟨positive, negative, fun mask same => ?_⟩
  exact shapes (((json_eq_iff positive negative).1 mask).1 same)

end Pipeline
end CiPipeline
