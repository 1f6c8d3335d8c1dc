import CiPipeline.Proofs.History.Lines
import CiPipeline.Proofs.Json.Text
import CiPipeline.Proofs.Slug.NormalForm

/-!
# NodeLines — the lines of the outline

The outline writes each stage, job and command and ends it by a line break.  Identifiers are slugs and
stay on their lines.  What is shown for a command has the texts of its author as they are, with the
line breaks that are in them, so the outline has one line for each node just when no author wrote a
line break; then the nodes can be read from it.

* `Text.lines`, `Text.breaks`: the lines of a text, and the line breaks in it;
* `Text.lines_terminated`: texts that are ended by line breaks;
* `OutlineNode`, `Pipeline.nodes`: what is shown, in the order of the tree;
* `Action.breaks_display`: line breaks that are shown are those of the author;
* `outline_lines`: the lines of the outline.
-/

namespace CiPipeline

/-! ## The lines of a text -/

namespace Text

/-- How many line breaks a text has. -/
def breaks (s : String) : Nat := s.toList.count '\n'

/-- What stands before, between and behind the line breaks of a text. -/
def lines (s : String) : List String := (s.toList.splitOn '\n').map String.ofList

/-- The texts, each ended by a line break. -/
def terminated (ss : List String) : String := String.join (ss.map fun s => s ++ "\n")

@[simp]
theorem breaks_append (s t : String) : breaks (s ++ t) = breaks s + breaks t := by
  rw [breaks, String.toList_append, List.count_append]
  rfl

theorem breaks_eq_zero {s : String} : breaks s = 0 ↔ '\n' ∉ s.toList := List.count_eq_zero

/-- How many line breaks some texts have. -/
def breaksIn (ss : List String) : Nat := (ss.map breaks).sum

@[simp]
theorem breaksIn_nil : breaksIn [] = 0 := rfl

@[simp]
theorem breaksIn_cons (s : String) (ss : List String) :
    breaksIn (s :: ss) = breaks s + breaksIn ss := by
  rw [breaksIn, List.map_cons, List.sum_cons, breaksIn]

@[simp]
theorem breaksIn_append (ss ts : List String) : breaksIn (ss ++ ts) = breaksIn ss + breaksIn ts := by
  rw [breaksIn, List.map_append, List.sum_append, breaksIn, breaksIn]

theorem breaksIn_eq_zero {ss : List String} : breaksIn ss = 0 ↔ ∀ s ∈ ss, breaks s = 0 := by
  rw [breaksIn, List.sum_eq_zero_iff, List.forall_mem_map]

theorem breaksIn_flatMap_congr {α : Type} {as : List α} {f g : α → List String}
    (same : ∀ a ∈ as, breaksIn (f a) = breaksIn (g a)) :
    breaksIn (as.flatMap f) = breaksIn (as.flatMap g) := by
  induction as with
  | nil => rfl
  | cons a as ih =>
      rcases List.forall_mem_cons.1 same with ⟨first, others⟩
      rw [List.flatMap_cons, List.flatMap_cons, breaksIn_append, breaksIn_append, first, ih others]

theorem breaks_intercalate {sep : String} (plain : breaks sep = 0) (ss : List String) :
    breaks (sep.intercalate ss) = breaksIn ss := by
  induction ss with
  | nil => rfl
  | cons s ss ih =>
      cases ss with
      | nil => simp
      | cons t ss =>
          rw [String.intercalate_cons_cons, breaks_append, breaks_append, plain, ih, breaksIn_cons]
          rfl

/-- There is one line more than there are line breaks. -/
theorem length_lines (s : String) : (lines s).length = breaks s + 1 := by
  rw [lines, List.length_map, breaks]
  induction s.toList with
  | nil => rfl
  | cons c cs ih =>
      rw [List.splitOn_cons_eq_if_modifyHead, List.count_cons]
      split
      · rw [List.length_cons, ih]
      · rw [List.length_modifyHead, ih]

theorem lines_of_unbroken {s : String} (unbroken : breaks s = 0) : lines s = [s] := by
  rw [lines, List.splitOn_eq_singleton (breaks_eq_zero.1 unbroken)]
  simp

theorem lines_append_break (s t : String) : lines (s ++ "\n" ++ t) = lines s ++ lines t := by
  have parts : (s ++ "\n" ++ t).toList = s.toList ++ '\n' :: t.toList := by simp
  rw [lines, parts, List.splitOn_append_cons_self, List.map_append]
  rfl

theorem terminated_cons (s : String) (ss : List String) :
    terminated (s :: ss) = s ++ "\n" ++ terminated ss := by
  simp [terminated]

/-- Behind the last line break there is nothing. -/
theorem lines_terminated (ss : List String) : lines (terminated ss) = ss.flatMap lines ++ [""] := by
  induction ss with
  | nil => rfl
  | cons s ss ih => rw [terminated_cons, lines_append_break, ih, List.flatMap_cons, List.append_assoc]

theorem breaks_terminated (ss : List String) :
    breaks (terminated ss) = ss.length + breaksIn ss := by
  induction ss with
  | nil => rfl
  | cons s ss ih =>
      have one : breaks "\n" = 1 := rfl
      rw [terminated_cons, breaks_append, breaks_append, one, ih, List.length_cons, breaksIn_cons]
      omega

/-- The texts are the lines if they have no line breaks themselves, and only then. -/
theorem lines_terminated_eq_iff (ss : List String) :
    lines (terminated ss) = ss ++ [""] ↔ ∀ s ∈ ss, breaks s = 0 := by
  constructor
  · intro same
    -- As many lines as texts leave no line break over that would be in a text.
    have count := congrArg List.length same
    rw [length_lines, breaks_terminated, List.length_append, List.length_singleton] at count
    have none : breaksIn ss = 0 := by omega
    exact breaksIn_eq_zero.1 none
  · intro unbroken
    -- Each text is one line by itself.
    have whole : ss.flatMap lines = ss.flatMap fun s => [s] :=
      List.flatMap_congr fun s mem => lines_of_unbroken (unbroken s mem)
    rw [lines_terminated, whole, List.flatMap_singleton']

theorem terminated_injective {ss ss' : List String} (unbroken : ∀ s ∈ ss, breaks s = 0)
    (unbroken' : ∀ s ∈ ss', breaks s = 0) (same : terminated ss = terminated ss') : ss = ss' := by
  have texts := (lines_terminated_eq_iff ss).2 unbroken
  rw [same, (lines_terminated_eq_iff ss').2 unbroken'] at texts
  exact (List.append_cancel_right texts).symm

end Text

/-! ## What is shown -/

/-- A node of the tree with its text: the identifier, or what is shown of the action. -/
inductive OutlineNode where
  | stage (id : String)
  | job (id : String)
  | command (text : String)
deriving DecidableEq, Repr

namespace OutlineNode

def text : OutlineNode → String
  | stage id => id
  | job id => id
  | command text => text

/-- What is written for the node: its text behind a mark, which is indented like the node. -/
def line : OutlineNode → String
  | stage id => "STAGE: " ++ id
  | job id => "  JOB: " ++ id
  | command text => "    CMD: " ++ text

/-- Stages and jobs. -/
def isInner : OutlineNode → Bool
  | stage _ => true
  | job _ => true
  | command _ => false

/-- The beginning of a line tells what is shown on it. -/
theorem line_injective {n n' : OutlineNode} (same : n.line = n'.line) : n = n' := by
  have chars := congrArg String.toList same
  cases n with
  | stage id =>
      cases n' with
      | stage id' => simpa [line, String.toList_inj] using chars
      | job id' => simp [line] at chars
      | command text' => simp [line] at chars
  | job id =>
      cases n' with
      | stage id' => simp [line] at chars
      | job id' => simpa [line, String.toList_inj] using chars
      | command text' => simp [line] at chars
  | command text =>
      cases n' with
      | stage id' => simp [line] at chars
      | job id' => simp [line] at chars
      | command text' => simpa [line, String.toList_inj] using chars

/-- A mark has no line breaks. -/
theorem breaks_line (n : OutlineNode) : Text.breaks n.line = Text.breaks n.text := by
  cases n with
  | stage id => exact (Text.breaks_append _ id).trans (Nat.zero_add _)
  | job id => exact (Text.breaks_append _ id).trans (Nat.zero_add _)
  | command text => exact (Text.breaks_append _ text).trans (Nat.zero_add _)

end OutlineNode

def Command.node (c : Command) : OutlineNode := .command c.action.display

def Job.nodes (j : Job) : List OutlineNode := .job j.id :: j.commands.map Command.node

def Stage.nodes (stage : Stage) : List OutlineNode := .stage stage.id :: stage.jobs.flatMap Job.nodes

/-- The stages, jobs and commands, each before what is below it, from left to right. -/
def Pipeline.nodes (p : Pipeline) : List OutlineNode := p.stages.flatMap Stage.nodes

def Pipeline.jobs (p : Pipeline) : List Job := p.stages.flatMap Stage.jobs

/-! ## Texts of authors -/

/-- The texts in a parameter; numbers and Booleans have none. -/
def Parameter.texts : Parameter → List String
  | reference name => [name]
  | literal (.text s) => [s]
  | literal (.number _) => []
  | literal (.bool _) => []

/-- The texts that were given for an action and are shown. -/
def Action.texts : Action → List String
  | run script _ _ => [script]
  | file _ path variableName => [path.text, variableName]
  | print params => params.flatMap Parameter.texts

def Pipeline.texts (p : Pipeline) : List String := p.commands.flatMap fun c => c.action.texts

/-- None of the texts that were given for commands has a line break. -/
def Pipeline.Unbroken (p : Pipeline) : Prop := ∀ s ∈ p.texts, '\n' ∉ s.toList

/-- A number is shown on one line. -/
theorem NumberStyle.breaks_display (x : Binary64) : Text.breaks (display.write x) = 0 := by
  -- NaN and the infinities are written as words, finite numbers with the characters of numbers.
  by_cases nan : x.isNaN = true
  · rw [write, if_pos nan]
    rfl
  · by_cases infinite : x.isInfinite = true
    · rw [write, if_neg nan, if_pos infinite]
      split
      · rfl
      · rfl
    · have finite : x.isFinite = true := by
        simp only [Binary64.isFinite, Binary64.isNaN, Binary64.isInfinite, decide_eq_true_eq]
          at nan infinite ⊢
        omega
      have numeric := Json.Numeric.write finite display
      refine Text.breaks_eq_zero.2 fun mem => ?_
      cases numeric '\n' mem

theorem Parameter.breaks_display (param : Parameter) :
    Text.breaks param.display = Text.breaksIn param.texts := by
  have opening : Text.breaks "$\x7b" = 0 := rfl
  have closing : Text.breaks "\x7d" = 0 := rfl
  cases param with
  | reference name => simp [display, texts, opening, closing]
  | literal value =>
      cases value with
      | bool b => cases b <;> rfl
      | number x => exact NumberStyle.breaks_display x
      | text s => simp [display, texts, Value.display]

/-- The line breaks that are shown for an action are those in its texts. -/
theorem Action.breaks_display (action : Action) :
    Text.breaks action.display = Text.breaksIn action.texts := by
  cases action with
  | run script program args => simp [display, texts]
  | file operation path variableName =>
      have kind : Text.breaks operation.name = 0 := by cases operation <;> rfl
      have words : Text.breaks "file " = 0 ∧ Text.breaks " " = 0 ∧ Text.breaks " -> " = 0 :=
        ⟨rfl, rfl, rfl⟩
      simp [display, texts, kind, words]
  | print params =>
      have word : Text.breaks "print " = 0 := rfl
      rw [display, Text.breaks_append, word, Text.breaks_intercalate rfl, Nat.zero_add,
        List.map_eq_flatMap, texts]
      exact Text.breaksIn_flatMap_congr fun param _ => by simp [param.breaks_display]

/-- A slug has words and hyphens only. -/
theorem Slug.breaks_ofName (name : String) : Text.breaks (ofName name) = 0 := by
  refine Text.breaks_eq_zero.2 fun mem => ?_
  have out : Text.isWordChar '\n' = false := by decide +kernel
  rcases (normal_ofName name).chars _ mem with word | hyphen
  · cases word.symm.trans out
  · cases hyphen

/-! ## Nodes and texts -/

theorem Stage.breaks_line (stage : Stage) : Text.breaks (OutlineNode.stage stage.id).line = 0 :=
  (OutlineNode.breaks_line _).trans (Slug.breaks_ofName stage.name)

theorem Job.breaks_line (j : Job) : Text.breaks (OutlineNode.job j.id).line = 0 :=
  (OutlineNode.breaks_line _).trans (Slug.breaks_ofName j.name)

theorem Command.breaks_line (c : Command) :
    Text.breaks c.node.line = Text.breaksIn c.action.texts :=
  (OutlineNode.breaks_line _).trans c.action.breaks_display

theorem Job.breaksIn_nodes (j : Job) :
    Text.breaksIn (j.nodes.map OutlineNode.line) =
      Text.breaksIn (j.commands.flatMap fun c => c.action.texts) := by
  rw [nodes, List.map_cons, Text.breaksIn_cons, j.breaks_line, Nat.zero_add, List.map_map,
    List.map_eq_flatMap]
  exact Text.breaksIn_flatMap_congr fun c _ => by simp [c.breaks_line]

theorem Stage.breaksIn_nodes (stage : Stage) :
    Text.breaksIn (stage.nodes.map OutlineNode.line) =
      Text.breaksIn (stage.commands.flatMap fun c => c.action.texts) := by
  rw [nodes, List.map_cons, Text.breaksIn_cons, stage.breaks_line, Nat.zero_add, List.map_flatMap,
    commands, List.flatMap_assoc]
  exact Text.breaksIn_flatMap_congr fun j _ => j.breaksIn_nodes

theorem Job.outlines_eq_nodes (j : Job) : j.outlines = j.nodes.map fun n => n.line ++ "\n" := by
  rw [outlines, nodes, List.map_cons, List.map_map]
  rfl

theorem Stage.outlines_eq_nodes (stage : Stage) :
    stage.outlines = stage.nodes.map fun n => n.line ++ "\n" := by
  have jobs : Job.outlines = fun j => j.nodes.map fun n => n.line ++ "\n" :=
    funext Job.outlines_eq_nodes
  rw [outlines, nodes, List.map_cons, List.map_flatMap, jobs]
  rfl

theorem Stage.length_nodes (stage : Stage) :
    stage.nodes.length = 1 + stage.jobs.length + stage.commands.length := by
  have job : ∀ j : Job, j.nodes.length = 1 + j.commands.length := by
    intro j
    rw [Job.nodes, List.length_cons, List.length_map, Nat.add_comm]
  -- Each job adds one to its commands, which adds up to the number of jobs.
  simp only [nodes, commands, List.length_cons, List.length_flatMap, job, List.sum_map_add,
    List.map_const', List.sum_replicate_nat, Nat.mul_one]
  omega

namespace Pipeline

variable (p : Pipeline)

theorem breaksIn_nodes : Text.breaksIn (p.nodes.map OutlineNode.line) = Text.breaksIn p.texts := by
  rw [nodes, List.map_flatMap, texts, commands, List.flatMap_assoc]
  exact Text.breaksIn_flatMap_congr fun stage _ => stage.breaksIn_nodes

theorem overview_eq_terminated : p.overview = Text.terminated (p.nodes.map OutlineNode.line) := by
  have stages : Stage.outlines = fun stage => stage.nodes.map fun n => n.line ++ "\n" :=
    funext Stage.outlines_eq_nodes
  rw [overview_eq_join, outlines, stages, nodes, Text.terminated, List.map_map, List.map_flatMap]
  rfl

theorem length_nodes :
    p.nodes.length = p.stages.length + p.jobs.length + p.commands.length := by
  simp [nodes, jobs, commands, List.length_flatMap, Stage.length_nodes, List.sum_map_add]

/-- What is no command is shown on one line. -/
theorem breaks_inner {n : OutlineNode} (mem : n ∈ p.nodes) (inner : n.isInner = true) :
    Text.breaks n.line = 0 := by
  rcases List.mem_flatMap.1 mem with ⟨stage, _, below⟩
  rcases List.mem_cons.1 below with rfl | below
  · exact stage.breaks_line
  · rcases List.mem_flatMap.1 below with ⟨j, _, below⟩
    rcases List.mem_cons.1 below with rfl | below
    · exact j.breaks_line
    · rcases List.mem_map.1 below with ⟨c, _, rfl⟩
      cases inner

theorem unbroken_iff : p.Unbroken ↔ ∀ line ∈ p.nodes.map OutlineNode.line, Text.breaks line = 0 := by
  rw [← Text.breaksIn_eq_zero, breaksIn_nodes, Text.breaksIn_eq_zero]
  simp only [Unbroken, Text.breaks_eq_zero]

end Pipeline

/-- The outline writes the stages, jobs and commands in the order of the tree, each with a line break
behind it.  It has as many lines as there are nodes, and one more for each line break in a text of an
author; such a break divides the line of its own command only.  So each node is shown on one line just
when no text of an author has a line break, and then the lines tell the nodes. -/
theorem outline_lines (p : Pipeline) :
    p.nodes.length = p.stages.length + p.jobs.length + p.commands.length ∧
    p.overview = Text.terminated (p.nodes.map OutlineNode.line) ∧
    Text.breaks p.overview = p.nodes.length + Text.breaksIn p.texts ∧
    Text.lines p.overview = p.nodes.flatMap (fun n => Text.lines n.line) ++ [""] ∧
    (∀ n ∈ p.nodes, n.isInner = true → Text.lines n.line = [n.line]) ∧
    (Text.lines p.overview = p.nodes.map OutlineNode.line ++ [""] ↔ p.Unbroken) ∧
    (∀ q : Pipeline, p.Unbroken → q.Unbroken → (p.overview = q.overview ↔ p.nodes = q.nodes)) := by
  have written := p.overview_eq_terminated
  refine ⟨p.length_nodes, written, ?_, ?_, ?_, ?_, ?_⟩
  · rw [written, Text.breaks_terminated, List.length_map, p.breaksIn_nodes]
  · rw [written, Text.lines_terminated, List.flatMap_map]
  · exact fun n mem inner => Text.lines_of_unbroken (p.breaks_inner mem inner)
  · rw [written, Text.lines_terminated_eq_iff, p.unbroken_iff]
  · intro q unbroken unbroken'
    constructor
    · intro same
      rw [written, q.overview_eq_terminated] at same
      have lines := Text.terminated_injective (p.unbroken_iff.1 unbroken) (q.unbroken_iff.1 unbroken')
        same
      exact List.map_injective_iff.2 (fun _ _ => OutlineNode.line_injective) lines
    · intro same
      rw [written, q.overview_eq_terminated, same]

/-- A script of two lines is shown like a command and a second stage, and a script that ends in a line
break is followed by an empty line. -/
theorem script_forges_stage :
    let built (calls : List Call) : Pipeline := ((Pipeline.ofDir ⟨"/repo"⟩ 0).build calls).1
    let forging := built [.stage "s", .job "j", .run "true\nSTAGE: t" "c"]
    let honest := built [.stage "s", .job "j", .run "true" "c", .stage "t"]
    let ending := built [.stage "s", .job "j", .run "npm test\n" "c"]
    (forging.nodes.length = 3 ∧ honest.nodes.length = 4 ∧ forging.overview = honest.overview ∧
      Text.lines forging.overview ≠ forging.nodes.map OutlineNode.line ++ [""]) ∧
    Text.lines ending.overview = ["STAGE: s", "  JOB: j", "    CMD: npm test", "", ""] := by
  decide +kernel

end CiPipeline
