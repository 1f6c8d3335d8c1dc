import CiPipeline.Proofs.History.Workspace
import CiPipeline.Proofs.Run.Frame
import CiPipeline.Proofs.Run.Listing
import CiPipeline.Proofs.Run.Lockstep

/-!
# Lines — what is run is what was written

A process is kept twice: as the script that it was written as, which is shown and exported, and as the
program and the arguments that are started.  As long as no command is put together by hand, the program
and the arguments are the words of the script, whatever is done with the command: it may be copied,
executed, allowed to fail and loaded from files.

* `Workspace.ScriptStep`: what a program may do that writes its processes as scripts;
* `Workspace.ScriptStep.scripted`, `Workspace.scripted_of_reached`: the commands that it holds start the
  words of their scripts;
* `Pipeline.outlines`, `Pipeline.scriptLines_sublist`, `Pipeline.cmdLines_sublist`: where scripts are
  shown;
* `Npm.argv_runScript`: the words of a script of the package manager;
* `lines_shown_are_run`: the processes that a run starts and the lines that are shown for them.
-/

namespace CiPipeline

variable {σ : Type}

/-! ## Programs that write scripts -/

namespace Workspace

/-- The command stands in a pipeline or is held outside of pipelines. -/
def Holds (w : Workspace σ) (c : Command) : Prop :=
  (∃ p ∈ w.pipelines, c ∈ p.commands) ∨ c ∈ w.commands

/-- What a program may do next that writes its processes as scripts: it makes other commands as it
likes, and commands outside of pipelines are made of such as it held before. -/
inductive ScriptStep (env : Environment σ) (w : Workspace σ) : Workspace σ → Prop
  | run (script id : String) : ScriptStep env w (w.withCommand (.run script id))
  | prepare {action : Action} {id : String} (tame : (Command.ofAction action id).Tame) :
      ScriptStep env w (w.withCommand (.ofAction action id))
  | use {w' : Workspace σ} (step : Step env w w')
      (known : ∀ c ∈ w'.commands, ∃ before, w.Holds before ∧ c.action = before.action) :
      ScriptStep env w w'

end Workspace

/-! ## What is started -/

theorem Action.scripted_of_tame {action : Action} {id : String}
    (tame : (Command.ofAction action id).Tame) : action.Scripted := by
  cases action with
  | run script program args => exact absurd rfl (tame script program args)
  | file operation path variableName => trivial
  | print params => trivial

/-- What is started are the words of the script. -/
theorem Action.argv?_of_scripted {action : Action} (scripted : action.Scripted) :
    action.argv? = action.script?.map Script.argv := by
  cases action with
  | run script program args =>
      have split : Script.split script = (program, args) := scripted
      simp only [argv?, script?, Option.map_some, Script.argv_eq_split, split]
  | file operation path variableName => rfl
  | print params => rfl

namespace Workspace

variable {env : Environment σ} {w w' : Workspace σ}

theorem Each.of_holds {P : Command → Prop} (each : w.Each P) {c : Command} (held : w.Holds c) :
    P c := by
  rcases held with ⟨p, held, mem⟩ | held
  · exact each.pipelines p held c mem
  · exact each.commands c held

/-- Each step keeps the words of the scripts. -/
theorem ScriptStep.scripted (step : ScriptStep env w w') (each : w.Each (·.action.Scripted)) :
    w'.Each (·.action.Scripted) := by
  have new : ∀ c : Command, c.Fresh → c.action.Scripted → c.action.Scripted :=
    fun _ _ scripted => scripted
  cases step with
  | run script id => exact each.withCommand (Action.scripted_ofScript script)
  | prepare tame => exact each.withCommand (Action.scripted_of_tame tame)
  | use step known =>
      -- Commands outside of pipelines have the actions of commands that were held before.
      have commands : ∀ c ∈ w'.commands, c.action.Scripted := by
        intro c mem
        rcases known c mem with ⟨before, held, same⟩
        rw [same]
        exact each.of_holds held
      refine ⟨?_, commands⟩
      cases step with
      | create baseDir runId => exact (each.withPipeline fun c mem => nomatch mem).pipelines
      | read done => exact (each.withPipeline (Pipeline.each_ofFile new done)).pipelines
      | clone held => exact (each.withPipeline (each.pipelines _ held)).pipelines
      | change held change =>
          have before := each.pipelines _ (List.mem_of_getElem? held)
          exact (each.replace (change.each new each before)).pipelines
      | @execute i p held s =>
          have before := each.pipelines _ (List.mem_of_getElem? held)
          refine (each.replace fun c mem => ?_).pipelines
          -- A run changes states and results, never what a command does.
          rcases p.executed_or_reset env s mem with ⟨b, there, ⟨_, _, _, rfl⟩ | rfl⟩
          · exact before b there
          · exact before b there
      | prepare action id => exact each.pipelines
      | allow held allowFailure => exact each.pipelines
      | pick held there => exact each.pipelines
      | perform held world => exact each.pipelines

theorem scripted_of_reached (reached : Relation.ReflTransGen (ScriptStep env) (.empty σ) w) :
    w.Each (·.action.Scripted) := by
  induction reached with
  | refl => exact ⟨by simp [empty], by simp [empty]⟩
  | tail _ step ih => exact step.scripted ih

end Workspace

/-! ## What is shown -/

/-- The line that the overview shows for a process. -/
def Script.cmdLine (script : String) : String := "    CMD: " ++ script ++ "\n"

/-- The lines of the overview of a job. -/
def Job.outlines (j : Job) : List String :=
  ("  JOB: " ++ j.id ++ "\n") :: j.commands.map Command.outline

def Stage.outlines (stage : Stage) : List String :=
  ("STAGE: " ++ stage.id ++ "\n") :: stage.jobs.flatMap Job.outlines

/-- The lines of the overview. -/
def Pipeline.outlines (p : Pipeline) : List String := p.stages.flatMap Stage.outlines

theorem Text.join_flatMap {α : Type} (as : List α) (f : α → List String) :
    String.join (as.flatMap f) = String.join (as.map fun a => String.join (f a)) := by
  induction as with
  | nil => rfl
  | cons a as ih => simp [ih]

namespace Command

/-- Of the lines that are shown for commands, those of processes show their scripts. -/
theorem cmdLines_sublist (commands : List Command) :
    ((scriptLines commands).map Script.cmdLine).Sublist (commands.map outline) := by
  induction commands with
  | nil => exact .slnil
  | cons c rest ih =>
      rcases c with ⟨id, action, allowFailure, state, result⟩
      cases action with
      | run script program args => exact ih.cons_cons _
      | file operation path variableName => exact ih.cons _
      | print params => exact ih.cons _

theorem scriptLines_flatMap {α : Type} (as : List α) (f : α → List Command) :
    scriptLines (as.flatMap f) = as.flatMap fun a => scriptLines (f a) := by
  simp only [scriptLines, List.filterMap_flatMap]

end Command

namespace Pipeline

variable (p : Pipeline)

theorem overview_eq_join : p.overview = String.join p.outlines := by
  have job : Job.outline = fun j => String.join j.outlines := by
    funext j
    simp [Job.outline, Job.outlines]
  have stage : Stage.outline = fun stage => String.join stage.outlines := by
    funext stage
    simp [Stage.outline, Stage.outlines, Text.join_flatMap, job]
  rw [overview, outlines, Text.join_flatMap, stage]

/-- A pipeline that is kept has the same scripts. -/
theorem Kept.scriptLines {p q : Pipeline} (kept : Kept p q) :
    Command.scriptLines q.commands = Command.scriptLines p.commands := by
  have blind : ∀ stage : Stage,
      Command.scriptLines stage.reset.commands = Command.scriptLines stage.commands := by
    intro stage
    simp [Stage.commands, Stage.reset, Job.reset, Command.scriptLines, Command.reset,
      List.flatMap_map, List.filterMap_flatMap, Function.comp_def]
  have same := kept.map_stages (f := fun stage => Command.scriptLines stage.commands) blind
  rw [commands, commands, Command.scriptLines_flatMap, Command.scriptLines_flatMap,
    List.flatMap_def, same, ← List.flatMap_def]

/-- The configuration has the scripts of all processes, in their order. -/
theorem scriptLines_sublist : (Command.scriptLines p.commands).Sublist p.toTravis.script := by
  rw [commands, Command.scriptLines_flatMap]
  refine List.Sublist.flatMap_right _ fun stage _ => ?_
  rw [Stage.commands, Command.scriptLines_flatMap]
  refine .cons _ (.cons _ ?_)
  exact List.Sublist.flatMap_right _ fun j _ => .cons _ (.refl _)

/-- The overview has the scripts of all processes, in their order. -/
theorem cmdLines_sublist :
    ((Command.scriptLines p.commands).map Script.cmdLine).Sublist p.outlines := by
  rw [commands, Command.scriptLines_flatMap, List.map_flatMap]
  refine List.Sublist.flatMap_right _ fun stage _ => ?_
  rw [Stage.commands, Command.scriptLines_flatMap, List.map_flatMap]
  refine .cons _ ?_
  exact List.Sublist.flatMap_right _ fun j _ => .cons _ (Command.cmdLines_sublist j.commands)

end Pipeline

/-! ## The package manager -/

namespace Npm

/-- What is passed on to a script of the package manager. -/
def passed : Option String → List String
  | none => []
  | some args => "--" :: Script.words args

theorem argv_runScript (script : String) (args : Option String) :
    Script.argv (runScript script args) = "npm" :: "run" :: (Script.words script ++ passed args) := by
  refine Script.argv_of_words ?_
  have front : Script.words "npm run" = ["npm", "run"] := by decide
  have dashes : Script.words "--" = ["--"] := by decide
  cases args with
  | none =>
      have text : runScript script none = "npm run" ++ " " ++ script := rfl
      rw [text, Script.words_append, front, passed, List.append_nil]
      rfl
  | some args =>
      have text : runScript script (some args) =
          "npm run" ++ " " ++ (script ++ " " ++ ("--" ++ " " ++ args)) := by
        simp [runScript, ← String.toList_inj, String.toList_append]
      rw [text, Script.words_append, Script.words_append, Script.words_append, front, dashes]
      rfl

end Npm

/-! ## Shown and run -/

/-- The lines are those of the commands that a run starts.  Watched, the run is the same and starts the
words of these lines; and they are shown, in their order, by the configuration and by the overview. -/
structure Pipeline.RunsLines (env : Environment σ) (p : Pipeline) (s : σ) (lines : List String) :
    Prop where
  started : lines = Command.scriptLines ((p.execute env s).1.commands.filter Command.started)
  watched : ((p.execute env.listing ([], s)).1, (p.execute env.listing ([], s)).2.2) = p.execute env s
  processes : (p.execute env.listing ([], s)).2.1 = lines.map Script.argv
  exported : lines.Sublist p.toTravis.script
  overview : p.overview = String.join p.outlines
  shown : (lines.map Script.cmdLine).Sublist p.outlines

theorem Pipeline.runsLines (env : Environment σ) {p : Pipeline} (scripted : p.Each (·.action.Scripted))
    (s : σ) :
    p.RunsLines env s
      (Command.scriptLines ((p.execute env s).1.commands.filter Command.started)) := by
  -- The lines are among those of the tree, and a run does not change those.
  have among : (Command.scriptLines ((p.execute env s).1.commands.filter Command.started)).Sublist
      (Command.scriptLines p.commands) := by
    rw [← (p.kept_execute env s).scriptLines]
    exact List.filter_sublist.filterMap _
  have started : ∀ c ∈ (p.execute env s).1.commands.filter Command.started,
      c.action.argv? = c.action.script?.map Script.argv := by
    intro c mem
    rcases p.executed_or_reset env s (List.mem_filter.1 mem).1 with ⟨b, there, ⟨_, _, _, rfl⟩ | rfl⟩
    · exact Action.argv?_of_scripted (scripted b there)
    · exact Action.argv?_of_scripted (scripted b there)
  refine ⟨rfl, (p.execute_listing env [] s).symm, ?_, among.trans p.scriptLines_sublist,
    p.overview_eq_join, (among.map _).trans p.cmdLines_sublist⟩
  rw [p.listed env [] s, List.nil_append, List.filterMap_congr started, Command.scriptLines,
    List.map_filterMap]

/-- No machine has a program without a name. -/
theorem World.spawn_nameless (args : List String) (dir : Path) (world : World) :
    ∃ problem, environment.spawn "" args dir world = (.error problem, world) := by
  have nameless : ∀ w : World, Launch.start Launch.depthLimit "" args w = .error .notFound :=
    fun _ => rfl
  simp only [environment, Launch.inDirectory, nameless]
  split
  · exact ⟨_, rfl⟩
  · split
    · exact ⟨_, rfl⟩
    · split
      · exact ⟨_, rfl⟩
      · exact ⟨_, rfl⟩

/-- Whatever was done with pipelines and commands, in any order: the program and the arguments of a
process are the words of its script, and a script without words starts nothing; the processes of a run
are the words of lines that the configuration and the overview show; and a script of the package manager
is run by its name, with its arguments behind two dashes. -/
theorem lines_shown_are_run (env : Environment σ) (w : Workspace σ)
    (reached : Relation.ReflTransGen (Workspace.ScriptStep env) (.empty σ) w) :
    (∀ c, w.Holds c → ∀ script program args, c.action = .run script program args →
      program :: args = Script.words script ∨
        Script.words script = [] ∧ program = "" ∧ args = [] ∧
          ∀ dir world, ∃ problem, World.environment.spawn program args dir world =
            (.error problem, world)) ∧
    (∀ p ∈ w.pipelines, ∀ s, ∃ lines, p.RunsLines env s lines) ∧
    (∀ (p : Pipeline) script args id, ∃ c,
      Handle.npm.call (.npmRun script args id) p = .ok (.job, p.onLastJob (·.push c)) ∧
      c.action = .run (Npm.runScript script args) "npm"
        ("run" :: (Script.words script ++ Npm.passed args))) := by
  have each := Workspace.scripted_of_reached reached
  refine ⟨?_, ?_, ?_⟩
  · intro c held script program args process
    have scripted := each.of_holds held
    rw [process] at scripted
    change Script.split script = (program, args) at scripted
    unfold Script.split at scripted
    cases words : Script.words script with
    | nil =>
        rw [words] at scripted
        cases scripted
        exact .inr ⟨rfl, rfl, rfl, World.spawn_nameless []⟩
    | cons first rest =>
        rw [words] at scripted
        cases scripted
        exact .inl rfl
  · intro p held s
    exact ⟨_, p.runsLines env (each.pipelines p held) s⟩
  · intro p script args id
    refine ⟨.run (Npm.runScript script args) id, rfl, ?_⟩
    have started := Npm.argv_runScript script args
    rw [Script.argv_eq_split] at started
    injection started with program rest
    simp only [Command.run, Command.ofAction, Action.ofScript]
    rw [program, rest]

/-- A line with more than one space and a script of the package manager, built, copied and run. -/
theorem lines_shown_are_run_twice :
    let env := Environment.keepingLines ⟨"V"⟩ ""
    let calls : List Call :=
      [.stage "s", .job "j", .run " echo  a b " "c0", .npm, .npmRun "t u" (some "-v") "c1"]
    let p := ((Pipeline.ofDir ⟨""⟩ 0).build calls).1
    let q := (p.execute env []).1
    let w : Workspace (List String) := ⟨[q, p], [], p.executions env []⟩
    Relation.ReflTransGen (Workspace.ScriptStep env) (.empty _) w ∧
      ∃ lines, q.RunsLines env [] lines ∧ lines = [" echo  a b ", "npm run t u -- -v"] ∧
        (q.execute env.listing ([], [])).2.1 =
          [["echo", "a", "b"], ["npm", "run", "t", "u", "--", "-v"]] := by
  intro env calls p q w
  have reached : Relation.ReflTransGen (Workspace.ScriptStep env) (.empty _) w := by
    have created : Workspace.ScriptStep env (.empty _) ⟨[.ofDir ⟨""⟩ 0], [], []⟩ :=
      .use (.create ⟨""⟩ 0) (by simp [Workspace.empty])
    have built : Workspace.ScriptStep env ⟨[.ofDir ⟨""⟩ 0], [], []⟩ ⟨[p], [], []⟩ :=
      .use (.change (i := 0) rfl (.build calls (by simp [calls]))) (by simp)
    have copied : Workspace.ScriptStep env ⟨[p], [], []⟩ ⟨[p, p], [], []⟩ :=
      .use (.clone (List.mem_singleton_self p)) (by simp)
    have ran : Workspace.ScriptStep env ⟨[p, p], [], []⟩ w :=
      .use (.execute (i := 0) rfl []) (by simp [w])
    exact (((Relation.ReflTransGen.single created).tail built).tail copied).tail ran
  refine ⟨reached, ?_⟩
  rcases lines_shown_are_run env w reached with ⟨_, runs, _⟩
  rcases runs q List.mem_cons_self [] with ⟨lines, shown⟩
  have started : lines = [" echo  a b ", "npm run t u -- -v"] := by
    rw [shown.started]
    decide
  refine ⟨lines, shown, started, ?_⟩
  rw [shown.processes, started]
  decide

end CiPipeline
