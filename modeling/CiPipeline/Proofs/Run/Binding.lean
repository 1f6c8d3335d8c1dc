import Mathlib.Data.List.Basic
import CiPipeline.Proofs.Run.Trace

/-!
# Binding — what print commands print

A reference is looked up when its command runs.  The line that a command prints is described here by
the commands before it in the tree, as they are after the run: a variable has the data of the last
of them that read it, or else what it had when the run began.

* `Parameter.lineAfter`: the line of parameters behind other commands;
* `Pipeline.printed_at`: a command prints the line that belongs to its place;
* `Pipeline.world_of_no_processes`: without processes, printing is all that a run does;
* `print_binds_late`: both, and the bytes that are written.
-/

namespace CiPipeline

variable {σ : Type} {env : Environment σ}

/-! ## Lines -/

namespace Parameter

/-- The text of a parameter behind other commands, in a run that began with a store. -/
def textAfter (commands : List Command) (store : Store) : Parameter → String
  | reference name =>
    ((valueAfter (Action.reads name) commands (store.get? name)).map Value.display).getD ""
  | literal value => value.display

def lineAfter (commands : List Command) (store : Store) (params : List Parameter) : String :=
  " ".intercalate (params.map (textAfter commands store))

end Parameter

/-- The store that commands leave gives the line that belongs behind them. -/
theorem printedLine_foldl_leaves {commands : List Command}
    (delivered : ∀ c ∈ commands, c.Delivered) (store : Store) (params : List Parameter) :
    Command.printedLine params (commands.foldl (fun store c => c.leaves store) store) =
      Parameter.lineAfter commands store params := by
  unfold Command.printedLine Parameter.lineAfter
  congr 2
  funext parameter
  cases parameter with
  | literal value => rfl
  | reference name =>
      simp only [Parameter.resolve, Parameter.textAfter, get?_foldl_leaves delivered,
        valueAfter_reads delivered]

/-! ## One execution -/

namespace Command

/-- The line that a print command left. -/
def printed (c : Command) : Option String :=
  match c.action with
  | .print _ => c.result.output
  | _ => none

theorem execute_print (writable : ∀ line s, (env.printLine line s).1 = .ok ()) {c : Command}
    {params : List Parameter} (prints : c.action = .print params) (world : Context × σ) :
    (execute env c world).1.result = .ofOutput (printedLine params world.1.store) ∧
      (execute env c world).2 =
        (world.1, (env.printLine (printedLine params world.1.store) world.2).2) := by
  have written := writable (printedLine params world.1.store) world.2
  simp [execute_eq, prints, dispatch, runPrint, written]

/-- All that a command does to the world is print its line, if it runs no process. -/
theorem world_execute (writable : ∀ line s, (env.printLine line s).1 = .ok ()) {c : Command}
    (tame : ∀ script program args, c.action ≠ .run script program args) (world : Context × σ) :
    (execute env c world).2.2 =
      (execute env c world).1.printed.toList.foldl (fun s line => (env.printLine line s).2)
        world.2 := by
  cases action : c.action with
  | run script program args => exact absurd action (tame script program args)
  | file operation path name => simp [execute_eq, printed, action, dispatch]
  | print params =>
      rcases execute_print writable action world with ⟨result, after⟩
      have line : (execute env c world).1.printed = some (printedLine params world.1.store) := by
        have same : (execute env c world).1.action = .print params := action
        simp [printed, same, result, CommandResult.ofOutput]
      rw [after, line]
      rfl

end Command

/-! ## A whole run -/

/-- Without processes, the lines of the executed commands are all that happens to the world. -/
theorem Trace.world_of_no_processes (writable : ∀ line s, (env.printLine line s).1 = .ok ())
    {world final : Context × σ} {es : List (Execution σ)} (trace : Trace env world es final)
    (tame : ∀ e ∈ es, ∀ script program args, e.1.action ≠ .run script program args) :
    final.2 = ((es.map (Execution.outcome env)).filterMap Command.printed).foldl
      (fun s line => (env.printLine line s).2) world.2 := by
  induction trace with
  | nil => rfl
  | @cons c world final rest onward ih =>
      have one := Command.world_execute writable (tame _ List.mem_cons_self) world
      have others := ih fun e mem => tame e (List.mem_cons_of_mem _ mem)
      rw [others, one, ← List.foldl_append]
      congr 1
      change _ = ((Command.execute env c world).1 :: rest.map _).filterMap Command.printed
      cases line : (Command.execute env c world).1.printed with
      | none => simp [line]
      | some line' => simp [line]

namespace Pipeline

variable (p : Pipeline) (s : σ)

/-- A print command that was executed has printed the line that belongs to its place. -/
theorem printed_at (writable : ∀ line s, (env.printLine line s).1 = .ok ())
    {before after : List Command} {c : Command} {params : List Parameter}
    (place : (p.execute env s).1.commands = before ++ c :: after)
    (prints : c.action = .print params) (started : c.started = true) :
    let line := Parameter.lineAfter before p.store params
    c.result.output = some line ∧
      ∃ earlier e later, p.executions env s = earlier ++ e :: later ∧
        earlier.map (Execution.outcome env) = before.filter Command.started ∧
        e.outcome env = c ∧
        (Command.execute env e.1 e.2).2.2 = (env.printLine line e.2.2).2 := by
  -- The command met the store that the commands before it leave, and that store gives the line.
  rcases p.execution_at env s place started with ⟨earlier, e, later, split, first, rfl, met⟩
  have delivered : ∀ c ∈ before, c.Delivered := by
    intro c mem
    refine p.delivered_of_mem env s ?_
    rw [place]
    exact List.mem_append_left _ mem
  have asked : e.1.action = .print params := prints
  rcases Command.execute_print writable asked e.2 with ⟨result, left⟩
  rw [met, printedLine_foldl_leaves delivered] at result left
  refine ⟨?_, earlier, e, later, split, first, rfl, ?_⟩
  · rw [Execution.outcome, result]
    rfl
  · rw [left]

theorem action_of_mem_execute {c : Command} (mem : c ∈ (p.execute env s).1.commands) :
    ∃ c' ∈ p.commands, c'.action = c.action := by
  rcases p.executed_or_reset env s mem with ⟨before, stood, ⟨context, s, _, rfl⟩ | rfl⟩
  · exact ⟨before, stood, rfl⟩
  · exact ⟨before, stood, rfl⟩

/-- A command that was not executed has left no line. -/
theorem printed_of_not_started {c : Command} (mem : c ∈ (p.execute env s).1.commands)
    (idle : c.started = false) : c.printed = none := by
  rcases p.executed_or_reset env s mem with ⟨before, _, executed | rfl⟩
  · -- An execution settles the state.
    have started := executed.state_ne
    simp [Command.started, State.isUnstarted] at idle
    exact absurd idle started
  · unfold Command.printed
    split
    · rfl
    · rfl

/-- Without processes, a run prints the lines of its commands in the order of the tree, and does
nothing else to the world. -/
theorem world_of_no_processes (writable : ∀ line s, (env.printLine line s).1 = .ok ())
    (tame : ∀ c ∈ p.commands, ∀ script program args, c.action ≠ .run script program args) :
    (p.execute env s).2 = ((p.execute env s).1.commands.filterMap Command.printed).foldl
      (fun s line => (env.printLine line s).2) s := by
  -- What is executed comes from the tree, so no process is among it.
  have executed : ∀ e ∈ p.executions env s, ∀ script program args,
      e.1.action ≠ .run script program args := by
    intro e mem
    have outcome : e.outcome env ∈ (p.executions env s).map (Execution.outcome env) :=
      List.mem_map_of_mem mem
    rw [outcomes_eq_filter] at outcome
    rcases p.action_of_mem_execute s (List.mem_filter.1 outcome).1 with ⟨c, there, same⟩
    have kept : (e.outcome env).action = e.1.action := rfl
    rw [← kept, ← same]
    exact tame c there
  have run := (p.trace_executions env s).world_of_no_processes writable executed
  rw [outcomes_eq_filter, List.filterMap_filter] at run
  rw [run]
  -- The commands that were left out have no lines.
  congr 1
  refine List.filterMap_congr fun c mem => ?_
  cases started : c.started with
  | true => simp
  | false => simp [p.printed_of_not_started s mem started]

end Pipeline

/-- Where every line adds itself and a newline to the output, lines add up to their text. -/
theorem stdout_foldl_printLine {stdout : σ → ByteArray}
    (adds : ∀ line s, stdout (env.printLine line s).2 = stdout s ++ (line ++ "\n").toUTF8)
    (lines : List String) (s : σ) :
    stdout (lines.foldl (fun s line => (env.printLine line s).2) s) =
      stdout s ++ (String.join (lines.map (· ++ "\n"))).toUTF8 := by
  induction lines generalizing s with
  | nil => simp
  | cons line rest ih =>
      rw [List.foldl_cons, ih, adds]
      simp [ByteArray.append_assoc]

/-- Where every line can be written, each print command that a run executes leaves and writes the line
of its parameters, every variable as the commands before it in the tree bind it in this run.  Without
processes, these lines are all that is written. -/
theorem print_binds_late (env : Environment σ)
    (writable : ∀ line s, (env.printLine line s).1 = .ok ()) (p : Pipeline) (s : σ) :
    let q := (p.execute env s).1
    (∀ before c after params, q.commands = before ++ c :: after → c.action = .print params →
      c.state ≠ .unstarted →
      let line := Parameter.lineAfter before p.store params
      c.result.output = some line ∧
        ∃ earlier e later, p.executions env s = earlier ++ e :: later ∧
          earlier.map (Execution.outcome env) = before.filter Command.started ∧
          e.outcome env = c ∧
          (Command.execute env e.1 e.2).2.2 = (env.printLine line e.2.2).2) ∧
    ((∀ c ∈ p.commands, ∀ script program args, c.action ≠ .run script program args) →
      let lines := q.commands.filterMap Command.printed
      (p.execute env s).2 = lines.foldl (fun s line => (env.printLine line s).2) s ∧
      ∀ stdout : σ → ByteArray,
        (∀ line s, stdout (env.printLine line s).2 = stdout s ++ (line ++ "\n").toUTF8) →
        stdout (p.execute env s).2 =
          stdout s ++ (String.join (lines.map (· ++ "\n"))).toUTF8) := by
  intro q
  refine ⟨?_, fun tame => ?_⟩
  · intro before c after params place prints state
    exact p.printed_at s writable place prints (by simpa [Command.started, State.isUnstarted])
  · have world := p.world_of_no_processes s writable tame
    refine ⟨world, fun stdout adds => ?_⟩
    rw [world]
    exact stdout_foldl_printLine adds _ s

/-- A pipeline that has a variable, reads another one, fails to read it again and prints both. -/
def Pipeline.readingTwice : Pipeline :=
  { stages := [⟨"s", false, [⟨"j", false,
      [.readInto ⟨"V"⟩ "new" "a", (Command.readInto ⟨"W"⟩ "new" "b").withAllowFailure true,
        .print [.literal (.text "="), .reference "new", .reference "old", .reference "none"] "c"],
      .unstarted⟩], .unstarted⟩]
    allowFailure := false
    state := .unstarted
    context := { Context.ofDir ⟨""⟩ 0 with store := Store.empty.insert "old" (.text "0.9") } }

theorem print_binds_late_readingTwice :
    let env := Environment.keepingLines ⟨"V"⟩ "1.0"
    let q := (Pipeline.readingTwice.execute env []).1
    (∀ line s, (env.printLine line s).1 = .ok ()) ∧
      (q.commands.get ⟨2, by decide⟩).result.output = some "= 1.0 0.9 " ∧
      (Pipeline.readingTwice.execute env []).2 = ["= 1.0 0.9 "] := by
  intro env q
  have writable : ∀ line s, (env.printLine line s).1 = .ok () := fun _ _ => rfl
  have tame : ∀ c ∈ Pipeline.readingTwice.commands, ∀ script program args,
      c.action ≠ .run script program args := by
    simp [Pipeline.readingTwice, Pipeline.commands, Stage.commands, Command.readInto,
      Command.print, Command.ofAction, Command.withAllowFailure]
  rcases print_binds_late env writable Pipeline.readingTwice [] with ⟨bound, lines⟩
  refine ⟨writable, ?_, ?_⟩
  · -- Both commands in front read into the variable, but only the first one passed.
    have printed := bound (q.commands.take 2) (q.commands.get ⟨2, by decide⟩) []
      [.literal (.text "="), .reference "new", .reference "old", .reference "none"] (by decide)
      (by decide) (by decide)
    have line : Parameter.lineAfter (q.commands.take 2) Pipeline.readingTwice.store
        [.literal (.text "="), .reference "new", .reference "old", .reference "none"] =
          "= 1.0 0.9 " := by decide
    rw [printed.1, line]
  · have shown : q.commands.filterMap Command.printed = ["= 1.0 0.9 "] := by decide
    rw [(lines tame).1, shown]
    rfl

end CiPipeline
