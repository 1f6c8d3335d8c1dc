import CiPipeline.Proofs.History.Workspace

/-!
# Account — what a command says about itself

The state of a command and the four fields of its result are set at different places: by the
constructor, by the reset, and by each of the ways in which an execution may end.  Wherever a command
came from, they give one account of what happened to it.

* `Command.Ending`: the ways in which an execution may end, each with its result;
* `Command.Idle`, `Command.Succeeded`, `Command.Broken`: the three accounts;
* `Command.Shows`: the account that goes with a state;
* `Command.shows_outcome`: every execution leaves an account;
* `commands_give_one_account`: and so does everything that a program can do.
-/

namespace CiPipeline

variable {σ : Type} {env : Environment σ}

theorem CommandError.code_ne_unstarted (error : CommandError) : error.code ≠ -1 := by
  cases error <;> simp [code, ResultCode.unsupportedOperation, ResultCode.fileNotFound,
    ResultCode.general]

namespace Command

/-! ## How executions end -/

/-- The ways in which the execution of an action in a world may end. -/
inductive Ending (env : Environment σ) (world : Context × σ) : Action → CommandResult → Prop
  | error {action : Action} (error : CommandError) : Ending env world action (.ofError error)
  | exit {script program : String} {args : List String} {code : Int}
      (exited : (env.spawn program args world.1.baseDir world.2).1 = .ok (.code code)) :
      Ending env world (.run script program args) (.ofCode code)
  | data {operation : FileOperation} {path : Path} {variableName : String} (contents : String) :
      Ending env world (.file operation path variableName) (.ofData contents)
  | output {params : List Parameter} (line : String) :
      Ending env world (.print params) (.ofOutput line)

theorem ending_execute (c : Command) (world : Context × σ) :
    Ending env world c.action (execute env c world).1.result := by
  rw [execute_eq]
  cases c.action with
  | run script program args =>
      simp only [dispatch, runProcess]
      cases exited : (env.spawn program args world.1.baseDir world.2).1 with
      | error problem => exact .error _
      | ok exit =>
          cases exit with
          | code code => exact .exit exited
          | signal => exact .error _
  | file operation path variableName =>
      cases operation with
      | write => exact .error _
      | read =>
          simp only [dispatch, runFile]
          split
          · split
            · exact .data _
            · exact .error _
          · exact .error _
  | print params =>
      simp only [dispatch, runPrint]
      split
      · exact .output _
      · exact .error _

/-! ## Three accounts -/

/-- The command has not run. -/
structure Idle (c : Command) : Prop where
  state : c.state = .unstarted
  code : c.result.code = -1
  data : c.result.data = none
  output : c.result.output = none
  error : c.result.error = none

/-- The command passed.  Files that are read have data, and lines that are printed are outputs. -/
structure Succeeded (c : Command) : Prop where
  state : c.state = .passed
  code : c.result.code = 0
  error : c.result.error = none
  data : c.result.data.isSome = true ↔
    ∃ operation path variableName, c.action = .file operation path variableName
  output : c.result.output.isSome = true ↔ ∃ params, c.action = .print params

/-- The command failed, with an error or with the exit code of a process that it was executed as. -/
structure Broken (env : Environment σ) (past : List (Execution σ)) (c : Command) : Prop where
  state : c.state = .failed
  ne_success : c.result.code ≠ 0
  ne_unstarted : c.result.code ≠ -1
  data : c.result.data = none
  output : c.result.output = none
  cause :
    (∃ error, c.result.error = some error ∧ error.code = c.result.code) ∨
      c.result.error = none ∧ ∃ script program args, c.action = .run script program args ∧
        ∃ e ∈ past, e.1.action = c.action ∧ (e.outcome env).result = c.result ∧
          (env.spawn program args e.2.1.baseDir e.2.2).1 = .ok (.code c.result.code)

/-- The account that goes with a state. -/
def Shows (env : Environment σ) (past : List (Execution σ)) (c : Command) : State → Prop
  | .unstarted => c.Idle
  | .passed => c.Succeeded
  | .failed => c.Broken env past

variable {past : List (Execution σ)} {c : Command}

theorem Shows.state_eq {state : State} (account : c.Shows env past state) : c.state = state := by
  cases state with
  | unstarted => exact Idle.state account
  | passed => exact Succeeded.state account
  | failed => exact Broken.state account

theorem shows_of_fresh (fresh : c.Fresh) : c.Shows env past c.state := by
  have idle : Idle c.reset := ⟨rfl, rfl, rfl, rfl, rfl⟩
  rw [fresh] at idle
  rw [idle.state]
  exact idle

/-- Flags are no part of an account. -/
theorem Shows.withAllowFailure {state : State} (account : c.Shows env past state)
    (allowFailure : Bool) : (c.withAllowFailure allowFailure).Shows env past state := by
  cases state with
  | unstarted =>
      rcases account with ⟨state, code, data, output, error⟩
      exact ⟨state, code, data, output, error⟩
  | passed =>
      rcases account with ⟨state, code, error, data, output⟩
      exact ⟨state, code, error, data, output⟩
  | failed =>
      rcases account with ⟨state, ne_success, ne_unstarted, data, output, cause⟩
      exact ⟨state, ne_success, ne_unstarted, data, output, cause⟩

/-- What was executed once was executed from then on. -/
theorem Shows.later {state : State} (account : c.Shows env past state)
    (more : List (Execution σ)) : c.Shows env (past ++ more) state := by
  cases state with
  | unstarted => exact account
  | passed => exact account
  | failed =>
      rcases account with ⟨state, ne_success, ne_unstarted, data, output, cause⟩
      refine ⟨state, ne_success, ne_unstarted, data, output, ?_⟩
      rcases cause with failure | ⟨none, script, program, args, runs, e, mem, ended⟩
      · exact .inl failure
      · exact .inr ⟨none, script, program, args, runs, e, List.mem_append_left _ mem, ended⟩

end Command

/-! ## Executions -/

/-- Processes that end by themselves report exit codes from 0 to 255. -/
def Environment.Bounded (env : Environment σ) : Prop :=
  ∀ program args dir s code, (env.spawn program args dir s).1 = .ok (.code code) →
    0 ≤ code ∧ code ≤ 255

namespace Command

/-- However an execution ends, its result and the state that is read off the result agree. -/
theorem shows_of_ending (bounded : env.Bounded) {past : List (Execution σ)} {e : Execution σ}
    (mem : e ∈ past) {action : Action} {result : CommandResult} (id : String) (allowFailure : Bool)
    (ending : Ending env e.2 action result) (does : e.1.action = action)
    (left : (e.outcome env).result = result) :
    Shows env past ⟨id, action, allowFailure, stateOf result, result⟩ (stateOf result) := by
  cases ending with
  | error error =>
      rw [stateOf_ofError]
      exact ⟨rfl, error.code_ne_success, error.code_ne_unstarted, rfl, rfl, .inl ⟨error, rfl, rfl⟩⟩
  | @exit script program args code exited =>
      -- Of the codes that a process can report, only zero passes, and none is taken for unstarted.
      by_cases zero : code = 0
      · subst zero
        exact ⟨rfl, rfl, rfl, by simp [CommandResult.ofCode], by simp [CommandResult.ofCode]⟩
      · have failed : stateOf (.ofCode code) = .failed := if_neg zero
        have negative : code ≠ -1 := by
          have range := bounded _ _ _ _ _ exited
          omega
        rw [failed]
        exact ⟨rfl, zero, negative, rfl, rfl,
          .inr ⟨rfl, script, program, args, rfl, e, mem, does, left, exited⟩⟩
  | data contents =>
      exact ⟨rfl, rfl, rfl, by simp [CommandResult.ofData], by simp [CommandResult.ofData]⟩
  | output line =>
      exact ⟨rfl, rfl, rfl, by simp [CommandResult.ofOutput], by simp [CommandResult.ofOutput]⟩

/-- Every execution leaves an account. -/
theorem shows_outcome (bounded : env.Bounded) {past : List (Execution σ)} {e : Execution σ}
    (mem : e ∈ past) : (e.outcome env).Shows env past (e.outcome env).state :=
  shows_of_ending bounded mem e.1.id e.1.allowFailure (ending_execute e.1 e.2) rfl rfl

theorem lasting_shows (bounded : env.Bounded) :
    Lasting env fun past c => c.Shows env past c.state where
  fresh := fun _ _ => shows_of_fresh
  allow := fun _ _ allowFailure account => account.withAllowFailure allowFailure
  executed := fun _ _ => shows_outcome bounded
  later := fun _ more _ account => account.later more

end Command

/-- Whatever was done with pipelines and commands, in any order, each command gives exactly one of
three accounts: it has not run, it passed, or it failed; and its state, its code, its data, its output
and its error are those that go with this account. -/
theorem commands_give_one_account (env : Environment σ) (bounded : env.Bounded) (w : Workspace σ)
    (reached : Relation.ReflTransGen (Workspace.Step env) (.empty σ) w) :
    w.Each fun c => ∃! state, c.Shows env w.past state := by
  refine (Workspace.each_of_reached (Command.lasting_shows bounded) reached).imp ?_
  intro c account
  -- Each account names its state, so that no two of them fit one command.
  refine ⟨c.state, account, fun state other => ?_⟩
  exact other.state_eq.symm

/-- A world in which every process ends with the same exit code. -/
def Environment.exiting (code : Int) : Environment Unit where
  spawn := fun _ _ _ s => (.ok (.code code), s)
  present := fun _ _ => false
  readText := fun _ _ => .error .notFound
  printLine := fun _ s => (.ok (), s)

/-- A process fails, and the line after it is not printed. -/
theorem commands_give_one_account_exiting :
    let env := Environment.exiting 3
    let p := ((Pipeline.ofDir ⟨""⟩ 0).build
      [.stage "s", .job "j", .run "make" "c0", .print [] "c1"]).1
    let q := (p.execute env ()).1
    let w : Workspace Unit := ⟨[q], [], p.executions env ()⟩
    env.Bounded ∧ Relation.ReflTransGen (Workspace.Step env) (.empty Unit) w ∧
      q.commands.map Command.state = [.failed, .unstarted] ∧
      ∀ c ∈ q.commands, c.Broken env w.past ∧ c.result.code = 3 ∨ c.Idle := by
  intro env p q w
  have bounded : env.Bounded := by
    rintro program args dir s code exited
    cases exited
    decide
  have reached : Relation.ReflTransGen (Workspace.Step env) (.empty Unit) w := by
    have created : Workspace.Step env (.empty Unit) ⟨[.ofDir ⟨""⟩ 0], [], []⟩ := .create ⟨""⟩ 0
    have built : Workspace.Step env ⟨[.ofDir ⟨""⟩ 0], [], []⟩ ⟨[p], [], []⟩ :=
      .change (i := 0) rfl (.build _ (by simp))
    have ran : Workspace.Step env ⟨[p], [], []⟩ w := .execute (i := 0) rfl ()
    exact ((Relation.ReflTransGen.single created).tail built).tail ran
  have states : ∀ c ∈ q.commands,
      c.state = .failed ∧ c.result.code = 3 ∨ c.state = .unstarted := by decide
  refine ⟨bounded, reached, by decide, fun c mem => ?_⟩
  have each := commands_give_one_account env bounded w reached
  rcases each.pipelines q (List.mem_singleton_self q) c mem with ⟨state, account, _⟩
  have same := account.state_eq
  rcases states c mem with ⟨failed, code⟩ | unstarted
  · cases same.symm.trans failed
    exact .inl ⟨account, code⟩
  · cases same.symm.trans unstarted
    exact .inr account

end CiPipeline
