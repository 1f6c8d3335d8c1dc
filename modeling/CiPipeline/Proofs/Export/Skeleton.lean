import CiPipeline.Proofs.Run.Frame
import CiPipeline.Proofs.Run.Lockstep

/-!
# Skeleton — what the script of a pipeline says

The script of a pipeline is one list of lines.  Of the tree it keeps a skeleton: the stages with
their flags, the jobs, and the processes as they were written.  Names may be any texts, because they
stand inside markers; as long as no process is written like the beginning of a marker, the script
can be read from its end, and gives the skeleton back.

* `Pipeline.skeleton`: what is kept;
* `Pipeline.Unmarked`: no process looks like a marker;
* `Skeleton.decode`: reads a script from its last line to its first;
* `Skeleton.decode_script`: reading gives back the skeleton;
* `Pipeline.Interspersed`: pipelines that differ in commands without a script;
* `script_says_skeleton`: scripts are equal exactly when skeletons are.
-/

namespace CiPipeline

/-! ## Skeletons -/

structure JobSkeleton where
  name : String
  scripts : List String
deriving DecidableEq, Repr

structure StageSkeleton where
  name : String
  allowFailure : Bool
  jobs : List JobSkeleton
deriving DecidableEq, Repr

def Job.skeleton (j : Job) : JobSkeleton := ⟨j.name, j.commands.filterMap fun c => c.action.script?⟩

def Stage.skeleton (stage : Stage) : StageSkeleton :=
  ⟨stage.name, stage.allowFailure, stage.jobs.map Job.skeleton⟩

def Pipeline.skeleton (p : Pipeline) : List StageSkeleton := p.stages.map Stage.skeleton

/-! ## Markers -/

namespace Skeleton

/-- How the marker of a stage begins. -/
def stageMark : List Char := "printf -- \"STAGE: ".toList

/-- How the marker of a job begins. -/
def jobMark : List Char := "printf -- \"JOB: ".toList

/-- The name in a line that begins with a mark; the last character of the line is its quote. -/
def nameAfter? (mark : List Char) (line : String) : Option String :=
  (line.toList.dropPrefix? mark).map fun rest => String.ofList rest.dropLast

theorem nameAfter?_of_append {mark : List Char} {line name : String}
    (written : line.toList = mark ++ name.toList ++ ['"']) : nameAfter? mark line = some name := by
  have dropped : line.toList.dropPrefix? mark = some (name.toList ++ ['"']) := by
    rw [List.dropPrefix?_eq_some_iff, written, List.append_assoc]
    exact ⟨mark, rfl, beq_self_eq_true mark⟩
  rw [nameAfter?, dropped, Option.map_some, List.dropLast_concat, String.ofList_toList]

theorem nameAfter?_eq_none {mark : List Char} {line : String} (unmarked : ¬ mark <+: line.toList) :
    nameAfter? mark line = none := by
  rw [nameAfter?, Option.map_eq_none_iff, Option.eq_none_iff_forall_not_mem]
  intro rest dropped
  rcases List.dropPrefix?_eq_some_iff.1 dropped with ⟨start, written, same⟩
  have begins : start = mark := eq_of_beq same
  apply unmarked
  exact ⟨rest, by rw [written, begins]⟩

theorem toList_stage_marker (name : String) :
    (Stage.marker name).toList = stageMark ++ name.toList ++ ['"'] := by
  unfold Stage.marker
  rw [String.toList_append, String.toList_append]
  rfl

theorem toList_job_marker (name : String) :
    (Job.marker name).toList = jobMark ++ name.toList ++ ['"'] := by
  unfold Job.marker
  rw [String.toList_append, String.toList_append]
  rfl

theorem nameAfter?_stage_marker (name : String) :
    nameAfter? stageMark (Stage.marker name) = some name :=
  nameAfter?_of_append (toList_stage_marker name)

theorem nameAfter?_job_marker (name : String) :
    nameAfter? jobMark (Job.marker name) = some name :=
  nameAfter?_of_append (toList_job_marker name)

/-- The two marks differ in a letter, so that no line has both. -/
theorem stageMark_job_marker (name : String) : nameAfter? stageMark (Job.marker name) = none := by
  have stage : stageMark = "printf -- \"".toList ++ 'S' :: "TAGE: ".toList := by decide
  have job : jobMark = "printf -- \"".toList ++ 'J' :: "OB: ".toList := by decide
  apply nameAfter?_eq_none
  rw [toList_job_marker, stage, job, List.append_assoc, List.append_assoc,
    List.prefix_append_right_inj, List.cons_append, List.cons_prefix_cons]
  intro differ
  exact absurd differ.1 (by decide)

theorem unmarked_tracing (allowFailure : Bool) :
    ¬ stageMark <+: (Stage.tracing allowFailure).toList ∧
      ¬ jobMark <+: (Stage.tracing allowFailure).toList := by
  cases allowFailure <;> decide

/-! ## Reading a script -/

/-- The flag of a stage whose commands are traced or not. -/
def allowFailure? (line : String) : Option Bool :=
  if line = Stage.tracing true then some true
  else if line = Stage.tracing false then some false
  else none

theorem allowFailure?_tracing (allowFailure : Bool) :
    allowFailure? (Stage.tracing allowFailure) = some allowFailure := by
  cases allowFailure <;> decide

/-- What is read of the lines that follow: the lines in front of the next marker, the jobs in front
of the next stage, and the stages. -/
structure Reading where
  lines : List String
  jobs : List JobSkeleton
  stages : List StageSkeleton
deriving DecidableEq, Repr

/-- A line in front of what is read already.  A marker closes what was gathered behind it. -/
def readLine (line : String) (behind : Reading) : Option Reading :=
  match nameAfter? stageMark line with
  | some name =>
    match behind.lines with
    | [tracing] =>
      (allowFailure? tracing).map fun allowFailure =>
        ⟨[], [], ⟨name, allowFailure, behind.jobs⟩ :: behind.stages⟩
    | _ => none
  | none =>
    match nameAfter? jobMark line with
    | some name => some ⟨[], ⟨name, behind.lines⟩ :: behind.jobs, behind.stages⟩
    | none => some { behind with lines := line :: behind.lines }

/-- The skeleton in a script, which begins with the marker of a stage unless it is empty. -/
def decode (script : List String) : Option (List StageSkeleton) :=
  match script.foldrM readLine ⟨[], [], []⟩ with
  | some ⟨[], [], stages⟩ => some stages
  | _ => none

/-! ### Lines, jobs, stages -/

theorem readLine_plain {line : String} (stage : ¬ stageMark <+: line.toList)
    (job : ¬ jobMark <+: line.toList) (behind : Reading) :
    readLine line behind = some { behind with lines := line :: behind.lines } := by
  rw [readLine, nameAfter?_eq_none stage, nameAfter?_eq_none job]

theorem readLine_job (name : String) (behind : Reading) :
    readLine (Job.marker name) behind =
      some ⟨[], ⟨name, behind.lines⟩ :: behind.jobs, behind.stages⟩ := by
  rw [readLine, stageMark_job_marker, nameAfter?_job_marker]

theorem readLine_stage (name : String) (allowFailure : Bool) (jobs : List JobSkeleton)
    (stages : List StageSkeleton) :
    readLine (Stage.marker name) ⟨[Stage.tracing allowFailure], jobs, stages⟩ =
      some ⟨[], [], ⟨name, allowFailure, jobs⟩ :: stages⟩ := by
  rw [readLine, nameAfter?_stage_marker]
  simp only [allowFailure?_tracing, Option.map_some]

theorem foldrM_plain {lines : List String}
    (plain : ∀ line ∈ lines, ¬ stageMark <+: line.toList ∧ ¬ jobMark <+: line.toList)
    (jobs : List JobSkeleton) (stages : List StageSkeleton) :
    lines.foldrM readLine ⟨[], jobs, stages⟩ = some ⟨lines, jobs, stages⟩ := by
  induction lines with
  | nil => rfl
  | cons line rest ih =>
      have first := plain line (List.mem_cons_self ..)
      have behind := ih fun line mem => plain line (List.mem_cons_of_mem _ mem)
      rw [List.foldrM_cons, behind]
      exact readLine_plain first.1 first.2 _

end Skeleton

/-! ## Pipelines without marks -/

/-- No process is written like the beginning of a marker. -/
def Pipeline.Unmarked (p : Pipeline) : Prop :=
  ∀ c ∈ p.commands, ∀ script program args, c.action = .run script program args →
    ¬ "printf -- \"STAGE: ".toList <+: script.toList ∧
      ¬ "printf -- \"JOB: ".toList <+: script.toList

namespace Skeleton

/-- The scripts of commands carry no mark. -/
def Clean (commands : List Command) : Prop :=
  ∀ c ∈ commands, ∀ script ∈ c.action.script?,
    ¬ stageMark <+: script.toList ∧ ¬ jobMark <+: script.toList

theorem clean_of_unmarked {p : Pipeline} (unmarked : p.Unmarked) : Clean p.commands := by
  intro c mem script written
  cases action : c.action with
  | run line program args =>
      rw [action] at written
      cases written
      exact unmarked c mem _ _ _ action
  | file operation path variableName =>
      rw [action] at written
      cases written
  | print params =>
      rw [action] at written
      cases written

theorem Clean.of_subset {commands others : List Command} (clean : Clean commands)
    (subset : others ⊆ commands) : Clean others := fun c mem => clean c (subset mem)

theorem foldrM_job {j : Job} (clean : Clean j.commands) (jobs : List JobSkeleton)
    (stages : List StageSkeleton) :
    j.travisScript.foldrM readLine ⟨[], jobs, stages⟩ =
      some ⟨[], j.skeleton :: jobs, stages⟩ := by
  have plain : ∀ line ∈ Command.scriptLines j.commands,
      ¬ stageMark <+: line.toList ∧ ¬ jobMark <+: line.toList := by
    intro line mem
    rcases List.mem_filterMap.1 mem with ⟨c, there, written⟩
    exact clean c there line written
  rw [Job.travisScript, List.foldrM_cons, foldrM_plain plain]
  exact readLine_job j.name _

theorem foldrM_jobs {jobs : List Job} (clean : Clean (jobs.flatMap Job.commands))
    (stages : List StageSkeleton) :
    (jobs.flatMap Job.travisScript).foldrM readLine ⟨[], [], stages⟩ =
      some ⟨[], jobs.map Job.skeleton, stages⟩ := by
  induction jobs with
  | nil => rfl
  | cons j rest ih =>
      rw [List.flatMap_cons] at clean
      have behind := ih (clean.of_subset (List.subset_append_right _ _))
      rw [List.flatMap_cons, List.foldrM_append, behind]
      exact foldrM_job (clean.of_subset (List.subset_append_left _ _)) _ stages

/-- Behind the marker of a stage stands nothing but how it is traced. -/
theorem foldrM_stage {stage : Stage} (clean : Clean stage.commands) (stages : List StageSkeleton) :
    stage.travisScript.foldrM readLine ⟨[], [], stages⟩ =
      some ⟨[], [], stage.skeleton :: stages⟩ := by
  have traced := unmarked_tracing stage.allowFailure
  have jobs := foldrM_jobs clean stages
  rw [Stage.travisScript, List.foldrM_cons, List.foldrM_cons, jobs]
  calc
    (some (⟨[], stage.jobs.map Job.skeleton, stages⟩ : Reading) >>=
          readLine (Stage.tracing stage.allowFailure)) >>= readLine (Stage.marker stage.name)
      = readLine (Stage.marker stage.name)
          ⟨[Stage.tracing stage.allowFailure], stage.jobs.map Job.skeleton, stages⟩ := by
        rw [Option.bind_eq_bind, Option.bind_some, readLine_plain traced.1 traced.2]
        rfl
    _ = some ⟨[], [], stage.skeleton :: stages⟩ := readLine_stage ..

theorem foldrM_stages {stages : List Stage} (clean : Clean (stages.flatMap Stage.commands)) :
    (stages.flatMap Stage.travisScript).foldrM readLine ⟨[], [], []⟩ =
      some ⟨[], [], stages.map Stage.skeleton⟩ := by
  -- The script is read from its end: what a stage leaves open is closed by its own marker.
  induction stages with
  | nil => rfl
  | cons stage rest ih =>
      rw [List.flatMap_cons] at clean
      have behind := ih (clean.of_subset (List.subset_append_right _ _))
      rw [List.flatMap_cons, List.foldrM_append, behind]
      exact foldrM_stage (clean.of_subset (List.subset_append_left _ _)) _

/-- A script is read back as the skeleton that it was written for. -/
theorem decode_script {p : Pipeline} (unmarked : p.Unmarked) :
    decode p.toTravis.script = some p.skeleton := by
  have read := foldrM_stages (clean_of_unmarked unmarked)
  rw [decode, Pipeline.toTravis, TravisConfig.ofScript, read]
  rfl

/-- The script can be written from the skeleton alone. -/
def write (skeleton : List StageSkeleton) : List String :=
  skeleton.flatMap fun stage =>
    Stage.marker stage.name :: Stage.tracing stage.allowFailure ::
      stage.jobs.flatMap fun j => Job.marker j.name :: j.scripts

theorem script_eq_write (p : Pipeline) : p.toTravis.script = write p.skeleton := by
  simp only [Pipeline.toTravis, TravisConfig.ofScript, write, Pipeline.skeleton, List.flatMap_map]
  congr 1
  funext stage
  rw [Stage.travisScript, Stage.skeleton, List.flatMap_map]
  rfl

theorem toTravis_of_skeleton {p q : Pipeline} (same : p.skeleton = q.skeleton) :
    p.toTravis = q.toTravis := by
  have scripts : p.toTravis.script = q.toTravis.script := by
    rw [script_eq_write, script_eq_write, same]
  exact congrArg TravisConfig.ofScript scripts

end Skeleton

/-! ## Commands without a script -/

/-- The second list has further commands at any places, none of which is a process. -/
inductive Command.Interspersed : List Command → List Command → Prop
  | nil : Interspersed [] []
  | kept (c : Command) {commands others : List Command} (rest : Interspersed commands others) :
      Interspersed (c :: commands) (c :: others)
  | added {c : Command} {commands others : List Command} (tame : c.Tame)
      (rest : Interspersed commands others) : Interspersed commands (c :: others)

structure Job.Interspersed (j j' : Job) : Prop where
  name : j.name = j'.name
  commands : Command.Interspersed j.commands j'.commands

structure Stage.Interspersed (stage stage' : Stage) : Prop where
  name : stage.name = stage'.name
  allowFailure : stage.allowFailure = stage'.allowFailure
  jobs : List.Forall₂ Job.Interspersed stage.jobs stage'.jobs

/-- The second pipeline has further file and print commands in its jobs. -/
def Pipeline.Interspersed (p q : Pipeline) : Prop :=
  List.Forall₂ Stage.Interspersed p.stages q.stages

theorem Command.Tame.script? {c : Command} (tame : c.Tame) : c.action.script? = none := by
  cases action : c.action with
  | run script program args => exact absurd action (tame script program args)
  | file operation path variableName => rfl
  | print params => rfl

theorem Job.Interspersed.skeleton {j j' : Job} (more : Job.Interspersed j j') :
    j.skeleton = j'.skeleton := by
  have scripts : ∀ commands others : List Command, Command.Interspersed commands others →
      commands.filterMap (fun c => c.action.script?) =
        others.filterMap fun c => c.action.script? := by
    intro commands others more
    induction more with
    | nil => rfl
    | kept c _ ih => rw [List.filterMap_cons, List.filterMap_cons, ih]
    | added tame _ ih =>
        rw [ih, List.filterMap_cons, tame.script?]
  rw [Job.skeleton, Job.skeleton, more.name, scripts _ _ more.commands]

/-- What is the same for items that are related is the same for the lists. -/
theorem map_eq_of_forall₂ {α β : Type} {R : α → α → Prop} {f : α → β}
    (same : ∀ a a', R a a' → f a = f a') {as as' : List α} (related : List.Forall₂ R as as') :
    as.map f = as'.map f := by
  have images : List.Forall₂ (· = ·) (as.map f) (as'.map f) := List.rel_map same related
  rwa [List.forall₂_eq_eq_eq] at images

theorem Stage.Interspersed.skeleton {stage stage' : Stage}
    (more : Stage.Interspersed stage stage') : stage.skeleton = stage'.skeleton := by
  have jobs := map_eq_of_forall₂ (fun _ _ job => job.skeleton) more.jobs
  rw [Stage.skeleton, Stage.skeleton, more.name, more.allowFailure, jobs]

theorem Pipeline.Interspersed.skeleton {p q : Pipeline} (more : p.Interspersed q) :
    p.skeleton = q.skeleton :=
  map_eq_of_forall₂ (fun _ _ stage => stage.skeleton) more

/-- The script of a pipeline says its skeleton, and nothing else.  It can be read back, whatever the
names are, if no process is written like the beginning of a marker; so two such pipelines have equal
scripts exactly when they have equal skeletons.  No script sees file and print commands, or whether
the pipeline was executed. -/
theorem script_says_skeleton (p : Pipeline) :
    (p.Unmarked → Skeleton.decode p.toTravis.script = some p.skeleton) ∧
    (∀ q : Pipeline, p.Unmarked → q.Unmarked →
      (p.toTravis.script = q.toTravis.script ↔ p.skeleton = q.skeleton)) ∧
    (∀ q : Pipeline, p.Interspersed q → p.toTravis = q.toTravis) ∧
    (∀ {σ : Type} (env : Environment σ) (worlds : List σ),
      (p.rerun env worlds).toTravis = p.toTravis) := by
  refine ⟨Skeleton.decode_script, ?_, ?_, ?_⟩
  · intro q unmarked unmarked'
    constructor
    · intro same
      have read := Skeleton.decode_script unmarked
      have read' := Skeleton.decode_script unmarked'
      rw [same] at read
      exact Option.some.inj (read.symm.trans read')
    · intro same
      exact congrArg TravisConfig.script (Skeleton.toTravis_of_skeleton same)
  · intro q more
    exact Skeleton.toTravis_of_skeleton more.skeleton
  · intro σ env worlds
    exact (p.kept_rerun env worlds).toTravis

/-- A pipeline whose names and processes look like other lines of a script. -/
def Pipeline.lookalike (added : List Command) : Pipeline :=
  ⟨[⟨"a\"\nset +x\nprintf -- \"JOB: b", true,
      [⟨"", false, [.run "set -x" "c0", .run "echo \"STAGE: c\"" "c1"] ++ added, .unstarted⟩],
      .unstarted⟩,
    ⟨"", false, [], .unstarted⟩], false, .unstarted, .ofDir ⟨"/"⟩ 0⟩

theorem Pipeline.unmarked_lookalike (params : List Parameter) (id : String) :
    (lookalike []).Unmarked ∧ (lookalike [.print params id]).Unmarked := by
  constructor
  all_goals
    intro c mem script program args action
    simp only [lookalike, commands, Stage.commands, List.flatMap_cons, List.flatMap_nil,
      List.append_nil, List.cons_append, List.nil_append, List.mem_cons, List.not_mem_nil,
      or_false] at mem
    rcases mem with rfl | rfl | rfl
    all_goals
      cases action
      try decide

/-- Nothing is mistaken for another line. -/
theorem script_says_skeleton_lookalike :
    let p := Pipeline.lookalike []
    let q := Pipeline.lookalike [.print [.literal (.text "d")] "c2"]
    p.Unmarked ∧ q.Unmarked ∧ p.Interspersed q ∧
      Skeleton.decode p.toTravis.script =
        some [⟨"a\"\nset +x\nprintf -- \"JOB: b", true, [⟨"", ["set -x", "echo \"STAGE: c\""]⟩]⟩,
          ⟨"", false, []⟩] ∧
      p.toTravis = q.toTravis ∧
      (p.toTravis.script = q.toTravis.script ↔ p.skeleton = q.skeleton) := by
  intro p q
  rcases Pipeline.unmarked_lookalike [.literal (.text "d")] "c2" with ⟨unmarked, unmarked'⟩
  rcases script_says_skeleton p with ⟨decoded, equal, added, _⟩
  have more : p.Interspersed q := by
    have printed : Command.Tame (.print [.literal (.text "d")] "c2") := by
      intro script program args action
      cases action
    refine .cons ⟨rfl, rfl, .cons ⟨rfl, ?_⟩ .nil⟩ (.cons ⟨rfl, rfl, .nil⟩ .nil)
    exact .kept _ (.kept _ (.added printed .nil))
  exact ⟨unmarked, unmarked', more, decoded unmarked, added q more, equal q unmarked unmarked'⟩

end CiPipeline
