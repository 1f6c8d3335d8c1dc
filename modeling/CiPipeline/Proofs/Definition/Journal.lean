import CiPipeline.Proofs.Building.Standing
import CiPipeline.Proofs.Definition.Origins
import CiPipeline.Proofs.Definition.Splicing

/-!
# Journal — what loading asks of the pipelines that it builds

The stages of a file are built by the calls that a program has as well.  Some of them look for a place
and for a variable and may refuse, and those of handles change nothing where there is no place.  When
loading writes down each request in a journal, together with the pipeline that it is made of, the
journal shows that none is refused and none is lost, also where a file that is named fails later on.

* `PipelineError.OfFile`: what may be wrong with a file;
* `Request`, `Journaled`: what loading asks of a pipeline, and programs that write it down;
* `Journaled.loadFrom`: loading by requests;
* `Granted`: a request that is not refused and has its effect;
* `Comes`: a program grants its requests and comes to a result, with one rule for each step;
* `comes_addJob`, `comes_addStage`, `told_addEntries`, `told_loadFrom`: loading by requests is loading;
* `loading_meets_no_guard`: so no guard is met.
-/

namespace CiPipeline

/-! ## What is wrong with a file -/

/-- A file is not there, describes no pipeline or cannot be read. -/
inductive PipelineError.OfFile : PipelineError → Prop
  | notFound (path : Path) : OfFile (.notFound path)
  | invalidExport (path : Path) (reason : String) : OfFile (.invalidExport path reason)
  | io (problem : IoProblem) : OfFile (.io problem)

/-! ## What a tree asks for -/

/-- The calls that add a job: one for each part of it that is seen. -/
def Job.calls (j : Job) : List Call :=
  .job j.name :: (Call.allowing j.allowFailure ++ j.commands.map .command)

def Stage.calls (stage : Stage) : List Call :=
  .stage stage.name :: (Call.allowing stage.allowFailure ++ stage.jobs.flatMap Job.calls)

def Pipeline.calls (p : Pipeline) : List Call := p.stages.flatMap Stage.calls

namespace Definition

/-! ## Requests -/

/-- What loading asks of a pipeline. -/
inductive Request where
  /-- A call on a handle, or one of the pipeline itself. -/
  | call (handle : Handle) (c : Call)
  /-- A command that reads a file.  It is made before there is a job for it and may overwrite its
  variable. -/
  | prepare (path : Path) (variableName id : String)
  /-- The stages of a file, which is loaded already. -/
  | splice (loaded : Pipeline)

def Request.call? : Request → Option Call
  | .call _ c => some c
  | .prepare .. => none
  | .splice _ => none

/-- The requests in their order, each with the pipeline that it is made of. -/
abbrev Journal := List (Pipeline × Request)

def Journal.calls (journal : Journal) : List Call := journal.filterMap fun entry => entry.2.call?

/-- Programs that keep a journal, also when they fail. -/
abbrev Journaled := EStateM CallError Journal

/-! ## Loading by requests -/

namespace Journaled

/-- A request is written down before it is answered. -/
def ask {α : Type} (p : Pipeline) (r : Request) (answer : Except CallError α) : Journaled α := do
  modify (· ++ [(p, r)])
  ofExcept answer

def call (handle : Handle) (c : Call) (p : Pipeline) : Journaled (Handle × Pipeline) :=
  ask p (.call handle c) (handle.call c p)

/-- What is found out about files goes into no journal. -/
def lift {α : Type} (found : Except PipelineError α) : Journaled α :=
  ofExcept (found.mapError .pipeline)

/-- The node that a handle stands on is allowed to fail, if it may. -/
def allow (allowFailure : Bool) (on : Handle × Pipeline) : Journaled (Handle × Pipeline) :=
  if allowFailure then call on.1 .allowFailure on.2 else pure on

/-- Only a command that reads a file has to be asked for. -/
def prepare (p : Pipeline) (id : String) : ActionDefinition → Journaled Command
  | .run script => pure (.run script id)
  | .readInto path variableName =>
    ask p (.prepare path variableName id)
      ((p.readIntoCommand path variableName true id).mapError .pipeline)
  | .print params => pure (.print params id)

def buildCommand (p : Pipeline) (definition : CommandDefinition) (id : String) :
    Journaled Command := do
  let c ← prepare p id definition.action
  pure (c.withAllowFailure definition.allowFailure)

/-- A job is asked of the pipeline itself, and what belongs to the job of its handle. -/
def addJob (p : Pipeline) (definition : JobDefinition) (ids : IdSupply) : Journaled Pipeline := do
  let commands ← (ids.among definition.commands).mapM fun c => buildCommand p c.1 c.2.drawn
  let opened ← call .pipeline (.job definition.name) p
  let allowed ← allow definition.allowFailure opened
  let filled ← commands.foldlM (fun on c => call on.1 (.command c) on.2) allowed
  pure filled.2

def addStage (p : Pipeline) (definition : StageDefinition) (ids : IdSupply) :
    Journaled Pipeline := do
  let opened ← call .pipeline (.stage definition.name) p
  let allowed ← allow definition.allowFailure opened
  (ids.among definition.jobs).foldlM (fun p j => addJob p j.1 j.2) allowed.2

section

variable (fs : FileSystem) (directory : Location)

def splice (ids : IdSupply) (p loaded : Pipeline) : Journaled Pipeline :=
  ask p (.splice loaded)
    (match (Pipeline.load fs directory ids (.built loaded)).run p with
      | .ok _ extended => .ok extended
      | .error e _ => .error (.pipeline e))

def addEntries (load : IdSupply → Path → Journaled Pipeline) (p : Pipeline) :
    List (StageEntry × IdSupply) → Journaled Pipeline
  | [] => pure p
  | (.load path, ids) :: rest => do
    let loaded ← load ids (p.context.resolve path)
    let p ← splice fs directory ids p loaded
    addEntries load p rest
  | (.stage definition, ids) :: rest => do
    let p ← addStage p definition ids
    addEntries load p rest

/-- Loading a file by requests.  A file that is named keeps the same journal. -/
def loadFrom (runId : Nat) (chain : List Location) (ids : IdSupply) (path : Path) :
    Journaled Pipeline :=
  match _located : fileAt fs directory chain path with
  | .error e => lift (.error e)
  | .ok location => do
    let definition ← lift (definitionAt fs directory path)
    addEntries fs directory (loadFrom runId (location :: chain))
      ((Pipeline.ofDir (Location.path location.dropLast) runId).withAllowFailure
        definition.allowFailure) (ids.among definition.entries)
termination_by (unvisited fs chain).length
decreasing_by exact unvisited_lt (fileAt_spec _located).1 (fileAt_spec _located).2

variable {fs directory}

theorem loadFrom_of_fileAt_error {runId : Nat} {chain : List Location} {ids : IdSupply}
    {path : Path} {e : PipelineError} (refused : fileAt fs directory chain path = .error e) :
    loadFrom fs directory runId chain ids path = lift (.error e) := by
  rw [loadFrom]
  split
  · rename_i refused'
    cases refused.symm.trans refused'
    rfl
  · rename_i located
    cases refused.symm.trans located

theorem loadFrom_of_fileAt_ok {runId : Nat} {chain : List Location} {ids : IdSupply}
    {path : Path} {location : Location} (located : fileAt fs directory chain path = .ok location) :
    loadFrom fs directory runId chain ids path =
      lift (definitionAt fs directory path) >>= fun definition =>
        addEntries fs directory (loadFrom fs directory runId (location :: chain))
          ((Pipeline.ofDir (Location.path location.dropLast) runId).withAllowFailure
            definition.allowFailure) (ids.among definition.entries) := by
  rw [loadFrom]
  split
  · rename_i refused
    cases located.symm.trans refused
  · rename_i located'
    cases located.symm.trans located'
    rfl

end
end Journaled

/-! ## Requests that are granted -/

variable {fs : FileSystem} {directory : Location}

/-- A request that no guard stands against.  A call acts on what its handle stands on, at the end of the
pipeline, and has its effect there. -/
inductive Granted (fs : FileSystem) (directory : Location) (p : Pipeline) : Request → Prop
  | call {handle handle' : Handle} {c : Call} {q : Pipeline} (stands : handle.Stands p)
      (done : handle.call c p = .ok (handle', q)) (effect : Effect handle c p handle' q) :
      Granted fs directory p (.call handle c)
  | prepare {path : Path} {variableName id : String}
      (made : p.readIntoCommand path variableName true id =
        .ok (.readInto (p.baseDir.join path) variableName id)) :
      Granted fs directory p (.prepare path variableName id)
  | splice {loaded : Pipeline} {ids : IdSupply}
      (done : (Pipeline.load fs directory ids (.built loaded)).run p = .ok () (p.append loaded)) :
      Granted fs directory p (.splice loaded)

/-- How a program ends that comes to a result with a journal. -/
def Journal.ending {α : Type} (journal : Journal) :
    Except PipelineError α → EStateM.Result CallError Journal α
  | .ok a => .ok a journal
  | .error e => .error (.pipeline e) journal

/-- The program comes to the result.  All requests that it writes down on the way are granted, and the
calls among them are those given. -/
def Comes {α : Type} (fs : FileSystem) (directory : Location) (program : Journaled α)
    (calls : List Call) (result : Except PipelineError α) : Prop :=
  ∀ journal : Journal, ∃ made : Journal, made.calls = calls ∧
    (∀ entry ∈ made, Granted fs directory entry.1 entry.2) ∧
    program.run journal = Journal.ending (journal ++ made) result

namespace Comes

variable {α β : Type} {program : Journaled α} {f : α → Journaled β} {calls calls' : List Call}
  {a : α} {result : Except PipelineError β} {e : PipelineError}

theorem pure (a : α) : Comes fs directory (Pure.pure a) [] (.ok a) := by
  intro journal
  exact ⟨[], rfl, by simp, by simp [Journal.ending]⟩

theorem lift (found : Except PipelineError α) :
    Comes fs directory (Journaled.lift found) [] found := by
  intro journal
  refine ⟨[], rfl, by simp, ?_⟩
  rw [List.append_nil]
  cases found with
  | error e => rfl
  | ok a => rfl

theorem ask {p : Pipeline} {r : Request} {answer : Except CallError α}
    (granted : Granted fs directory p r) (answered : answer = .ok a) :
    Comes fs directory (Journaled.ask p r answer) r.call?.toList (.ok a) := by
  intro journal
  refine ⟨[(p, r)], ?_, by simpa using granted, ?_⟩
  · cases called : r.call? <;> simp [Journal.calls, called]
  · rw [answered]
    rfl

theorem bind (first : Comes fs directory program calls (.ok a))
    (onward : Comes fs directory (f a) calls' result) :
    Comes fs directory (program >>= f) (calls ++ calls') result := by
  intro journal
  rcases first journal with ⟨made, told, granted, ran⟩
  rcases onward (journal ++ made) with ⟨made', told', granted', ran'⟩
  -- What comes later is written down behind what is there already.
  refine ⟨made ++ made', ?_, ?_, ?_⟩
  · rw [← told, ← told', Journal.calls, List.filterMap_append]
    rfl
  · intro entry mem
    rcases List.mem_append.1 mem with early | late
    · exact granted entry early
    · exact granted' entry late
  · rw [EStateM.run_bind, ran]
    simpa [Journal.ending] using ran'

/-- After a failure nothing more is asked. -/
theorem bind_error (failed : Comes fs directory program calls (.error e)) :
    Comes fs directory (program >>= f) calls (.error e) := by
  intro journal
  rcases failed journal with ⟨made, told, granted, ran⟩
  refine ⟨made, told, granted, ?_⟩
  rw [EStateM.run_bind, ran]
  rfl

/-- Items that are taken one after another without calls. -/
theorem mapM {g : α → β} (each : ∀ item, Comes fs directory (f item) [] (.ok (g item)))
    (items : List α) : Comes fs directory (items.mapM f) [] (.ok (items.map g)) := by
  induction items with
  | nil => exact .pure []
  | cons item rest ih =>
      rw [List.mapM_cons]
      exact (each item).bind (ih.bind (.pure (g item :: rest.map g)))

/-- When each item is added by its calls, all items are added by theirs. -/
theorem foldlM {σ ι : Type} {callsOf : ι → List Call} (add : σ → ι → Journaled σ) (built : ι → β)
    (place : List β → σ)
    (each : ∀ done item, Comes fs directory (add (place done) item) (callsOf item)
      (.ok (place (done ++ [built item]))))
    (items : List ι) (done : List β) :
    Comes fs directory (items.foldlM add (place done)) (items.flatMap callsOf)
      (.ok (place (done ++ items.map built))) := by
  induction items generalizing done with
  | nil => simpa using Comes.pure (place done)
  | cons item rest ih =>
      have later := ih (done ++ [built item])
      rw [List.append_assoc] at later
      exact (each done item).bind later

end Comes

/-! ## What a description asks for -/

theorem comes_call {handle handle' : Handle} {c : Call} {p q : Pipeline} (stands : handle.Stands p)
    (done : handle.call c p = .ok (handle', q)) :
    Comes fs directory (Journaled.call handle c p) [c] (.ok (handle', q)) :=
  .ask (.call stands done (Handle.effect_of_call stands done)) done

/-- A node that was added with no leave to fail is given its flag. -/
theorem comes_allow {handle : Handle} (place : Bool → Pipeline) (stands : handle.Stands (place false))
    (done : handle.call .allowFailure (place false) = .ok (handle, place true))
    (allowFailure : Bool) :
    Comes fs directory (Journaled.allow allowFailure (handle, place false))
      (Call.allowing allowFailure) (.ok (handle, place allowFailure)) := by
  cases allowFailure with
  | false => exact .pure _
  | true => exact comes_call stands done

theorem comes_buildCommand (p : Pipeline) (definition : CommandDefinition) (id : String) :
    Comes fs directory (Journaled.buildCommand p definition id) []
      (.ok (definition.built p.baseDir id)) := by
  rcases definition with ⟨action, allowFailure⟩
  cases action with
  | run script => exact (Comes.pure _).bind (.pure _)
  | print params => exact (Comes.pure _).bind (.pure _)
  | readInto path variableName =>
      -- Its variable may be overwritten, whatever the pipeline holds.
      have made : p.readIntoCommand path variableName true id =
          .ok (.readInto (p.baseDir.join path) variableName id) :=
        Pipeline.readIntoCommand_free (.inl rfl) path id
      exact (Comes.ask (.prepare made) (by rw [made]; rfl)).bind (.pure _)

/-- A job is asked for while its stage is the last one, and then its handle stands on it. -/
theorem comes_addJob (p : Pipeline) (stage : Stage) (definition : JobDefinition) (ids : IdSupply) :
    Comes fs directory (Journaled.addJob (p.push stage) definition ids)
      (definition.built p.baseDir ids).calls
      (.ok (p.push (stage.push (definition.built p.baseDir ids)))) := by
  rcases definition with ⟨name, allowFailure, definitions⟩
  let built : List Command := (ids.among definitions).map fun c => c.1.built p.baseDir c.2.drawn
  have commands : Comes fs directory
      ((ids.among definitions).mapM fun c => Journaled.buildCommand (p.push stage) c.1 c.2.drawn) []
      (.ok built) :=
    Comes.mapM (fun c => comes_buildCommand (p.push stage) c.1 c.2.drawn) (ids.among definitions)
  have opened : Comes fs directory (Journaled.call .pipeline (.job name) (p.push stage))
      [.job name] (.ok (.job, p.push (stage.push (.ofName name)))) :=
    comes_call (.pipeline _) (by simp [Handle.call, Pipeline.addJob_push, Handle.root])
  have allowed : Comes fs directory
      (Journaled.allow allowFailure (.job, p.push (stage.push (.ofName name))))
      (Call.allowing allowFailure)
      (.ok (.job, p.push (stage.push ⟨name, allowFailure, [], .unstarted⟩))) :=
    comes_allow (fun flag => p.push (stage.push ⟨name, flag, [], .unstarted⟩)) (.job p stage _)
      (by simp [Handle.call, Job.withAllowFailure]) allowFailure
  -- Commands are added one by one to a job that has its flag already.
  let filledWith (commands : List Command) : Handle × Pipeline :=
    (.job, p.push (stage.push ⟨name, allowFailure, commands, .unstarted⟩))
  have pushed : ∀ done c, Comes fs directory
      (Journaled.call (filledWith done).1 (.command c) (filledWith done).2) [.command c]
      (.ok (filledWith (done ++ [c]))) := by
    intro done c
    exact comes_call (.job p stage _)
      (by simp [filledWith, Handle.call, Handle.pushCommand, Job.push])
  have filled := Comes.foldlM (fun on c => Journaled.call on.1 (.command c) on.2) id filledWith pushed
    built []
  have calls : (JobDefinition.built p.baseDir ⟨name, allowFailure, definitions⟩ ids).calls =
      [] ++ ([.job name] ++ (Call.allowing allowFailure ++
        (built.flatMap (fun c => [.command c]) ++ []))) := by
    rw [Job.calls, List.map_eq_flatMap]
    simp [JobDefinition.built, built]
  rw [calls, Journaled.addJob]
  refine commands.bind (opened.bind (allowed.bind (filled.bind ?_)))
  simpa [filledWith, JobDefinition.built, built] using Comes.pure _

theorem comes_addStage (p : Pipeline) (definition : StageDefinition) (ids : IdSupply) :
    Comes fs directory (Journaled.addStage p definition ids) (definition.built p.baseDir ids).calls
      (.ok (p.push (definition.built p.baseDir ids))) := by
  rcases definition with ⟨name, allowFailure, definitions⟩
  have opened : Comes fs directory (Journaled.call .pipeline (.stage name) p) [.stage name]
      (.ok (.stage, p.push (.ofName name))) :=
    comes_call (.pipeline p) rfl
  have allowed : Comes fs directory (Journaled.allow allowFailure (.stage, p.push (.ofName name)))
      (Call.allowing allowFailure) (.ok (.stage, p.push ⟨name, allowFailure, [], .unstarted⟩)) :=
    comes_allow (fun flag => p.push ⟨name, flag, [], .unstarted⟩) (.stage p _)
      (by simp [Handle.call, Stage.withAllowFailure]) allowFailure
  have added : ∀ done (j : JobDefinition × IdSupply), Comes fs directory
      (Journaled.addJob (p.push ⟨name, allowFailure, done, .unstarted⟩) j.1 j.2)
      (j.1.built p.baseDir j.2).calls
      (.ok (p.push ⟨name, allowFailure, done ++ [j.1.built p.baseDir j.2], .unstarted⟩)) := by
    intro done j
    exact comes_addJob p ⟨name, allowFailure, done, .unstarted⟩ j.1 j.2
  have filled := Comes.foldlM (fun p j => Journaled.addJob p j.1 j.2)
    (fun j => j.1.built p.baseDir j.2) (fun jobs => p.push ⟨name, allowFailure, jobs, .unstarted⟩)
    added (ids.among definitions) []
  have calls : (StageDefinition.built p.baseDir ⟨name, allowFailure, definitions⟩ ids).calls =
      [.stage name] ++ (Call.allowing allowFailure ++
        (ids.among definitions).flatMap fun j => (j.1.built p.baseDir j.2).calls) := by
    simp [StageDefinition.built, Stage.calls, List.flatMap_map]
  rw [calls, Journaled.addStage]
  exact opened.bind (allowed.bind filled)

/-! ## What a file asks for -/

/-- A pipeline that is built already is taken over without a failure. -/
theorem comes_splice (ids : IdSupply) (p loaded : Pipeline) :
    Comes fs directory (Journaled.splice fs directory ids p loaded) [] (.ok (p.append loaded)) := by
  have done : (Pipeline.load fs directory ids (.built loaded)).run p = .ok () (p.append loaded) :=
    Pipeline.load_of_gives (.built loaded)
  exact .ask (.splice done) (by rw [done])

/-- The program comes to the result, and the calls that it makes are those that the result shows beside
the ones from before. -/
def Told (fs : FileSystem) (directory : Location) (before : List Call)
    (program : Journaled Pipeline) (result : Except PipelineError Pipeline) : Prop :=
  ∃ calls, Comes fs directory program calls result ∧ ∀ p, result = .ok p → p.calls = before ++ calls

/-- Whatever stages a file has brought, the next one is added behind them, and it is the last one
while its jobs are added. -/
theorem told_addEntries {load : IdSupply → Path → Except PipelineError Pipeline}
    {ask : IdSupply → Path → Journaled Pipeline}
    (files : ∀ ids path, Told fs directory [] (ask ids path) (load ids path))
    (p : Pipeline) (entries : List (StageEntry × IdSupply)) :
    Told fs directory p.calls (Journaled.addEntries fs directory ask p entries)
      (addEntries load p entries) := by
  induction entries generalizing p with
  | nil =>
      refine ⟨[], .pure p, ?_⟩
      rintro _ ⟨⟩
      simp
  | cons entry rest ih =>
      rcases entry with ⟨entry, ids⟩
      cases entry with
      | stage definition =>
          rw [addEntries_stage, Journaled.addEntries]
          rcases ih (p.push (definition.built p.baseDir ids)) with ⟨calls, comes, told⟩
          refine ⟨_, (comes_addStage p definition ids).bind comes, ?_⟩
          intro q done
          rw [told q done]
          simp [Pipeline.calls, Pipeline.push]
      | load path =>
          -- The requests for the file come first, and with its failure everything ends.
          rw [Journaled.addEntries]
          rcases files ids (p.context.resolve path) with ⟨inner, asked, shown⟩
          cases loaded : load ids (p.context.resolve path) with
          | error e =>
              rw [addEntries_load_error loaded]
              rw [loaded] at asked
              refine ⟨inner, asked.bind_error, ?_⟩
              intro q done
              cases done
          | ok nested =>
              rw [addEntries_load_ok loaded]
              rw [loaded] at asked
              rcases ih (p.append nested) with ⟨calls, comes, told⟩
              refine ⟨_, asked.bind ((comes_splice ids p nested).bind comes), ?_⟩
              intro q done
              have inside : nested.calls = inner := shown nested loaded
              rw [told q done, ← inside]
              simp [Pipeline.calls, Pipeline.append]

/-- The recursion is that of loading. -/
theorem told_loadFrom (runId : Nat) (chain : List Location) (ids : IdSupply) (path : Path) :
    Told fs directory [] (Journaled.loadFrom fs directory runId chain ids path)
      (loadFrom fs directory runId chain ids path) := by
  cases located : fileAt fs directory chain path with
  | error e =>
      rw [Journaled.loadFrom_of_fileAt_error located, loadFrom_of_fileAt_error located]
      exact ⟨[], .lift (.error e), by simp⟩
  | ok location =>
      rw [Journaled.loadFrom_of_fileAt_ok located, loadFrom_of_fileAt_ok located]
      cases definitionAt fs directory path with
      | error e => exact ⟨[], (Comes.lift (.error e)).bind_error, by simp [Except.bind]⟩
      | ok definition =>
          have files : ∀ ids path, Told fs directory []
              (Journaled.loadFrom fs directory runId (location :: chain) ids path)
              (loadFrom fs directory runId (location :: chain) ids path) :=
            fun ids path => told_loadFrom runId (location :: chain) ids path
          exact told_addEntries files _ (ids.among definition.entries)
termination_by (unvisited fs chain).length
decreasing_by exact unvisited_lt (fileAt_spec located).1 (fileAt_spec located).2

/-! ## What goes wrong -/

theorem Fault.ofFile {v : Visit} {e : PipelineError} (fault : Fault fs directory v e) :
    e.OfFile := by
  cases fault with
  | missing => exact .notFound _
  | irregular => exact .invalidExport _ _
  | repeated => exact .invalidExport _ _
  | unreadable => exact .io _
  | malformed => exact .invalidExport _ _

theorem FirstFault.ofFile {v : Visit} {route : List Nat} {e : PipelineError}
    (first : FirstFault fs directory v route e) : e.OfFile := by
  rcases first with ⟨w, _, fault⟩
  exact fault.ofFile

end Definition

open Definition

/-- No guard stands against what loading asks of a pipeline, and no request is lost, whether loading
succeeds or not; loading by requests that are written down comes to the same.  So a stage is added as
a whole to any pipeline, and loading fails only for what is wrong with a file.  What it accepts is
built as it is written in the files, by one call for each stage, job, flag and command.  A pipeline
that loads a file fails in no other way, whatever stages and variables it has, and otherwise takes over
all that is built. -/
theorem loading_meets_no_guard (fs : FileSystem) (directory : Location) :
    (∀ runId ids path, ∃ journal : Journal,
      (Journaled.loadFrom fs directory runId [] ids path).run [] =
        journal.ending (Pipeline.ofFile fs directory runId ids path) ∧
      (∀ entry ∈ journal, Granted fs directory entry.1 entry.2) ∧
      ∀ loaded, Pipeline.ofFile fs directory runId ids path = .ok loaded →
        journal.calls = loaded.calls) ∧
    (∀ p definition ids,
      addStage p definition ids = .ok (p.push (definition.built p.baseDir ids))) ∧
    (∀ runId ids path e, Pipeline.ofFile fs directory runId ids path = .error e → e.OfFile) ∧
    (∀ runId ids path loaded, Pipeline.ofFile fs directory runId ids path = .ok loaded →
      ∃ file definition origins, Describes fs directory path file definition ∧
        Writes fs directory file (ids.among definition.entries) origins ∧
        loaded.allowFailure = definition.allowFailure ∧
        loaded.stages = origins.map Origin.built) ∧
    (∀ (p : Pipeline) (ids : IdSupply) (path : Path),
      (∀ e q, (Pipeline.load fs directory ids (.file path)).run p = .error e q →
        q = p ∧ e.OfFile) ∧
      ∀ q, (Pipeline.load fs directory ids (.file path)).run p = .ok () q →
        ∃ loaded,
          Pipeline.ofFile fs directory p.context.runId ids (p.baseDir.join path) = .ok loaded ∧
          q = p.append loaded) := by
  refine ⟨?_, addStage_ok, ?_, ?_, ?_⟩
  · intro runId ids path
    have journaled : Told fs directory [] (Journaled.loadFrom fs directory runId [] ids path)
        (Pipeline.ofFile fs directory runId ids path) := told_loadFrom runId [] ids path
    rcases journaled with ⟨calls, comes, told⟩
    rcases comes [] with ⟨journal, made, granted, ran⟩
    refine ⟨journal, ran, granted, ?_⟩
    intro loaded accepted
    rw [made, told loaded accepted, List.nil_append]
  · intro runId ids path e failed
    rcases (loadFrom_error_iff runId ids ⟨[], path⟩ e).1 failed with ⟨route, first⟩
    exact first.ofFile
  · intro runId ids path loaded accepted
    rcases Pipeline.origins_of_ofFile accepted with
      ⟨file, definition, origins, describes, writes, _, same⟩
    exact ⟨file, definition, origins, describes, writes,
      allowFailure_of_describes accepted describes, same⟩
  · intro p ids path
    constructor
    · intro e q failed
      rcases Pipeline.load_error_iff.1 failed with ⟨same, fails⟩
      cases fails with
      | file first => exact ⟨same, first.ofFile⟩
    · intro q done
      rcases Pipeline.load_ok_iff.1 done with ⟨loaded, gives, same⟩
      cases gives with
      | file sound means => exact ⟨loaded, Pipeline.ofFile_ok_iff.2 ⟨sound, means⟩, same⟩

/-- A file that loads another one before its own stage.  The other one writes a stage without a job. -/
def FileSystem.joblessFirst : FileSystem :=
  ⟨[(["p.yml"], .file ("pipelyne:\n stages:\n - load: q.yml\n - name: t\n   allowFailure: true\n" ++
        "   jobs:\n   - name: k\n     commands:\n     - readFile:\n         path: V\n" ++
        "         variable: v\n").toUTF8 false),
      (["q.yml"], .file "pipelyne:\n stages:\n - name: s\n".toUTF8 false)]⟩

/-- The stage that the first file writes. -/
def StageDefinition.lenient : StageDefinition :=
  ⟨"t", true, [⟨"k", false, [⟨.readInto ⟨"V"⟩ "v", false⟩]⟩]⟩

theorem FileSystem.describes_joblessFirst :
    Describes joblessFirst [] ⟨"/p.yml"⟩ ["p.yml"] ⟨false, [.load ⟨"q.yml"⟩, .stage .lenient]⟩ ∧
      Describes joblessFirst [] ⟨"/q.yml"⟩ ["q.yml"] ⟨false, [.stage ⟨"s", false, []⟩]⟩ := by
  have parts : (⟨"/p.yml"⟩ : Path).components = ["p.yml"] ∧
      (⟨"/q.yml"⟩ : Path).components = ["q.yml"] := by decide
  have absolute : (⟨"/p.yml"⟩ : Path).isAbsolute = true ∧
      (⟨"/q.yml"⟩ : Path).isAbsolute = true := by decide
  have sizes : ¬ longestPath < "/p.yml".utf8ByteSize ∧ ¬ longestPath < "/q.yml".utf8ByteSize ∧
      ¬ longestName < "p.yml".utf8ByteSize ∧ ¬ longestName < "q.yml".utf8ByteSize := by decide
  have outer : joblessFirst.locateExisting [] ⟨"/p.yml"⟩ = .ok ["p.yml"] := by
    simp [joblessFirst, locateExisting, locate, parts, absolute, sizes, follow, isDirectory, entry?,
      entryIn]
  have inner : joblessFirst.locateExisting [] ⟨"/q.yml"⟩ = .ok ["q.yml"] := by
    simp [joblessFirst, locateExisting, locate, parts, absolute, sizes, follow, isDirectory, entry?,
      entryIn]
  exact ⟨describes_of_file outer rfl (by decide +kernel),
    describes_of_file inner rfl (by decide +kernel)⟩

/-- Right before the stage of the first file is added, the last one has no job.  Its command reads into
a variable that has a value in the pipeline that loads the file. -/
theorem loading_meets_no_guard_joblessFirst :
    let fs := FileSystem.joblessFirst
    let p : Pipeline :=
      { Pipeline.ofDir ⟨"/"⟩ 0 with
        context := { Context.ofDir ⟨"/"⟩ 0 with store := Store.empty.insert "v" (.text "x") } }
    let ids : IdSupply := .ofSeed 0
    let loaded : Pipeline :=
      ⟨[.ofName "s", StageDefinition.lenient.built ⟨"/"⟩ (ids.part 1)], false, .unstarted,
        .ofDir ⟨"/"⟩ 0⟩
    (Pipeline.load fs [] ids (.file ⟨"p.yml"⟩)).run p = .ok () (p.append loaded) ∧
      ∃ journal : Journal,
        (Journaled.loadFrom fs [] 0 [] ids ⟨"/p.yml"⟩).run [] = .ok loaded journal ∧
        (∀ entry ∈ journal, Granted fs [] entry.1 entry.2) ∧
        journal.calls =
          [.stage "s", .stage "t", .allowFailure, .job "k",
            .command (.readInto ⟨"/V"⟩ "v" (ids [1, 0, 0]))] := by
  intro fs p ids loaded
  rcases FileSystem.describes_joblessFirst with ⟨outer, inner⟩
  have whole := loadFrom_of_describes (v := ⟨[], ⟨"/p.yml"⟩⟩) 0 ids outer (by simp)
  have within := loadFrom_of_describes (v := ⟨[["p.yml"]], ⟨"/q.yml"⟩⟩) 0 (ids.part 0) inner
    (by simp)
  rw [build, IdSupply.among, List.zipIdx_singleton, List.map_singleton, addEntries_stage] at within
  have parts : ids.among [StageEntry.load ⟨"q.yml"⟩, .stage .lenient] =
      [(.load ⟨"q.yml"⟩, ids.part 0), (.stage .lenient, ids.part 1)] := rfl
  rw [build, parts, addEntries_load_ok within, addEntries_stage] at whole
  have accepted : Pipeline.ofFile fs [] 0 ids ⟨"/p.yml"⟩ = .ok loaded := whole
  have place : p.baseDir.join ⟨"p.yml"⟩ = ⟨"/p.yml"⟩ := by decide
  have gives : PipelineSource.Gives fs [] ids p (.file ⟨"p.yml"⟩) loaded := by
    rcases Pipeline.ofFile_ok_iff.1 accepted with ⟨sound, means⟩
    rw [← place] at sound means
    exact .file sound means
  rcases loading_meets_no_guard fs [] with ⟨journaled, _, _, _, _⟩
  rcases journaled 0 ids ⟨"/p.yml"⟩ with ⟨journal, ran, granted, told⟩
  refine ⟨Pipeline.load_of_gives gives, journal, ?_, granted, ?_⟩
  · rw [ran, accepted]
    rfl
  · exact told loaded accepted

end CiPipeline
