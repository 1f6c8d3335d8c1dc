import CiPipeline.Definition.Basic
import CiPipeline.Identifier
import CiPipeline.Machine.FileSystem
import CiPipeline.Pipeline.Build

/-!
# Load — pipelines from definition files

A definition file becomes a pipeline whose base directory is the directory of the file.  The files
that it names are loaded in turn; a file that is still being loaded must not be loaded again.  Each
command is made with an identifier that is drawn for it.

* `Definition.buildCommand`, `addJob`, `addStage`, `build`: the pipeline of a description;
* `Definition.loadFrom`: the pipeline of a file, inside a chain of files that load each other;
* `Pipeline.ofFile`: the pipeline of a file;
* `PipelineSource`, `Pipeline.load`: the stages of another pipeline or of a file, added at the end.
-/

namespace CiPipeline
namespace Definition

/-! ## Building -/

def buildCommand (p : Pipeline) (definition : CommandDefinition) (id : String) :
    Except PipelineError Command := do
  let c ←
    match definition.action with
    | .run script => .ok (Command.run script id)
    | .readInto path variableName => p.readIntoCommand path variableName true id
    | .print params => .ok (Command.print params id)
  .ok (c.withAllowFailure definition.allowFailure)

/-- Adds a job to the last stage.  Its commands are prepared before the job is there. -/
def addJob (p : Pipeline) (definition : JobDefinition) (ids : IdSupply) :
    Except PipelineError Pipeline := do
  let commands ← (ids.among definition.commands).mapM fun c => buildCommand p c.1 c.2.drawn
  let p ← p.addJob definition.name
  let p := if definition.allowFailure then p.onLastJob (·.withAllowFailure true) else p
  .ok (commands.foldl (fun p c => p.onLastJob (·.push c)) p)

/-- Adds a stage, and to it one job after another. -/
def addStage (p : Pipeline) (definition : StageDefinition) (ids : IdSupply) :
    Except PipelineError Pipeline :=
  let p := p.addStage definition.name
  let p := if definition.allowFailure then p.onLastStage (·.withAllowFailure true) else p
  (ids.among definition.jobs).foldlM (fun p j => addJob p j.1 j.2) p

/-- Adds the entries in order; `load` gives the pipeline of a file. -/
def addEntries (load : IdSupply → Path → Except PipelineError Pipeline) (p : Pipeline) :
    List (StageEntry × IdSupply) → Except PipelineError Pipeline
  | [] => .ok p
  | (.load path, ids) :: rest => do
    let loaded ← load ids (p.context.resolve path)
    addEntries load (p.append loaded) rest
  | (.stage definition, ids) :: rest => do
    let p ← addStage p definition ids
    addEntries load p rest

/-- The pipeline of a description in a directory. -/
def build (load : IdSupply → Path → Except PipelineError Pipeline) (baseDir : Path) (runId : Nat)
    (ids : IdSupply) (definition : Definition) : Except PipelineError Pipeline :=
  addEntries load ((Pipeline.ofDir baseDir runId).withAllowFailure definition.allowFailure)
    (ids.among definition.entries)

/-! ## Files -/

/-- The regular files that are not in the chain. -/
def unvisited (fs : FileSystem) (chain : List Location) : List (Location × Entry) :=
  fs.entries.filter fun entry => !chain.contains entry.1

/-- Where a definition file is; it must be a regular file and must not be in the chain. -/
def fileAt (fs : FileSystem) (directory : Location) (chain : List Location) (path : Path) :
    Except PipelineError Location :=
  match fs.locateExisting directory path with
  | .error _ => .error (.notFound path)
  | .ok location =>
    if !fs.isRegular location then .error (.invalidExport path "not a regular file")
    else if chain.contains location then .error (.invalidExport path "the file loads itself")
    else .ok location

theorem fileAt_spec {fs : FileSystem} {directory : Location} {chain : List Location} {path : Path}
    {location : Location} (h : fileAt fs directory chain path = .ok location) :
    fs.isRegular location = true ∧ chain.contains location = false := by
  unfold fileAt at h
  split at h
  · cases h
  · split at h
    · cases h
    · split at h
      · cases h
      · cases h
        simp_all

theorem unvisited_lt {fs : FileSystem} {chain : List Location} {location : Location}
    (regular : fs.isRegular location = true) (fresh : chain.contains location = false) :
    (unvisited fs (location :: chain)).length < (unvisited fs chain).length := by
  obtain ⟨entry, mem⟩ := FileSystem.mem_of_isRegular regular
  have smaller : unvisited fs (location :: chain) =
      (unvisited fs chain).filter fun entry => entry.1 != location := by
    simp only [unvisited, List.filter_filter]
    congr 1
    funext entry
    by_cases h : entry.1 = location <;> simp [h]
  rw [smaller, List.length_filter_lt_length_iff_exists]
  refine ⟨(location, entry), ?_, by simp⟩
  simp only [unvisited, List.mem_filter]
  exact ⟨mem, by rw [fresh]; rfl⟩

/-- The description in a file. -/
def definitionAt (fs : FileSystem) (directory : Location) (path : Path) :
    Except PipelineError Definition :=
  match fs.readText directory path with
  | .error problem => .error (.io problem)
  | .ok text => parse text path

/-- The pipeline of the file at a path; the files of the chain are being loaded already. -/
def loadFrom (fs : FileSystem) (directory : Location) (runId : Nat) (chain : List Location)
    (ids : IdSupply) (path : Path) : Except PipelineError Pipeline :=
  match _located : fileAt fs directory chain path with
  | .error e => .error e
  | .ok location =>
    match definitionAt fs directory path with
    | .error e => .error e
    | .ok definition =>
      build (loadFrom fs directory runId (location :: chain)) (Location.path location.dropLast)
        runId ids definition
termination_by (unvisited fs chain).length
decreasing_by exact unvisited_lt (fileAt_spec _located).1 (fileAt_spec _located).2

end Definition

/-- Where stages are loaded from: a pipeline that is there already, or the file at a path. -/
inductive PipelineSource where
  | built (pipeline : Pipeline)
  | file (path : Path)

namespace Pipeline

/-- The pipeline that the file at a path describes. -/
def ofFile (fs : FileSystem) (directory : Location) (runId : Nat) (ids : IdSupply) (path : Path) :
    Except PipelineError Pipeline :=
  Definition.loadFrom fs directory runId [] ids path

/-- Adds the stages of the file at a path, which is relative to the base directory. -/
def loadFile (fs : FileSystem) (directory : Location) (ids : IdSupply) (p : Pipeline)
    (path : Path) : Except PipelineError Pipeline := do
  let loaded ← ofFile fs directory p.context.runId ids (p.context.resolve path)
  .ok (p.append loaded)

/-- Adds the stages of a source to the pipeline at hand, which a failure leaves as it finds it. -/
def load (fs : FileSystem) (directory : Location) (ids : IdSupply) :
    PipelineSource → EStateM PipelineError Pipeline Unit
  | .built loaded => modify (·.append loaded)
  | .file path => do
    let p ← get
    let extended ← ofExcept (p.loadFile fs directory ids path)
    set extended

end Pipeline
end CiPipeline
