import CiPipeline.Proofs.Definition.Flattening
import CiPipeline.Proofs.Path.Join
import CiPipeline.Proofs.Run.Place

/-!
# Origins — where the commands of a loaded file are written

Each stage of a loaded file is written in one of the files that loading visits, and is built in the
directory of this file.  The directory is known by its location, from the root on, so the paths that
are stored on commands are absolute.

* `Origin`: a stage as it is written, and the file that it is written in;
* `Writes`: the origins of the stages that entries stand for;
* `Flattens.origins`: flattening builds the origins, each in the directory of its file;
* `Pipeline.origins_of_ofFile`: so a loaded file has origins, and `Origin.command?` finds its commands;
* `Command.Fixed`: paths that no base directory moves.
-/

namespace CiPipeline
namespace Definition

/-- A stage as it is written, the location of the file that it is written in, and the identifiers for
its commands. -/
structure Origin where
  file : Location
  definition : StageDefinition
  ids : IdSupply

namespace Origin

/-- The directory of the file. -/
def directory (origin : Origin) : Path := Location.path origin.file.dropLast

def built (origin : Origin) : Stage := origin.definition.built origin.directory origin.ids

/-- The command that is written as the given one of the given job. -/
def command? (origin : Origin) (j k : Nat) : Option CommandDefinition :=
  origin.definition.jobs[j]?.bind fun job => job.commands[k]?

/-- The identifier that is drawn for this command. -/
def drawn (origin : Origin) (j k : Nat) : String := ((origin.ids.part j).part k).drawn

end Origin

variable {fs : FileSystem} {directory : Location}

/-- The origins of the stages that the entries of a file stand for, in their order. -/
inductive Writes (fs : FileSystem) (directory : Location) :
    Location → List (StageEntry × IdSupply) → List Origin → Prop
  | nil {file : Location} : Writes fs directory file [] []
  | stage {file : Location} {definition : StageDefinition} {ids : IdSupply}
      {rest : List (StageEntry × IdSupply)} {origins : List Origin}
      (onward : Writes fs directory file rest origins) :
      Writes fs directory file ((.stage definition, ids) :: rest)
        (⟨file, definition, ids⟩ :: origins)
  | load {file location : Location} {path : Path} {ids : IdSupply} {definition : Definition}
      {rest : List (StageEntry × IdSupply)} {inner origins : List Origin}
      (describes : Describes fs directory ((Location.path file.dropLast).join path) location
        definition)
      (within : Writes fs directory location (ids.among definition.entries) inner)
      (onward : Writes fs directory file rest origins) :
      Writes fs directory file ((.load path, ids) :: rest) (inner ++ origins)

/-- An origin is written where it says: in the file around it or in one that is loaded from there. -/
theorem Writes.written {file : Location} {entries : List (StageEntry × IdSupply)}
    {origins : List Origin} (writes : Writes fs directory file entries origins) {origin : Origin}
    (mem : origin ∈ origins) :
    origin.file = file ∧ .stage origin.definition ∈ entries.map Prod.fst ∨
      ∃ path definition, Describes fs directory path origin.file definition ∧
        .stage origin.definition ∈ definition.entries := by
  induction writes with
  | nil => cases mem
  | @stage _ definition _ rest _ _ ih =>
      rcases List.mem_cons.1 mem with rfl | later
      · exact .inl ⟨rfl, List.mem_cons_self⟩
      · rcases ih later with ⟨same, there⟩ | elsewhere
        · exact .inl ⟨same, List.mem_cons_of_mem _ there⟩
        · exact .inr elsewhere
  | @load _ _ path ids definition rest _ _ describes _ _ ihFile ih =>
      rcases List.mem_append.1 mem with within | later
      · rcases ihFile within with ⟨same, there⟩ | elsewhere
        · rw [IdSupply.map_fst_among] at there
          exact .inr ⟨_, definition, same ▸ describes, there⟩
        · exact .inr elsewhere
      · rcases ih later with ⟨same, there⟩ | elsewhere
        · exact .inl ⟨same, List.mem_cons_of_mem _ there⟩
        · exact .inr elsewhere

/-- What entries stand for in the directory of a file has origins. -/
theorem Flattens.origins {baseDir : Path} {file : Location}
    {entries : List (StageEntry × IdSupply)} {stages : List Stage}
    (flattens : Flattens fs directory baseDir entries stages)
    (inside : baseDir = Location.path file.dropLast) :
    ∃ origins, Writes fs directory file entries origins ∧ stages = origins.map Origin.built := by
  -- A file that is named is the one whose directory the entries inside it are read in.
  induction flattens generalizing file with
  | nil => exact ⟨[], .nil, rfl⟩
  | @stage _ definition ids rest _ onward ih =>
      subst inside
      rcases ih rfl with ⟨origins, writes, rfl⟩
      exact ⟨⟨file, definition, ids⟩ :: origins, .stage writes, rfl⟩
  | @load _ path ids location definition rest _ _ describes within onward ihFile ih =>
      subst inside
      rcases @ihFile location rfl with ⟨inner, writesFile, rfl⟩
      rcases ih rfl with ⟨origins, writes, rfl⟩
      exact ⟨inner ++ origins, .load describes writesFile writes, by rw [List.map_append]⟩

end Definition

open Definition

variable {fs : FileSystem} {directory : Location} {runId : Nat} {ids : IdSupply} {path : Path}
  {loaded : Pipeline}

/-- The stages of a loaded file are its origins, each built in the directory of its own file. -/
theorem Pipeline.origins_of_ofFile (accepted : ofFile fs directory runId ids path = .ok loaded) :
    ∃ file definition origins, Describes fs directory path file definition ∧
      Writes fs directory file (ids.among definition.entries) origins ∧
      (∀ origin ∈ origins, ∃ path definition, Describes fs directory path origin.file definition ∧
        .stage origin.definition ∈ definition.entries) ∧
      loaded.stages = origins.map Origin.built := by
  cases loadFrom_means accepted with
  | @intro file definition _ describes flattens =>
      rcases flattens.origins rfl with ⟨origins, writes, same⟩
      refine ⟨file, definition, origins, describes, writes, fun origin mem => ?_, same⟩
      rcases writes.written mem with ⟨here, there⟩ | elsewhere
      · rw [IdSupply.map_fst_among] at there
        exact ⟨path, definition, here ▸ describes, there⟩
      · exact elsewhere

/-- The command at a place of built stages is built from the one that is written there. -/
theorem Pipeline.command?_of_origins {origins : List Origin}
    (same : loaded.stages = origins.map Origin.built) (i j k : Nat) :
    loaded.command? i j k = origins[i]?.bind fun origin =>
      (origin.command? j k).map fun c => c.built origin.directory (origin.drawn j k) := by
  rw [command?, job?, same, List.getElem?_map]
  cases origins[i]? with
  | none => rfl
  | some origin =>
      -- What is written is looked up first among the jobs and then among the commands of one.
      change (((origin.ids.among origin.definition.jobs).map _)[j]?).bind _ = _
      rw [List.getElem?_map, IdSupply.getElem?_among]
      change _ = (origin.definition.jobs[j]?.bind _).map _
      cases origin.definition.jobs[j]? with
      | none => rfl
      | some job =>
          change (((origin.ids.part j).among job.commands).map _)[k]? = _
          rw [List.getElem?_map, IdSupply.getElem?_among, Option.map_map]
          rfl

theorem Pipeline.exists_origin_of_mem (accepted : ofFile fs directory runId ids path = .ok loaded)
    {c : Command} (mem : c ∈ loaded.commands) :
    ∃ (origin : Origin) (definition : CommandDefinition) (id : String),
      c = definition.built origin.directory id := by
  rcases origins_of_ofFile accepted with ⟨_, _, origins, _, _, _, same⟩
  rcases mem_commands.1 mem with ⟨i, j, k, found⟩
  rw [command?_of_origins same] at found
  rcases Option.bind_eq_some_iff.1 found with ⟨origin, _, built⟩
  rcases Option.map_eq_some_iff.1 built with ⟨definition, _, rfl⟩
  exact ⟨origin, definition, _, rfl⟩

/-! ## Paths that stay -/

theorem Location.isAbsolute_path (l : Location) : (Location.path l).isAbsolute = true := by
  simp [Location.path, Path.isAbsolute, String.toList_append]

/-- The path of a file command is absolute, so that no base directory moves it. -/
def Command.Fixed (c : Command) : Prop :=
  ∀ operation path variableName, c.action = .file operation path variableName →
    path.isAbsolute = true

theorem CommandDefinition.fixed_built (definition : CommandDefinition) (file : Location)
    (id : String) : (definition.built (Location.path file) id).Fixed := by
  intro operation path variableName reads
  rcases definition with ⟨action, allowFailure⟩
  cases action with
  | run script => cases reads
  | print params => cases reads
  | readInto written variableName' =>
      cases reads
      rw [Path.isAbsolute_join, Location.isAbsolute_path, Bool.or_true]

theorem Pipeline.fixed_of_ofFile (accepted : ofFile fs directory runId ids path = .ok loaded) :
    ∀ c ∈ loaded.commands, c.Fixed := by
  intro c mem
  rcases exists_origin_of_mem accepted mem with ⟨origin, definition, id, rfl⟩
  exact definition.fixed_built _ id

end CiPipeline
