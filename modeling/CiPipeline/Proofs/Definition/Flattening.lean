import CiPipeline.Proofs.Definition.Acceptance
import CiPipeline.Proofs.Definition.Calls
import CiPipeline.Proofs.Run.Masking

/-!
# Flattening — what a loaded file means

The stages of a file are those that it writes and, in the place of each file that it names, the
stages of that file.  Each stage belongs to the directory of the file that writes it; the flag and
the directory of the pipeline are those of the first file alone.  The commands have the identifiers
that are drawn for them, and with other identifiers all else is the same.

* `Flattens`: the stages that entries stand for in a directory;
* `Flattens.unique`, `Flattens.redraw`: they stand for these stages only, up to identifiers;
* `Means`: the pipeline that the file at a path means;
* `Means.redraw`: what it means when other identifiers are drawn;
* `loadFrom_means`: loading gives this pipeline;
* `Pipeline.ofFile_means`: so a file is loaded, or built by calls when it names no others.
-/

namespace CiPipeline

/-! ## Identifiers -/

theorem CommandDefinition.masked_built_eq (mask : String) (baseDir : Path)
    (definition : CommandDefinition) (id id' : String) :
    (definition.built baseDir id).masked mask = (definition.built baseDir id').masked mask := by
  rcases definition with ⟨action, allowFailure⟩
  cases action with
  | run script => rfl
  | readInto path variableName => rfl
  | print params => rfl

theorem JobDefinition.masked_built_eq (mask : String) (baseDir : Path) (definition : JobDefinition)
    (ids ids' : IdSupply) :
    (definition.built baseDir ids).masked mask = (definition.built baseDir ids').masked mask := by
  have commands := IdSupply.map_among_eq
    (fun c ids ids' => CommandDefinition.masked_built_eq mask baseDir c ids.drawn ids'.drawn)
    ids ids' definition.commands
  simp only [built, Job.masked, List.map_map, Function.comp_def, commands]

/-- Under a mask it cannot be seen from which supply a stage has its identifiers. -/
theorem StageDefinition.masked_built_eq (mask : String) (baseDir : Path)
    (definition : StageDefinition) (ids ids' : IdSupply) :
    (definition.built baseDir ids).masked mask = (definition.built baseDir ids').masked mask := by
  have jobs := IdSupply.map_among_eq (JobDefinition.masked_built_eq mask baseDir) ids ids'
    definition.jobs
  simp only [built, Stage.masked, List.map_map, Function.comp_def, jobs]

namespace Definition

variable {fs : FileSystem} {directory : Location} {ids : IdSupply}

/-! ## Flattening -/

/-- The stages that entries stand for in a directory.  Of a file that is named only the entries count,
and they are read in the directory of that file. -/
inductive Flattens (fs : FileSystem) (directory : Location) :
    Path → List (StageEntry × IdSupply) → List Stage → Prop
  | nil {baseDir : Path} : Flattens fs directory baseDir [] []
  | stage {baseDir : Path} {definition : StageDefinition} {ids : IdSupply}
      {rest : List (StageEntry × IdSupply)} {stages : List Stage}
      (onward : Flattens fs directory baseDir rest stages) :
      Flattens fs directory baseDir ((.stage definition, ids) :: rest)
        (definition.built baseDir ids :: stages)
  | load {baseDir path : Path} {ids : IdSupply} {location : Location} {definition : Definition}
      {rest : List (StageEntry × IdSupply)} {inner stages : List Stage}
      (describes : Describes fs directory (baseDir.join path) location definition)
      (file : Flattens fs directory (Location.path location.dropLast)
        (ids.among definition.entries) inner)
      (onward : Flattens fs directory baseDir rest stages) :
      Flattens fs directory baseDir ((.load path, ids) :: rest) (inner ++ stages)

theorem Flattens.unique {baseDir : Path} {entries : List (StageEntry × IdSupply)}
    {stages stages' : List Stage}
    (one : Flattens fs directory baseDir entries stages)
    (other : Flattens fs directory baseDir entries stages') : stages = stages' := by
  induction one generalizing stages' with
  | nil =>
      cases other with
      | nil => rfl
  | stage onward ih =>
      cases other with
      | stage onward' => rw [ih onward']
  | load describes file onward ihFile ih =>
      cases other with
      | load describes' file' onward' =>
          rcases describes.unique describes' with ⟨rfl, rfl⟩
          rw [ihFile file', ih onward']

/-- The same entries with other supplies stand for the same stages up to identifiers. -/
theorem Flattens.redraw {baseDir : Path} {entries entries' : List (StageEntry × IdSupply)}
    {stages : List Stage} (flattens : Flattens fs directory baseDir entries stages)
    (same : entries'.map Prod.fst = entries.map Prod.fst) :
    ∃ stages', Flattens fs directory baseDir entries' stages' ∧
      ∀ mask, stages'.map (Stage.masked mask) = stages.map (Stage.masked mask) := by
  -- The files that are named have supplies of their own as well, so the entries are not fixed.
  induction flattens generalizing entries' with
  | nil =>
      cases List.map_eq_nil_iff.1 same
      exact ⟨[], .nil, fun _ => rfl⟩
  | @stage baseDir definition _ rest stages _ ih =>
      rcases List.map_eq_cons_iff.1 same with ⟨⟨entry, ids'⟩, rest', rfl, rfl, more⟩
      rcases ih more with ⟨stages', onward, masked⟩
      refine ⟨_, .stage onward, fun mask => ?_⟩
      rw [List.map_cons, List.map_cons, masked, definition.masked_built_eq mask baseDir ids']
  | @load baseDir path ids location definition rest inner stages describes _ _ ihFile ih =>
      rcases List.map_eq_cons_iff.1 same with ⟨⟨entry, ids'⟩, rest', rfl, rfl, more⟩
      have again : (ids'.among definition.entries).map Prod.fst =
          (ids.among definition.entries).map Prod.fst := by simp
      rcases ihFile again with ⟨inner', file, within⟩
      rcases ih more with ⟨stages', onward, masked⟩
      refine ⟨_, .load describes file onward, fun mask => ?_⟩
      rw [List.map_append, List.map_append, within, masked]

/-- The pipeline that the file at a path means, not yet run and without variables. -/
inductive Means (fs : FileSystem) (directory : Location) (runId : Nat) (ids : IdSupply)
    (path : Path) : Pipeline → Prop
  | intro {location : Location} {definition : Definition} {stages : List Stage}
      (describes : Describes fs directory path location definition)
      (flattens : Flattens fs directory (Location.path location.dropLast)
        (ids.among definition.entries) stages) :
      Means fs directory runId ids path
        { stages := stages
          allowFailure := definition.allowFailure
          state := .unstarted
          context := .ofDir (Location.path location.dropLast) runId }

theorem Means.unique {runId : Nat} {ids : IdSupply} {path : Path} {p q : Pipeline}
    (one : Means fs directory runId ids path p) (other : Means fs directory runId ids path q) :
    p = q := by
  cases one with
  | intro describes flattens =>
      cases other with
      | intro describes' flattens' =>
          rcases describes.unique describes' with ⟨rfl, rfl⟩
          rw [flattens.unique flattens']

/-- What a file means has no variables, and the directory of the file. -/
theorem Means.context_eq {runId : Nat} {path : Path} {p : Pipeline}
    (means : Means fs directory runId ids path p) : p.context = .ofDir p.baseDir runId := by
  cases means
  rfl

/-- A file that is loaded again, in another run, means the same but for the identifiers that are
drawn. -/
theorem Means.redraw {runId : Nat} {path : Path} {p : Pipeline}
    (means : Means fs directory runId ids path p) (runId' : Nat) (ids' : IdSupply) :
    ∃ stages, Means fs directory runId' ids' path
        { p with stages := stages, context := .ofDir p.baseDir runId' } ∧
      (∀ mask, stages.map (Stage.masked mask) = p.stages.map (Stage.masked mask)) ∧
      (ids' = ids → stages = p.stages) := by
  cases means with
  | @intro location definition stages describes flattens =>
      have again : (ids'.among definition.entries).map Prod.fst =
          (ids.among definition.entries).map Prod.fst := by simp
      rcases flattens.redraw again with ⟨stages', redrawn, masked⟩
      refine ⟨stages', .intro describes redrawn, masked, ?_⟩
      rintro rfl
      exact redrawn.unique flattens

/-- The stages of a loaded file join the others in its place, whatever flag and directory it has. -/
theorem flattens_of_addEntries {load : IdSupply → Path → Except PipelineError Pipeline}
    {runId : Nat} {p q : Pipeline} {entries : List (StageEntry × IdSupply)}
    (files : ∀ ids path loaded, load ids path = .ok loaded →
      Means fs directory runId ids path loaded)
    (added : addEntries load p entries = .ok q) :
    ∃ stages, Flattens fs directory p.baseDir entries stages ∧
      q = { p with stages := p.stages ++ stages } := by
  induction entries generalizing p with
  | nil =>
      cases added
      exact ⟨[], .nil, by simp⟩
  | cons entry rest ih =>
      rcases entry with ⟨entry, ids⟩
      cases entry with
      | stage definition =>
          rw [addEntries_stage] at added
          rcases ih added with ⟨stages, onward, rfl⟩
          exact ⟨_, .stage onward, by simp [Pipeline.push]⟩
      | load path =>
          cases loaded : load ids (p.baseDir.join path) with
          | error e =>
              rw [addEntries_load_error loaded] at added
              cases added
          | ok nested =>
              rw [addEntries_load_ok loaded] at added
              rcases ih added with ⟨stages, onward, rfl⟩
              cases files _ _ nested loaded with
              | intro describes file =>
                  exact ⟨_, .load describes file onward, by simp [Pipeline.append]⟩

/-- The recursion is that of loading: the files that are named are loaded inside a longer chain. -/
theorem loadFrom_means {runId : Nat} {chain : List Location} {ids : IdSupply} {path : Path}
    {p : Pipeline} (loaded : loadFrom fs directory runId chain ids path = .ok p) :
    Means fs directory runId ids path p := by
  rcases fault_or_describes fs directory ⟨chain, path⟩ with
    ⟨e, fault⟩ | ⟨location, definition, describes, fresh⟩
  · have failed := loadFrom_of_fault runId ids fault
    cases loaded.symm.trans failed
  · have built := loadFrom_of_describes runId ids describes fresh
    have files : ∀ ids path nested,
        loadFrom fs directory runId (location :: chain) ids path = .ok nested →
          Means fs directory runId ids path nested :=
      fun ids path nested loaded => loadFrom_means loaded
    rcases flattens_of_addEntries files (built.symm.trans loaded) with ⟨stages, flattens, rfl⟩
    exact .intro describes flattens
termination_by (unvisited fs chain).length
decreasing_by exact unvisited_lt describes.regular (by simpa using fresh)

/-- The pipeline of a file has the flag of this file, whatever flags other files have. -/
theorem allowFailure_of_describes {runId : Nat} {ids : IdSupply} {path : Path} {p : Pipeline}
    {location : Location} {definition : Definition}
    (accepted : Pipeline.ofFile fs directory runId ids path = .ok p)
    (describes : Describes fs directory path location definition) :
    p.allowFailure = definition.allowFailure := by
  cases loadFrom_means accepted with
  | intro describes' flattens =>
      rcases describes.unique describes' with ⟨rfl, rfl⟩
      rfl

end Definition

end CiPipeline
