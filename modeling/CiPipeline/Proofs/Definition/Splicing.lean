import CiPipeline.Dump.Outline
import CiPipeline.Export.Travis
import CiPipeline.Proofs.Definition.Flattening

/-!
# Splicing — the stages of another pipeline

A pipeline takes over the stages of a source, which is another pipeline or a file.  A file is loaded
apart from the pipeline, with all files that it names, and its stages are taken over when it is
there as a whole; so whatever goes wrong on the way, the pipeline does not see it.  Each time a file
is loaded, its commands get identifiers of their own, and the stages are the same otherwise.

* `Pipeline.ofFile_redraw`: a file that is loaded again;
* `PipelineSource.Gives`, `PipelineSource.Fails`: what a source comes to;
* `PipelineSource.gives_or_fails`: it comes to one or the other;
* `Pipeline.load_of_gives`, `Pipeline.load_of_fails`: what loading then does;
* `Pipeline.overview_append`, `Pipeline.script_append`: the texts of a pipeline that was extended;
* `load_splices`: loading is all or nothing, and what is loaded is put at the end.
-/

namespace CiPipeline

open Definition

variable {fs : FileSystem} {directory : Location} {ids : IdSupply}

/-! ## Files -/

/-- A file is loaded as what it means if nothing is wrong with it and the files below it. -/
theorem Pipeline.ofFile_ok_iff {runId : Nat} {path : Path} {p : Pipeline} :
    ofFile fs directory runId ids path = .ok p ↔
      Sound fs directory ⟨[], path⟩ ∧ Means fs directory runId ids path p := by
  constructor
  · intro loaded
    exact ⟨(loadFrom_ok_iff runId ids ⟨[], path⟩).1 ⟨p, loaded⟩, loadFrom_means loaded⟩
  · rintro ⟨sound, means⟩
    rcases (loadFrom_ok_iff runId ids ⟨[], path⟩).2 sound with ⟨q, loaded⟩
    have same : q = p := (loadFrom_means loaded).unique means
    rw [← same]
    exact loaded

theorem Pipeline.ofFile_redraw {runId : Nat} {path : Path} {p : Pipeline}
    (accepted : ofFile fs directory runId ids path = .ok p) (runId' : Nat) (ids' : IdSupply) :
    ∃ stages, ofFile fs directory runId' ids' path =
        .ok { p with stages := stages, context := .ofDir p.baseDir runId' } ∧
      (∀ mask, stages.map (Stage.masked mask) = p.stages.map (Stage.masked mask)) ∧
      (ids' = ids → stages = p.stages) := by
  rcases ofFile_ok_iff.1 accepted with ⟨sound, means⟩
  rcases means.redraw runId' ids' with ⟨stages, means', same⟩
  exact ⟨stages, ofFile_ok_iff.2 ⟨sound, means'⟩, same⟩

/-! ## Sources -/

namespace PipelineSource

/-- The pipeline that a source gives to the one that loads it.  Paths are relative to the latter. -/
inductive Gives (fs : FileSystem) (directory : Location) (ids : IdSupply) (p : Pipeline) :
    PipelineSource → Pipeline → Prop
  | built (loaded : Pipeline) : Gives fs directory ids p (.built loaded) loaded
  | file {path : Path} {loaded : Pipeline}
      (sound : Sound fs directory ⟨[], p.baseDir.join path⟩)
      (means : Means fs directory p.context.runId ids (p.baseDir.join path) loaded) :
      Gives fs directory ids p (.file path) loaded

/-- A file fails with the first fault that is met in it or in the files below it. -/
inductive Fails (fs : FileSystem) (directory : Location) (p : Pipeline) :
    PipelineSource → PipelineError → Prop
  | file {path : Path} {route : List Nat} {e : PipelineError}
      (first : FirstFault fs directory ⟨[], p.baseDir.join path⟩ route e) :
      Fails fs directory p (.file path) e

variable {p p' loaded : Pipeline} {source : PipelineSource} {e : PipelineError}

theorem gives_or_fails (fs : FileSystem) (directory : Location) (ids : IdSupply) (p : Pipeline)
    (source : PipelineSource) :
    (∃ loaded, source.Gives fs directory ids p loaded) ∨ ∃ e, source.Fails fs directory p e := by
  cases source with
  | built loaded => exact .inl ⟨loaded, .built loaded⟩
  | file path =>
      cases accepted :
          Pipeline.ofFile fs directory p.context.runId ids (p.baseDir.join path) with
      | ok loaded =>
          rcases Pipeline.ofFile_ok_iff.1 accepted with ⟨sound, means⟩
          exact .inl ⟨loaded, .file sound means⟩
      | error e =>
          rcases (loadFrom_error_iff _ ids ⟨[], p.baseDir.join path⟩ e).1 accepted with ⟨route, first⟩
          exact .inr ⟨e, .file first⟩

/-- Two pipelines in which the paths of a source lead to the same file are given the same stages, but
for the identifiers that are drawn for them. -/
theorem Gives.elsewhere (gives : source.Gives fs directory ids p loaded) (ids' : IdSupply)
    (same : ∀ path, source = .file path → p'.baseDir.join path = p.baseDir.join path) :
    ∃ loaded', source.Gives fs directory ids' p' loaded' ∧
      (∀ mask, (loaded'.masked mask).stages = (loaded.masked mask).stages) ∧
      (ids' = ids → loaded'.stages = loaded.stages) := by
  cases gives with
  | built => exact ⟨loaded, .built loaded, fun _ => rfl, fun _ => rfl⟩
  | @file path _ sound means =>
      have there := same path rfl
      rw [← there] at sound means
      rcases means.redraw p'.context.runId ids' with ⟨stages, means', drawn⟩
      exact ⟨_, .file sound means', drawn⟩

theorem Fails.elsewhere (fails : source.Fails fs directory p e)
    (same : ∀ path, source = .file path → p'.baseDir.join path = p.baseDir.join path) :
    source.Fails fs directory p' e := by
  cases fails with
  | @file path route _ first =>
      have there := same path rfl
      rw [← there] at first
      exact .file first

end PipelineSource

/-! ## Loading -/

namespace Pipeline

variable {p q loaded : Pipeline} {source : PipelineSource} {e : PipelineError}

theorem load_of_gives (gives : source.Gives fs directory ids p loaded) :
    (load fs directory ids source).run p = .ok () (p.append loaded) := by
  cases gives with
  | built => rfl
  | @file path _ sound means =>
      have accepted : ofFile fs directory p.context.runId ids (p.context.resolve path) = .ok loaded :=
        ofFile_ok_iff.2 ⟨sound, means⟩
      have extended : p.loadFile fs directory ids path = .ok (p.append loaded) := by
        rw [loadFile, accepted]
        rfl
      simp [load, extended, ofExcept, EStateM.run_bind]

theorem load_of_fails (fails : source.Fails fs directory p e) :
    (load fs directory ids source).run p = .error e p := by
  cases fails with
  | @file path route _ first =>
      have refused : ofFile fs directory p.context.runId ids (p.context.resolve path) = .error e :=
        (loadFrom_error_iff _ ids ⟨[], p.baseDir.join path⟩ e).2 ⟨route, first⟩
      have failed : p.loadFile fs directory ids path = .error e := by
        rw [loadFile, refused]
        rfl
      have thrown : (throw e : EStateM PipelineError Pipeline Pipeline).run p = .error e p := rfl
      simp [load, failed, ofExcept, EStateM.run_bind, thrown]

theorem load_error_iff :
    (load fs directory ids source).run p = .error e q ↔ q = p ∧ source.Fails fs directory p e := by
  constructor
  · intro failed
    rcases source.gives_or_fails fs directory ids p with ⟨loaded, gives⟩ | ⟨e', fails⟩
    · cases (load_of_gives gives).symm.trans failed
    · cases (load_of_fails fails).symm.trans failed
      exact ⟨rfl, fails⟩
  · rintro ⟨rfl, fails⟩
    exact load_of_fails fails

theorem load_ok_iff :
    (load fs directory ids source).run p = .ok () q ↔
      ∃ loaded, source.Gives fs directory ids p loaded ∧ q = p.append loaded := by
  constructor
  · intro done
    rcases source.gives_or_fails fs directory ids p with ⟨loaded, gives⟩ | ⟨e, fails⟩
    · cases (load_of_gives gives).symm.trans done
      exact ⟨loaded, gives, rfl⟩
    · cases (load_of_fails fails).symm.trans done
  · rintro ⟨loaded, gives, rfl⟩
    exact load_of_gives gives

/-! ## Texts -/

theorem overview_append (p loaded : Pipeline) :
    (p.append loaded).overview = p.overview ++ loaded.overview := by
  simp [overview, append]

theorem script_append (p loaded : Pipeline) :
    (p.append loaded).toTravis.script = p.toTravis.script ++ loaded.toTravis.script := by
  simp [toTravis, TravisConfig.ofScript, append]

/-- Loading one source after another, when the first is a pipeline. -/
theorem load_built_then (p c : Pipeline) (source : PipelineSource) :
    (do load fs directory ids (.built p); load fs directory ids source).run c =
      (load fs directory ids source).run (c.append p) := by
  have first : (load fs directory ids (.built p)).run c = .ok () (c.append p) :=
    load_of_gives (.built p)
  rw [EStateM.run_bind, first]

theorem append_append (c p loaded : Pipeline) :
    (c.append p).append loaded = c.append (p.append loaded) := by
  simp [append]

theorem masked_append (mask : String) (p loaded : Pipeline) :
    (p.append loaded).masked mask = (p.masked mask).append (loaded.masked mask) := by
  simp [append, masked]

theorem append_congr {loaded loaded' : Pipeline} (same : loaded'.stages = loaded.stages)
    (p : Pipeline) : p.append loaded' = p.append loaded := by
  simp [append, same]

end Pipeline

/-- Loading is all or nothing.  If something is wrong with a file or below it, the error is that of
the first fault and the pipeline is as it was.  Otherwise all stages of the source, as they are,
follow those of the pipeline, and nothing else changes; so the texts of the pipeline go on with those
of the source.  A pipeline may load a source before or after another one takes over its stages, as
long as the paths of the source lead to the same files from both; a file that is loaded anew has new
identifiers for its commands. -/
theorem load_splices (fs : FileSystem) (directory : Location) (ids : IdSupply) (p : Pipeline)
    (source : PipelineSource) :
    (∀ e q, (Pipeline.load fs directory ids source).run p = .error e q ↔
      q = p ∧ source.Fails fs directory p e) ∧
    (∀ q, (Pipeline.load fs directory ids source).run p = .ok () q ↔
      ∃ loaded, source.Gives fs directory ids p loaded ∧
        q = { p with stages := p.stages ++ loaded.stages }) ∧
    (∀ q loaded, source.Gives fs directory ids p loaded →
      (Pipeline.load fs directory ids source).run p = .ok () q →
      q.overview = p.overview ++ loaded.overview ∧
        q.toTravis.script = p.toTravis.script ++ loaded.toTravis.script) ∧
    (∀ (c : Pipeline) (ids' : IdSupply),
      (∀ path, source = .file path → c.baseDir.join path = p.baseDir.join path) →
      let inTurn : EStateM PipelineError Pipeline Unit := do
        Pipeline.load fs directory ids' (.built p)
        Pipeline.load fs directory ids' source
      (∀ q, (Pipeline.load fs directory ids source).run p = .ok () q →
        ∃ r r', inTurn.run c = .ok () r ∧
          (Pipeline.load fs directory ids' (.built q)).run c = .ok () r' ∧
          (∀ mask, r.masked mask = r'.masked mask) ∧ (ids' = ids → r = r')) ∧
      (∀ e, (Pipeline.load fs directory ids source).run p = .error e p →
        inTurn.run c = .error e (c.append p))) := by
  refine ⟨fun e q => Pipeline.load_error_iff, fun q => Pipeline.load_ok_iff, ?_, ?_⟩
  · intro q loaded gives done
    have extended : q = p.append loaded := by
      cases (Pipeline.load_of_gives gives).symm.trans done
      rfl
    rw [extended]
    exact ⟨p.overview_append loaded, p.script_append loaded⟩
  · intro c ids' same inTurn
    -- The stages that came first change neither the directory nor what paths in it mean.
    have after : inTurn.run c = (Pipeline.load fs directory ids' source).run (c.append p) :=
      Pipeline.load_built_then p c source
    constructor
    · intro q done
      rcases Pipeline.load_ok_iff.1 done with ⟨loaded, gives, rfl⟩
      have there : ∃ loaded', source.Gives fs directory ids' (c.append p) loaded' ∧
          (∀ mask, (loaded'.masked mask).stages = (loaded.masked mask).stages) ∧
          (ids' = ids → loaded'.stages = loaded.stages) := gives.elsewhere ids' same
      rcases there with ⟨loaded', gives', masked, equal⟩
      refine ⟨(c.append p).append loaded', c.append (p.append loaded),
        after.trans (Pipeline.load_of_gives gives'),
        Pipeline.load_of_gives (.built (p.append loaded)), fun mask => ?_, fun drawn => ?_⟩
      · simp only [Pipeline.masked_append]
        rw [Pipeline.append_congr (masked mask), Pipeline.append_append]
      · rw [Pipeline.append_congr (equal drawn), Pipeline.append_append]
    · intro e failed
      have fails : source.Fails fs directory p e := (Pipeline.load_error_iff.1 failed).2
      exact after.trans (Pipeline.load_of_fails (fails.elsewhere same))

end CiPipeline
