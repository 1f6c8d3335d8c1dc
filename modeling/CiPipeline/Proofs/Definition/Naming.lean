import CiPipeline.Proofs.Definition.Splicing
import CiPipeline.Proofs.Machine.Layout

/-!
# Naming — loading does not depend on how files are named

Many paths lead to one file: relative and absolute ones, through `.` and `..` and through links.
What is loaded is known by its place, and only the messages about a file show its name.  So a file
may be asked for under any of its names, and definitions may name each other under any of them.

* `Aliases`: two names of one file;
* `Alike`: descriptions that differ in the names of files only;
* `Renames`: two machines whose definition files are alike;
* `Twin`, `Route.twin`, `Met.twin`: loading goes through the same visits on both;
* `Fault.twin`: and finds the same faults, each under the name that the visit has;
* `loading_ignores_names`: so it comes to the same end.
-/

namespace CiPipeline

/-- The error with another path in its text, if it shows one. -/
def PipelineError.renamed (path : Path) : PipelineError → PipelineError
  | notFound _ => notFound path
  | invalidExport _ reason => invalidExport path reason
  | e => e

namespace Definition

/-! ## Names -/

/-- The paths are the same or lead to the same file. -/
def Aliases (fs : FileSystem) (directory : Location) (p q : Path) : Prop :=
  p = q ∨ SameFile fs directory p q

/-- In a directory, the entries write the same stage or name the same file. -/
inductive AlikeEntry (fs : FileSystem) (directory : Location) (baseDir : Path) :
    StageEntry → StageEntry → Prop
  | stage (definition : StageDefinition) :
      AlikeEntry fs directory baseDir (.stage definition) (.stage definition)
  | load {p q : Path} (named : Aliases fs directory (baseDir.join p) (baseDir.join q)) :
      AlikeEntry fs directory baseDir (.load p) (.load q)

/-- In a directory, the descriptions differ in the names of files only. -/
structure Alike (fs : FileSystem) (directory : Location) (baseDir : Path)
    (definition definition' : Definition) : Prop where
  allowFailure : definition.allowFailure = definition'.allowFailure
  entries : List.Forall₂ (AlikeEntry fs directory baseDir) definition.entries definition'.entries

/-- What may stand at a place of two machines whose definition files are alike. -/
inductive Renamed (fs : FileSystem) (directory location : Location) :
    Option Entry → Option Entry → Prop
  | same (e : Option Entry) : Renamed fs directory location e e
  | file {text text' : String} {executable : Bool} {definition definition' : Definition}
      (decoded : decode text = .ok definition) (decoded' : decode text' = .ok definition')
      (alike : Alike fs directory (Location.path location.dropLast) definition definition') :
      Renamed fs directory location (some (.file text.toUTF8 executable))
        (some (.file text'.toUTF8 executable))

/-- The machines hold the same files, but for the names that definition files give to others. -/
def Renames (directory : Location) (fs fs' : FileSystem) : Prop :=
  ∀ location, Renamed fs directory location (fs.entry? location) (fs'.entry? location)

variable {fs fs' : FileSystem} {directory : Location} {baseDir p q : Path}
  {definition definition' : Definition}

theorem SameFile.symm (same : SameFile fs directory p q) : SameFile fs directory q p := by
  rcases same with ⟨location, one, other⟩
  exact ⟨location, other, one⟩

theorem SameFile.located (same : SameFile fs directory p q) :
    fs.locateExisting directory p = fs.locateExisting directory q := by
  rcases same with ⟨location, one, other⟩
  rw [one, other]

theorem Aliases.symm (named : Aliases fs directory p q) : Aliases fs directory q p := by
  rcases named with rfl | same
  · exact .inl rfl
  · exact .inr same.symm

theorem Aliases.located (named : Aliases fs directory p q) :
    fs.locateExisting directory p = fs.locateExisting directory q := by
  rcases named with rfl | same
  · rfl
  · exact same.located

theorem AlikeEntry.refl (entry : StageEntry) : AlikeEntry fs directory baseDir entry entry := by
  cases entry with
  | load path => exact .load (.inl rfl)
  | stage definition => exact .stage definition

theorem AlikeEntry.symm {entry entry' : StageEntry}
    (alike : AlikeEntry fs directory baseDir entry entry') :
    AlikeEntry fs directory baseDir entry' entry := by
  cases alike with
  | stage definition => exact .stage definition
  | load named => exact .load named.symm

theorem Alike.refl (definition : Definition) : Alike fs directory baseDir definition definition :=
  ⟨rfl, List.forall₂_same.2 fun entry _ => AlikeEntry.refl entry⟩

theorem Alike.symm (alike : Alike fs directory baseDir definition definition') :
    Alike fs directory baseDir definition' definition :=
  ⟨alike.allowFailure.symm, (alike.entries.imp fun _ _ => AlikeEntry.symm).flip⟩

/-- Where one description names a file, the other names it too. -/
theorem Alike.names (alike : Alike fs directory baseDir definition definition') {i : Nat}
    {path : Path} (names : definition.entries[i]? = some (.load path)) :
    ∃ path', definition'.entries[i]? = some (.load path') ∧
      Aliases fs directory (baseDir.join path) (baseDir.join path') := by
  have there : i < definition.entries.length := (List.getElem?_eq_some_iff.1 names).1
  have there' : i < definition'.entries.length := alike.entries.length_eq ▸ there
  have entry := alike.entries.get there there'
  rw [List.getElem?_eq_getElem there, Option.some.injEq] at names
  rw [List.getElem?_eq_getElem there']
  simp only [List.get_eq_getElem, names] at entry
  generalize definition'.entries[i] = entry' at entry
  cases entry with
  | load named => exact ⟨_, rfl, named⟩

/-! ## Machines with other names -/

namespace Renames

theorem refl (directory : Location) (fs : FileSystem) : Renames directory fs fs :=
  fun location => .same (fs.entry? location)

variable (renames : Renames directory fs fs')

include renames

theorem layout : fs.SameLayout fs' := by
  intro location
  have there := renames location
  generalize fs.entry? location = e at there ⊢
  generalize fs'.entry? location = e' at there ⊢
  cases there with
  | same => exact .same _
  | file decoded decoded' alike => exact .file _ _ _

theorem locateExisting (p : Path) :
    fs'.locateExisting directory p = fs.locateExisting directory p :=
  FileSystem.locateExisting_congr renames.layout directory p

theorem isRegular (location : Location) : fs'.isRegular location = fs.isRegular location :=
  FileSystem.isRegular_congr renames.layout location

theorem sameFile (same : SameFile fs directory p q) : SameFile fs' directory p q := by
  rcases same with ⟨location, one, other⟩
  exact ⟨location, (renames.locateExisting p).trans one, (renames.locateExisting q).trans other⟩

theorem aliases (named : Aliases fs directory p q) : Aliases fs' directory p q := by
  rcases named with rfl | same
  · exact .inl rfl
  · exact .inr (renames.sameFile same)

theorem alike (alike : Alike fs directory baseDir definition definition') :
    Alike fs' directory baseDir definition definition' := by
  refine ⟨alike.allowFailure, alike.entries.imp ?_⟩
  intro entry entry' same
  cases same with
  | stage definition => exact .stage definition
  | load named => exact .load (renames.aliases named)

theorem symm : Renames directory fs' fs := by
  intro location
  have there := renames location
  generalize fs.entry? location = e at there ⊢
  generalize fs'.entry? location = e' at there ⊢
  cases there with
  | same => exact .same _
  | file decoded decoded' alike => exact .file decoded' decoded (renames.alike alike).symm

/-- What is read at two names of a file is the same, or is alike. -/
theorem readText {location : Location} (located : fs.locateExisting directory p = .ok location)
    (named : Aliases fs directory p q) :
    fs'.readText directory q = fs.readText directory p ∨
      ∃ text text' definition definition', fs.readText directory p = .ok text ∧
        fs'.readText directory q = .ok text' ∧ decode text = .ok definition ∧
        decode text' = .ok definition' ∧
        Alike fs directory (Location.path location.dropLast) definition definition' := by
  have located' : fs'.locateExisting directory q = .ok location := by
    rw [renames.locateExisting, ← named.located, located]
  have there := renames location
  simp only [FileSystem.readText, FileSystem.readBytes, located, located']
  generalize fs.entry? location = e at there ⊢
  generalize fs'.entry? location = e' at there ⊢
  cases there with
  | same => exact .inl rfl
  | file decoded decoded' alike =>
      refine .inr ⟨_, _, _, _, ?_, ?_, decoded, decoded', alike⟩
      · simp only [fromUTF8?_toUTF8]
      · simp only [fromUTF8?_toUTF8]

/-- A file that describes a pipeline is described alike on the other machine, whatever its name. -/
theorem describes {location : Location} (named : Aliases fs directory p q)
    (describes : Describes fs directory p location definition) :
    ∃ definition', Describes fs' directory q location definition' ∧
      Alike fs directory (Location.path location.dropLast) definition definition' := by
  have located' : fs'.locateExisting directory q = .ok location := by
    rw [renames.locateExisting, ← named.located, describes.located]
  have regular' : fs'.isRegular location = true := by
    rw [renames.isRegular, describes.regular]
  rcases describes.described with ⟨text, read, decoded⟩
  rcases renames.readText describes.located named with
    same | ⟨text₁, text', definition₁, definition', read₁, read', decoded₁, decoded', alike⟩
  · exact ⟨definition, ⟨located', regular', text, same.trans read, decoded⟩, .refl definition⟩
  · cases read.symm.trans read₁
    cases decoded.symm.trans decoded₁
    exact ⟨definition', ⟨located', regular', text', read', decoded'⟩, alike⟩

end Renames

/-! ## Visits side by side -/

/-- The visits are of one file, inside the same chain of files. -/
structure Twin (fs : FileSystem) (directory : Location) (v v' : Visit) : Prop where
  chain : v.chain = v'.chain
  named : Aliases fs directory v.path v'.path

section

variable {v v' w : Visit} {route : List Nat} {e : PipelineError}

theorem Twin.symm (renames : Renames directory fs fs') (twin : Twin fs directory v v') :
    Twin fs' directory v' v :=
  ⟨twin.chain.symm, (renames.aliases twin.named).symm⟩

theorem Route.twin (renames : Renames directory fs fs') (twin : Twin fs directory v v')
    (way : Route fs directory v route w) :
    ∃ w', Route fs' directory v' route w' ∧ Twin fs directory w w' := by
  induction way generalizing v' with
  | here => exact ⟨v', .here, twin⟩
  | @load v w location definition i path route describes names onward ih =>
      rcases renames.describes twin.named describes with ⟨definition', describes', alike⟩
      rcases alike.names names with ⟨path', names', named⟩
      have next : Twin fs directory (v.next location path) (v'.next location path') :=
        ⟨congrArg (location :: ·) twin.chain, named⟩
      rcases ih next with ⟨w', onward', twin'⟩
      exact ⟨w', .load describes' names' onward', twin'⟩

/-- What is wrong with a visit is wrong with its twin, which shows its own name. -/
theorem Fault.twin (renames : Renames directory fs fs') (twin : Twin fs directory v v')
    (fault : Fault fs directory v e) : Fault fs' directory v' (e.renamed v'.path) := by
  have located : ∀ {result}, fs.locateExisting directory v.path = result →
      fs'.locateExisting directory v'.path = result := by
    intro result known
    rw [renames.locateExisting, ← twin.named.located, known]
  have regular : ∀ {location result}, fs.isRegular location = result →
      fs'.isRegular location = result := fun known => (renames.isRegular _).trans known
  cases fault with
  | missing absent => exact .missing (located absent)
  | irregular there irregular => exact .irregular (located there) (regular irregular)
  | repeated there known again =>
      exact .repeated (located there) (regular known) (twin.chain ▸ again)
  | unreadable there known fresh unread =>
      rcases renames.readText there twin.named with
        same | ⟨text, _, _, _, read, _⟩
      · exact .unreadable (located there) (regular known) (twin.chain ▸ fresh) (same.trans unread)
      · cases unread.symm.trans read
  | malformed there known fresh read refused =>
      rcases renames.readText there twin.named with
        same | ⟨text, _, _, _, read', _, decoded, _⟩
      · exact .malformed (located there) (regular known) (twin.chain ▸ fresh) (same.trans read)
          refused
      · cases read.symm.trans read'
        cases refused.symm.trans decoded

theorem Met.twin (renames : Renames directory fs fs') (twin : Twin fs directory v v')
    (met : Met fs directory v route w) :
    ∃ w', Met fs' directory v' route w' ∧ Twin fs directory w w' := by
  rcases met.way.twin renames twin with ⟨w', way', twin'⟩
  refine ⟨w', ⟨way', ?_⟩, twin'⟩
  -- An earlier fault on the other machine would be one on this machine too.
  intro route' u' e earlier way fault
  rcases way.twin renames.symm (twin.symm renames) with ⟨u, way₁, twin₁⟩
  exact met.clear route' u _ earlier way₁ (fault.twin renames.symm twin₁)

theorem Sound.twin (renames : Renames directory fs fs') (twin : Twin fs directory v v')
    (sound : Sound fs directory v) : Sound fs' directory v' := by
  intro route w' e way fault
  rcases way.twin renames.symm (twin.symm renames) with ⟨w, way₁, twin₁⟩
  exact sound route w _ way₁ (fault.twin renames.symm twin₁)

/-- An error shows the name of the visit that it is found at, or none. -/
theorem Fault.renamed_self (fault : Fault fs directory v e) : e.renamed v.path = e := by
  cases fault <;> rfl

end

/-! ## Pipelines -/

/-- Items that agree still do so when they are given the same supplies. -/
theorem forall₂_among {α : Type} {Same : α → α → Prop} {items items' : List α}
    (agree : List.Forall₂ Same items items') (ids : IdSupply) :
    List.Forall₂ (fun item item' => Same item.1 item'.1 ∧ item.2 = item'.2) (ids.among items)
      (ids.among items') := by
  have counted : ∀ n, List.Forall₂ (fun item item' => Same item.1 item'.1 ∧ item.2 = item'.2)
      ((items.zipIdx n).map fun item => (item.1, ids.part item.2))
      ((items'.zipIdx n).map fun item => (item.1, ids.part item.2)) := by
    induction agree with
    | nil => exact fun _ => .nil
    | cons first _ ih => exact fun n => .cons ⟨first, rfl⟩ (ih (n + 1))
  exact counted 0

/-- Entries that are alike stand for the same stages. -/
theorem Flattens.twin (renames : Renames directory fs fs')
    {entries entries' : List (StageEntry × IdSupply)} {stages : List Stage}
    (flattens : Flattens fs directory baseDir entries stages)
    (alike : List.Forall₂ (fun entry entry' =>
      AlikeEntry fs directory baseDir entry.1 entry'.1 ∧ entry.2 = entry'.2) entries entries') :
    Flattens fs' directory baseDir entries' stages := by
  induction flattens generalizing entries' with
  | nil =>
      cases alike
      exact .nil
  | stage onward ih =>
      rcases alike with _ | @⟨_, ⟨entry', _⟩, _, _, ⟨same, rfl⟩, rest⟩
      cases same
      exact .stage (ih rest)
  | load describes file onward ihFile ih =>
      rcases alike with _ | @⟨_, ⟨entry', _⟩, _, _, ⟨same, rfl⟩, rest⟩
      cases same with
      | load named =>
          rcases renames.describes named describes with ⟨definition', describes', alike'⟩
          exact .load describes' (ihFile (forall₂_among alike'.entries _)) (ih rest)

theorem Means.twin (renames : Renames directory fs fs') {runId : Nat} {ids : IdSupply}
    (named : Aliases fs directory p q) {loaded : Pipeline}
    (means : Means fs directory runId ids p loaded) : Means fs' directory runId ids q loaded := by
  cases means with
  | intro describes flattens =>
      rcases renames.describes named describes with ⟨definition', describes', alike⟩
      rw [alike.allowFailure]
      exact .intro describes' (flattens.twin renames (forall₂_among alike.entries ids))

/-! ## Outcomes -/

/-- Both give the same pipeline, but for the identifiers of the commands, or the same error, or errors
that are let pass. -/
inductive Agree (Excused : PipelineError → PipelineError → Prop) :
    Except PipelineError Pipeline → Except PipelineError Pipeline → Prop
  | loaded {p p' : Pipeline} (same : ∀ mask, p.masked mask = p'.masked mask) :
      Agree Excused (.ok p) (.ok p')
  | refused (e : PipelineError) : Agree Excused (.error e) (.error e)
  | excused {e e' : PipelineError} (excused : Excused e e') : Agree Excused (.error e) (.error e')

/-- The faults of two visits of one file, which differ in the name of this file only. -/
structure SameFault (fs fs' : FileSystem) (directory : Location) (w w' : Visit)
    (e e' : PipelineError) : Prop where
  file : SameFile fs directory w.path w'.path
  fault : Fault fs directory w e
  fault' : Fault fs' directory w' e'
  renamed : e' = e.renamed w'.path

theorem Agree.imp {Excused Excused' : PipelineError → PipelineError → Prop}
    {result result' : Except PipelineError Pipeline}
    (weaker : ∀ e e', Excused e e' → e = e' ∨ Excused' e e') (agree : Agree Excused result result') :
    Agree Excused' result result' := by
  cases agree with
  | loaded same => exact .loaded same
  | refused e => exact .refused e
  | excused excused =>
      rcases weaker _ _ excused with rfl | excused'
      · exact .refused _
      · exact .excused excused'

/-- A pipeline that takes over what is loaded does not tell the names apart either. -/
theorem Agree.append {Excused : PipelineError → PipelineError → Prop}
    {result result' : Except PipelineError Pipeline} (pipeline : Pipeline)
    (agree : Agree Excused result result') :
    Agree Excused (result >>= fun loaded => .ok (pipeline.append loaded))
      (result' >>= fun loaded => .ok (pipeline.append loaded)) := by
  cases agree with
  | loaded same =>
      refine .loaded fun mask => ?_
      rw [Pipeline.masked_append, Pipeline.masked_append, same]
  | refused e => exact .refused e
  | excused excused => exact .excused excused

/-- On two machines with other names, a file is loaded to the same end.  The first fault is at the end
of the same route, and the errors differ only if the file there has another name. -/
theorem agree_ofFile (renames : Renames directory fs fs') (runId : Nat) (ids ids' : IdSupply)
    (named : Aliases fs directory p q) :
    Agree
      (fun e e' => ∃ route w w', Met fs directory ⟨[], p⟩ route w ∧
        Met fs' directory ⟨[], q⟩ route w' ∧ SameFault fs fs' directory w w' e e')
      (Pipeline.ofFile fs directory runId ids p) (Pipeline.ofFile fs' directory runId ids' q) := by
  have twin : Twin fs directory ⟨[], p⟩ ⟨[], q⟩ := ⟨rfl, named⟩
  cases result : Pipeline.ofFile fs directory runId ids p with
  | ok loaded =>
      rcases Pipeline.ofFile_ok_iff.1 result with ⟨sound, means⟩
      have there : Pipeline.ofFile fs' directory runId ids q = .ok loaded :=
        Pipeline.ofFile_ok_iff.2 ⟨sound.twin renames twin, means.twin renames named⟩
      -- The other machine draws identifiers of its own.
      rcases Pipeline.ofFile_redraw there runId ids' with ⟨stages, again, masked, _⟩
      rw [again, ← means.context_eq]
      refine .loaded fun mask => ?_
      simp only [Pipeline.masked, masked]
  | error e =>
      rcases (loadFrom_error_iff runId ids ⟨[], p⟩ e).1 result with ⟨route, w, met, fault⟩
      rcases met.twin renames twin with ⟨w', met', twin'⟩
      have fault' := fault.twin renames twin'
      have failed : Pipeline.ofFile fs' directory runId ids' q = .error (e.renamed w'.path) :=
        (loadFrom_error_iff runId ids' ⟨[], q⟩ _).2 ⟨route, w', met', fault'⟩
      rw [failed]
      rcases twin'.named with same | file
      · rw [← same, fault.renamed_self]
        exact .refused e
      · exact .excused ⟨route, w, w', met, met', file, fault, fault', rfl⟩

/-- On one machine, two names of a file lead on to the same visits. -/
theorem Route.eq_of_sameFile {w w' : Visit} {i : Nat} {route : List Nat}
    (same : SameFile fs directory p q) (way : Route fs directory ⟨[], p⟩ (i :: route) w)
    (way' : Route fs directory ⟨[], q⟩ (i :: route) w') : w = w' := by
  cases way with
  | load describes names onward =>
      cases way' with
      | load describes' names' onward' =>
          rcases describes.described with ⟨text, read, decoded⟩
          -- The text is read at the place, so the other name gives the same description.
          have read' := (FileSystem.readText_congr same.located).symm.trans read
          have there : Describes fs directory q _ _ :=
            ⟨same.located.symm.trans describes.located, describes.regular, text, read', decoded⟩
          rcases there.unique describes' with ⟨rfl, rfl⟩
          cases names.symm.trans names'
          exact onward.unique onward'

theorem agree_of_sameFile (runId : Nat) (ids ids' : IdSupply) (same : SameFile fs directory p q) :
    Agree (SameFault fs fs directory ⟨[], p⟩ ⟨[], q⟩) (Pipeline.ofFile fs directory runId ids p)
      (Pipeline.ofFile fs directory runId ids' q) := by
  refine (agree_ofFile (.refl directory fs) runId ids ids' (.inr same)).imp ?_
  rintro e e' ⟨route, w, w', met, met', fault⟩
  cases route with
  | nil =>
      cases met.way
      cases met'.way
      exact .inr fault
  | cons i route =>
      cases Route.eq_of_sameFile same met.way met'.way
      exact .inl (fault.fault.unique fault.fault')

end Definition

open Definition

/-- Under two names, a file is loaded as the same pipeline, with the identifiers that are drawn each
time, or refused with the same error, in which only its own name may differ, when the fault is in the
file itself; and so it is when a pipeline takes it over.  The same holds of a file and all files below
it when definitions name each other otherwise: then only the file with the fault may be shown under
another name. -/
theorem loading_ignores_names (fs : FileSystem) (directory : Location) (runId : Nat)
    (ids ids' : IdSupply) :
    (∀ p q, SameFile fs directory p q →
      Agree (SameFault fs fs directory ⟨[], p⟩ ⟨[], q⟩) (Pipeline.ofFile fs directory runId ids p)
        (Pipeline.ofFile fs directory runId ids' q)) ∧
    (∀ (pipeline : Pipeline) (path path' : Path),
      let p := pipeline.baseDir.join path
      let q := pipeline.baseDir.join path'
      SameFile fs directory p q →
      Agree (SameFault fs fs directory ⟨[], p⟩ ⟨[], q⟩) (pipeline.loadFile fs directory ids path)
        (pipeline.loadFile fs directory ids' path')) ∧
    (∀ (fs' : FileSystem) (p q : Path), Renames directory fs fs' → Aliases fs directory p q →
      Agree
        (fun e e' => ∃ route w w', Met fs directory ⟨[], p⟩ route w ∧
          Met fs' directory ⟨[], q⟩ route w' ∧ SameFault fs fs' directory w w' e e')
        (Pipeline.ofFile fs directory runId ids p)
        (Pipeline.ofFile fs' directory runId ids' q)) := by
  refine ⟨?_, ?_, ?_⟩
  · intro p q same
    exact agree_of_sameFile runId ids ids' same
  · intro pipeline path path' p q same
    exact (agree_of_sameFile pipeline.context.runId ids ids' same).append pipeline
  · intro fs' p q renames named
    exact agree_ofFile renames runId ids ids' named

/-- A directory with two definition files and a link to it; the first file loads the second under the
name given. -/
def FileSystem.linked (name : String) : FileSystem :=
  ⟨[(["a"], .directory), (["l"], .link ⟨"a"⟩),
      (["a", "p.yml"], .file ("pipelyne:\n stages:\n - load: " ++ name ++ "\n").toUTF8 false),
      (["a", "q.yml"], .file "pipelyne:\n allowFailure: true\n stages:\n - name: s\n".toUTF8 false)]⟩

theorem FileSystem.locateExisting_linked (name : String) :
    (linked name).locateExisting [] ⟨"/a/p.yml"⟩ = .ok ["a", "p.yml"] ∧
      (linked name).locateExisting [] ⟨"l/./p.yml"⟩ = .ok ["a", "p.yml"] ∧
      (linked name).locateExisting [] ⟨"/a/q.yml"⟩ = .ok ["a", "q.yml"] ∧
      (linked name).locateExisting [] ⟨"/a/../l/q.yml"⟩ = .ok ["a", "q.yml"] := by
  have parts : (⟨"/a/p.yml"⟩ : Path).components = ["a", "p.yml"] ∧
      (⟨"l/./p.yml"⟩ : Path).components = ["l", ".", "p.yml"] ∧
      (⟨"/a/q.yml"⟩ : Path).components = ["a", "q.yml"] ∧
      (⟨"/a/../l/q.yml"⟩ : Path).components = ["a", "..", "l", "q.yml"] ∧
      (⟨"a"⟩ : Path).components = ["a"] := by decide
  have absolute : (⟨"/a/p.yml"⟩ : Path).isAbsolute = true ∧
      (⟨"l/./p.yml"⟩ : Path).isAbsolute = false ∧ (⟨"/a/q.yml"⟩ : Path).isAbsolute = true ∧
      (⟨"/a/../l/q.yml"⟩ : Path).isAbsolute = true ∧ (⟨"a"⟩ : Path).isAbsolute = false := by decide
  have sizes : ∀ text ∈ ["/a/p.yml", "l/./p.yml", "/a/q.yml", "/a/../l/q.yml", "a", "l", "p.yml",
      "q.yml"],
      ¬ longestPath < text.utf8ByteSize ∧ ¬ longestName < text.utf8ByteSize := by decide
  simp only [List.forall_mem_cons] at sizes
  refine ⟨?_, ?_, ?_, ?_⟩ <;>
    simp [linked, locateExisting, locate, parts, absolute, sizes, follow, isDirectory, entry?,
      entryIn, linkLimit]

theorem FileSystem.readText_linked (name : String) :
    (linked name).readText [] ⟨"/a/p.yml"⟩ =
      .ok ("pipelyne:\n stages:\n - load: " ++ name ++ "\n") := by
  have held : FileSystem.entry? (linked name) ["a", "p.yml"] =
      some (.file ("pipelyne:\n stages:\n - load: " ++ name ++ "\n").toUTF8 false) := rfl
  simp only [readText, readBytes, (locateExisting_linked name).1, held, fromUTF8?_toUTF8]

/-- The first file is loaded under two names, and naming the second file otherwise, through the link,
does not change what it gives. -/
theorem loading_ignores_names_linked :
    let fs := FileSystem.linked "q.yml"
    let fs' := FileSystem.linked "/a/../l/q.yml"
    SameFile fs [] ⟨"/a/p.yml"⟩ ⟨"l/./p.yml"⟩ ∧ Renames [] fs fs' ∧
      fs.readText [] ⟨"/a/p.yml"⟩ ≠ fs'.readText [] ⟨"/a/p.yml"⟩ ∧
      ∃ p q q', Pipeline.ofFile fs [] 0 (.ofSeed 0) ⟨"/a/p.yml"⟩ = .ok p ∧
        Pipeline.ofFile fs [] 0 (.ofSeed 1) ⟨"l/./p.yml"⟩ = .ok q ∧
        Pipeline.ofFile fs' [] 0 (.ofSeed 1) ⟨"l/./p.yml"⟩ = .ok q' ∧
        ∀ mask, p.masked mask = q.masked mask ∧ p.masked mask = q'.masked mask := by
  intro fs fs'
  rcases FileSystem.locateExisting_linked "q.yml" with ⟨outer, outer', inner, inner'⟩
  have file : SameFile fs [] ⟨"/a/p.yml"⟩ ⟨"l/./p.yml"⟩ := ⟨["a", "p.yml"], outer, outer'⟩
  have named : SameFile fs [] ⟨"/a/q.yml"⟩ ⟨"/a/../l/q.yml"⟩ := ⟨["a", "q.yml"], inner, inner'⟩
  have decoded : decode ("pipelyne:\n stages:\n - load: " ++ "q.yml" ++ "\n") =
      .ok ⟨false, [.load ⟨"q.yml"⟩]⟩ := by decide +kernel
  have decoded' : decode ("pipelyne:\n stages:\n - load: " ++ "/a/../l/q.yml" ++ "\n") =
      .ok ⟨false, [.load ⟨"/a/../l/q.yml"⟩]⟩ := by decide +kernel
  have renames : Renames [] fs fs' := by
    intro location
    by_cases here : location = ["a", "p.yml"]
    · subst here
      exact .file decoded decoded' ⟨rfl, .cons (.load (.inr named)) .nil⟩
    · have same : fs'.entry? location = fs.entry? location := by
        simp [fs, fs', FileSystem.linked, FileSystem.entry?, FileSystem.entryIn, Ne.symm here]
      rw [same]
      exact .same _
  have distinct : fs.readText [] ⟨"/a/p.yml"⟩ ≠ fs'.readText [] ⟨"/a/p.yml"⟩ := by
    rw [FileSystem.readText_linked, FileSystem.readText_linked]
    decide
  have loads : ∃ loaded, Pipeline.ofFile fs [] 0 (.ofSeed 0) ⟨"/a/p.yml"⟩ = .ok loaded := by
    have first : Describes fs [] ⟨"/a/p.yml"⟩ ["a", "p.yml"] ⟨false, [.load ⟨"q.yml"⟩]⟩ :=
      describes_of_file outer rfl (by rw [decoded]; rfl)
    have second : Describes fs [] ⟨"/a/q.yml"⟩ ["a", "q.yml"] ⟨true, [.stage ⟨"s", false, []⟩]⟩ :=
      describes_of_file inner rfl (by decide +kernel)
    have whole := loadFrom_of_describes (v := ⟨[], ⟨"/a/p.yml"⟩⟩) 0 (.ofSeed 0) first (by simp)
    have within := loadFrom_of_describes (v := ⟨[["a", "p.yml"]], ⟨"/a/q.yml"⟩⟩) 0
      ((IdSupply.ofSeed 0).part 0) second (by simp)
    rw [build, IdSupply.among, List.zipIdx_singleton, List.map_singleton, addEntries_stage] at within
    rw [build, IdSupply.among, List.zipIdx_singleton, List.map_singleton, addEntries_load_ok within]
      at whole
    exact ⟨_, whole⟩
  rcases loads with ⟨loaded, accepted⟩
  rcases loading_ignores_names fs [] 0 (.ofSeed 0) (.ofSeed 1) with ⟨again, _, across⟩
  have same := again _ _ file
  have moved := across fs' _ _ renames (.inr file)
  rw [accepted] at same moved
  generalize Pipeline.ofFile fs [] 0 (.ofSeed 1) ⟨"l/./p.yml"⟩ = result at same ⊢
  generalize Pipeline.ofFile fs' [] 0 (.ofSeed 1) ⟨"l/./p.yml"⟩ = result' at moved ⊢
  cases same with
  | @loaded _ q same =>
      cases moved with
      | @loaded _ q' moved =>
          exact ⟨file, renames, distinct, loaded, q, q', accepted, rfl, rfl,
            fun mask => ⟨same mask, moved mask⟩⟩

end CiPipeline
