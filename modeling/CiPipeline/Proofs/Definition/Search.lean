import CiPipeline.Proofs.Definition.Build
import CiPipeline.Proofs.Definition.Visit

/-!
# Search — loading a file meets the faults in order

Loading goes through the visits depth first and from left to right, and ends with the first fault.

* `loadFrom_of_fault`, `loadFrom_of_describes`: one step of loading;
* `Loaded`: a pipeline if everything is sound, and otherwise the first fault;
* `loaded_loadFrom`: this is what loading comes to;
* `loadFrom_ok_iff`, `loadFrom_error_iff`: the same from the side of the faults.
-/

namespace CiPipeline
namespace Definition

variable {fs : FileSystem} {directory : Location}

/-! ## One step -/

variable {runId : Nat} {ids : IdSupply}

theorem loadFrom_of_fileAt_error {chain : List Location} {path : Path} {e : PipelineError}
    (refused : fileAt fs directory chain path = .error e) :
    loadFrom fs directory runId chain ids path = .error e := by
  rw [loadFrom]
  split
  · rename_i refused'
    cases refused.symm.trans refused'
    rfl
  · rename_i located
    cases refused.symm.trans located

theorem loadFrom_of_fileAt_ok {chain : List Location} {path : Path} {location : Location}
    (located : fileAt fs directory chain path = .ok location) :
    loadFrom fs directory runId chain ids path =
      (definitionAt fs directory path).bind fun definition =>
        build (loadFrom fs directory runId (location :: chain)) (Location.path location.dropLast)
          runId ids definition := by
  rw [loadFrom]
  split
  · rename_i refused
    cases located.symm.trans refused
  · rename_i located'
    cases located.symm.trans located'
    cases definitionAt fs directory path with
    | error e => rfl
    | ok definition => rfl

theorem fileAt_ok {chain : List Location} {path : Path} {location : Location}
    (located : fs.locateExisting directory path = .ok location)
    (regular : fs.isRegular location = true) (fresh : location ∉ chain) :
    fileAt fs directory chain path = .ok location := by
  simp [fileAt, located, regular, fresh]

theorem definitionAt_ok {path : Path} {location : Location} {definition : Definition}
    (describes : Describes fs directory path location definition) :
    definitionAt fs directory path = .ok definition := by
  rcases describes.described with ⟨text, read, decoded⟩
  simp [definitionAt, read, parse, decoded]

/-- A fault of the visit itself ends the loading. -/
theorem loadFrom_of_fault (runId : Nat) (ids : IdSupply) {v : Visit} {e : PipelineError}
    (fault : Fault fs directory v e) :
    loadFrom fs directory runId v.chain ids v.path = .error e := by
  cases fault with
  | missing absent => exact loadFrom_of_fileAt_error (by simp [fileAt, absent])
  | irregular located irregular =>
      exact loadFrom_of_fileAt_error (by simp [fileAt, located, irregular])
  | repeated located regular again =>
      exact loadFrom_of_fileAt_error (by simp [fileAt, located, regular, again])
  | unreadable located regular fresh unread =>
      rw [loadFrom_of_fileAt_ok (fileAt_ok located regular fresh)]
      simp [definitionAt, unread, Except.bind]
  | malformed located regular fresh read refused =>
      rw [loadFrom_of_fileAt_ok (fileAt_ok located regular fresh)]
      simp [definitionAt, read, parse, refused, Except.bind]

/-- A file that describes a pipeline is built, and is being loaded meanwhile. -/
theorem loadFrom_of_describes (runId : Nat) (ids : IdSupply) {v : Visit} {location : Location}
    {definition : Definition} (describes : Describes fs directory v.path location definition)
    (fresh : location ∉ v.chain) :
    loadFrom fs directory runId v.chain ids v.path =
      build (loadFrom fs directory runId (location :: v.chain)) (Location.path location.dropLast)
        runId ids definition := by
  rw [loadFrom_of_fileAt_ok (fileAt_ok describes.located describes.regular fresh),
    definitionAt_ok describes]
  rfl

/-- A visit has one fault at most, as loading can only end with one error. -/
theorem Fault.unique {v : Visit} {e e' : PipelineError} (one : Fault fs directory v e)
    (other : Fault fs directory v e') : e = e' := by
  have ends := (loadFrom_of_fault 0 (fun _ => "") one).symm.trans
    (loadFrom_of_fault 0 (fun _ => "") other)
  exact Except.error.inj ends

/-! ## All steps -/

/-- What loading comes to: a pipeline if everything is sound, and otherwise the first fault. -/
inductive Loaded (fs : FileSystem) (directory : Location) (v : Visit) :
    Except PipelineError Pipeline → Prop
  | sound {p : Pipeline} (sound : Sound fs directory v) : Loaded fs directory v (.ok p)
  | fault {route : List Nat} {e : PipelineError} (first : FirstFault fs directory v route e) :
      Loaded fs directory v (.error e)

theorem Loaded.sound_of_ok {v : Visit} {p : Pipeline} {result : Except PipelineError Pipeline}
    (loaded : Loaded fs directory v result) (ok : result = .ok p) : Sound fs directory v := by
  cases loaded with
  | sound sound => exact sound
  | fault first => cases ok

/-- The recursion follows the files that are named; each of them is loaded inside a longer chain, so
that fewer files are left. -/
theorem loaded_loadFrom (fs : FileSystem) (directory : Location) (runId : Nat) (ids : IdSupply)
    (v : Visit) : Loaded fs directory v (loadFrom fs directory runId v.chain ids v.path) := by
  rcases fault_or_describes fs directory v with
    ⟨e, fault⟩ | ⟨location, definition, describes, fresh⟩
  · -- A fault of the visit itself comes before everything below it.
    rw [loadFrom_of_fault runId ids fault]
    exact .fault ⟨v, .here v, fault⟩
  · rw [loadFrom_of_describes runId ids describes fresh]
    have below : ∀ ids path, Loaded fs directory (v.next location path)
        (loadFrom fs directory runId (location :: v.chain) ids (v.next location path).path) :=
      fun ids path => loaded_loadFrom fs directory runId ids (v.next location path)
    have named : ∀ {i : Nat} {path : Path}, definition.entries[i]? = some (.load path) →
        (ids.among definition.entries)[i]? = some (.load path, ids.part i) := by
      intro i path names
      rw [IdSupply.getElem?_among, names]
      rfl
    have added := added_addEntries (loadFrom fs directory runId (location :: v.chain))
      ((Pipeline.ofDir (Location.path location.dropLast) runId).withAllowFailure
        definition.allowFailure) (ids.among definition.entries)
    unfold build
    generalize addEntries _ _ _ = result at added ⊢
    cases added with
    | all done =>
        -- Every file was loaded, so there is no fault below any of them.
        refine .sound (.of_describes describes fresh ?_)
        intro i path names
        rcases done i path _ (named names) with ⟨q, ok⟩
        exact (below _ path).sound_of_ok ok
    | @first i path drawn e there failed before =>
        -- The file failed at its own first fault; those named before it are sound.
        rw [IdSupply.getElem?_among] at there
        rcases Option.map_eq_some_iff.1 there with ⟨entry, names, same⟩
        cases same
        have loaded := below (ids.part i) path
        change loadFrom fs directory runId (location :: v.chain) (ids.part i)
          (v.next location path).path = _ at failed
        rw [failed] at loaded
        cases loaded with
        | fault first =>
            rcases first with ⟨w, met, fault⟩
            refine .fault ⟨w, .load describes fresh names ?_ met, fault⟩
            intro k path earlier names
            rcases before k path _ earlier (named names) with ⟨q, ok⟩
            exact (below _ path).sound_of_ok ok
termination_by (unvisited fs v.chain).length
decreasing_by exact unvisited_lt describes.regular (by simpa using fresh)

/-- There is one first fault at most, as neither route can come before the other. -/
theorem FirstFault.unique {v : Visit} {route route' : List Nat} {e e' : PipelineError}
    (one : FirstFault fs directory v route e) (other : FirstFault fs directory v route' e') :
    e = e' := by
  rcases one with ⟨w, met, fault⟩
  rcases other with ⟨w', met', fault'⟩
  rcases earlier_total route route' with earlier | rfl | later
  · exact absurd fault (met'.clear route w e earlier met.way)
  · cases met.way.unique met'.way
    exact fault.unique fault'
  · exact absurd fault' (met.clear route' w' e' later met'.way)

theorem loadFrom_ok_iff (runId : Nat) (ids : IdSupply) (v : Visit) :
    (∃ p, loadFrom fs directory runId v.chain ids v.path = .ok p) ↔ Sound fs directory v := by
  have loaded := loaded_loadFrom fs directory runId ids v
  constructor
  · rintro ⟨p, ok⟩
    exact loaded.sound_of_ok ok
  · intro sound
    cases result : loadFrom fs directory runId v.chain ids v.path with
    | ok p => exact ⟨p, rfl⟩
    | error e =>
        rw [result] at loaded
        cases loaded with
        | fault first => exact absurd sound first.not_sound

theorem loadFrom_error_iff (runId : Nat) (ids : IdSupply) (v : Visit) (e : PipelineError) :
    loadFrom fs directory runId v.chain ids v.path = .error e ↔
      ∃ route, FirstFault fs directory v route e := by
  have loaded := loaded_loadFrom fs directory runId ids v
  constructor
  · intro failed
    rw [failed] at loaded
    cases loaded with
    | fault first => exact ⟨_, first⟩
  · rintro ⟨route, first⟩
    cases result : loadFrom fs directory runId v.chain ids v.path with
    | ok p => exact absurd (loaded.sound_of_ok result) first.not_sound
    | error e' =>
        rw [result] at loaded
        cases loaded with
        | fault first' => rw [first.unique first']

end Definition
end CiPipeline
