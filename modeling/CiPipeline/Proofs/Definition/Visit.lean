import CiPipeline.Definition.Load

/-!
# Visit — what there is to be met while files are loaded

Loading a file visits it, then the files that it names, and so on.  A visit is a path together with
the files that are being loaded already.  This module describes the visits and what can be wrong
with them without saying how files are loaded.

* `Describes`: a path leads to a file that describes a pipeline;
* `Visit`, `Visit.next`: a path inside a chain of files, and the visit of a file that is named
  there;
* `Earlier`: the order of routes, depth first and from left to right;
* `Route`: the indices of the entries on the way from a visit to a later one;
* `Fault`: what is wrong with a single visit;
* `Met`: loading comes to a visit, as nothing is wrong with the earlier ones;
* `FirstFault`: the fault with the earliest route.
-/

namespace CiPipeline
namespace Definition

/-- The path leads to a regular file at the location, and its text describes a pipeline. -/
structure Describes (fs : FileSystem) (directory : Location) (path : Path) (location : Location)
    (definition : Definition) : Prop where
  located : fs.locateExisting directory path = .ok location
  regular : fs.isRegular location = true
  described : ∃ text, fs.readText directory path = .ok text ∧ decode text = .ok definition

theorem fromUTF8?_toUTF8 (text : String) : String.fromUTF8? text.toUTF8 = some text :=
  dif_pos text.isValidUTF8

/-- A file is described by the text that it holds. -/
theorem describes_of_file {fs : FileSystem} {directory location : Location} {path : Path}
    {text : String} {executable : Bool} {definition : Definition}
    (located : fs.locateExisting directory path = .ok location)
    (held : fs.entry? location = some (.file text.toUTF8 executable))
    (decoded : (decode text).toOption = some definition) :
    Describes fs directory path location definition := by
  refine ⟨located, ?_, text, ?_, ?_⟩
  · rw [FileSystem.isRegular, held]
  · simp only [FileSystem.readText, FileSystem.readBytes, located, held, fromUTF8?_toUTF8]
  · cases result : decode text with
    | error e =>
        rw [result] at decoded
        cases decoded
    | ok read =>
        rw [result] at decoded
        exact congrArg _ (Option.some.inj decoded)

/-- A path that is about to be loaded, and the files that are being loaded around it. -/
structure Visit where
  chain : List Location
  path : Path

/-- The visit of a file that is named in a file at a location. -/
def Visit.next (v : Visit) (location : Location) (path : Path) : Visit :=
  ⟨location :: v.chain, (Location.path location.dropLast).join path⟩

/-! ## The order of routes -/

/-- Routes are compared index by index, and a file comes before the files that it names. -/
def Earlier (route route' : List Nat) : Prop := List.Lex (· < ·) route route'

theorem not_earlier_nil (route : List Nat) : ¬ Earlier route [] := by
  intro earlier
  cases earlier

theorem earlier_cons {i k : Nat} {route route' : List Nat}
    (earlier : Earlier (k :: route') (i :: route)) :
    k < i ∨ k = i ∧ Earlier route' route := by
  cases earlier with
  | rel less => exact .inl less
  | cons within => exact .inr ⟨rfl, within⟩

theorem earlier_total (route route' : List Nat) :
    Earlier route route' ∨ route = route' ∨ Earlier route' route := by
  induction route generalizing route' with
  | nil =>
      cases route' with
      | nil => exact .inr (.inl rfl)
      | cons k route' => exact .inl .nil
  | cons i route ih =>
      cases route' with
      | nil => exact .inr (.inr .nil)
      | cons k route' =>
          rcases Nat.lt_trichotomy i k with less | rfl | more
          · exact .inl (.rel less)
          · rcases ih route' with earlier | rfl | later
            · exact .inl (.cons earlier)
            · exact .inr (.inl rfl)
            · exact .inr (.inr (.cons later))
          · exact .inr (.inr (.rel more))

section

variable {fs : FileSystem} {directory : Location}

/-! ## Routes -/

/-- A route gives for every file on the way the index of the entry that names the next one. -/
inductive Route (fs : FileSystem) (directory : Location) : Visit → List Nat → Visit → Prop
  | here {v : Visit} : Route fs directory v [] v
  | load {v w : Visit} {location : Location} {definition : Definition} {i : Nat} {path : Path}
      {route : List Nat} (describes : Describes fs directory v.path location definition)
      (names : definition.entries[i]? = some (.load path))
      (onward : Route fs directory (v.next location path) route w) :
      Route fs directory v (i :: route) w

theorem Describes.unique {path : Path} {location location' : Location}
    {definition definition' : Definition} (one : Describes fs directory path location definition)
    (other : Describes fs directory path location' definition') :
    location = location' ∧ definition = definition' := by
  rcases one.described with ⟨text, read, decoded⟩
  rcases other.described with ⟨text', read', decoded'⟩
  cases one.located.symm.trans other.located
  cases read.symm.trans read'
  cases decoded.symm.trans decoded'
  exact ⟨rfl, rfl⟩

theorem Route.unique {v w w' : Visit} {route : List Nat} (one : Route fs directory v route w)
    (other : Route fs directory v route w') : w = w' := by
  induction one with
  | here =>
      cases other with
      | here => rfl
  | load describes names onward ih =>
      cases other with
      | load describes' names' onward' =>
          rcases describes.unique describes' with ⟨rfl, rfl⟩
          cases names.symm.trans names'
          exact ih onward'

theorem Route.append_iff {u w : Visit} {route route' : List Nat} :
    Route fs directory u (route ++ route') w ↔
      ∃ v, Route fs directory u route v ∧ Route fs directory v route' w := by
  constructor
  · intro way
    induction route generalizing u with
    | nil => exact ⟨u, .here, way⟩
    | cons i route ih =>
        cases way with
        | load describes names onward =>
            rcases ih onward with ⟨v, first, second⟩
            exact ⟨v, .load describes names first, second⟩
  · rintro ⟨v, first, second⟩
    induction first with
    | here => exact second
    | load describes names _ ih => exact .load describes names (ih second)

/-- On the way the chain only grows. -/
theorem Route.chain_subset {v w : Visit} {route : List Nat} (way : Route fs directory v route w) :
    v.chain ⊆ w.chain := by
  induction way with
  | here => exact List.Subset.refl _
  | load _ _ _ ih => exact fun l mem => ih (List.mem_cons_of_mem _ mem)

/-- At the end of a route, the files that are being loaded are those from its beginning and those on
the way.  Files beside the way are not among them. -/
theorem Route.mem_chain_iff {v w : Visit} {route : List Nat} (way : Route fs directory v route w)
    {location : Location} :
    location ∈ w.chain ↔
      location ∈ v.chain ∨ ∃ before i after u, route = before ++ i :: after ∧
        Route fs directory v before u ∧ fs.locateExisting directory u.path = .ok location := by
  constructor
  · -- Going along the route, each file on the way joins the chain.
    intro mem
    induction way with
    | here => exact .inl mem
    | @load v w location' definition i path route describes names onward ih =>
        rcases ih mem with within | ⟨before, k, after, u, rfl, first, located⟩
        · rcases List.mem_cons.1 within with rfl | within
          · exact .inr ⟨[], i, route, v, rfl, .here, describes.located⟩
          · exact .inl within
        · exact .inr ⟨i :: before, k, after, u, rfl, .load describes names first, located⟩
  · rintro (mem | ⟨before, i, after, u, rfl, first, located⟩)
    · exact way.chain_subset mem
    · -- The file joined the chain with the step after it and never leaves.
      rcases Route.append_iff.1 way with ⟨u', first', onward⟩
      cases first.unique first'
      cases onward with
      | load describes names rest =>
          cases located.symm.trans describes.located
          exact rest.chain_subset List.mem_cons_self

/-! ## Faults -/

/-- What is wrong with a visit, and the error it gives. -/
inductive Fault (fs : FileSystem) (directory : Location) (v : Visit) : PipelineError → Prop
  | missing {problem : IoProblem} (absent : fs.locateExisting directory v.path = .error problem) :
      Fault fs directory v (.notFound v.path)
  | irregular {location : Location} (located : fs.locateExisting directory v.path = .ok location)
      (irregular : fs.isRegular location = false) :
      Fault fs directory v (.invalidExport v.path "not a regular file")
  | repeated {location : Location} (located : fs.locateExisting directory v.path = .ok location)
      (regular : fs.isRegular location = true) (again : location ∈ v.chain) :
      Fault fs directory v (.invalidExport v.path "the file loads itself")
  | unreadable {location : Location} {problem : IoProblem}
      (located : fs.locateExisting directory v.path = .ok location)
      (regular : fs.isRegular location = true) (fresh : location ∉ v.chain)
      (unread : fs.readText directory v.path = .error problem) :
      Fault fs directory v (.io problem)
  | malformed {location : Location} {text : String} {e : DecodeError}
      (located : fs.locateExisting directory v.path = .ok location)
      (regular : fs.isRegular location = true) (fresh : location ∉ v.chain)
      (read : fs.readText directory v.path = .ok text) (refused : decode text = .error e) :
      Fault fs directory v (.invalidExport v.path (e.message .yaml))

/-- A visit has a fault or it is the first of a file that describes a pipeline. -/
theorem fault_or_describes (fs : FileSystem) (directory : Location) (v : Visit) :
    (∃ e, Fault fs directory v e) ∨
      ∃ location definition, Describes fs directory v.path location definition ∧
        location ∉ v.chain := by
  cases located : fs.locateExisting directory v.path with
  | error problem => exact .inl ⟨_, .missing located⟩
  | ok location =>
      by_cases regular : fs.isRegular location = true
      · by_cases again : location ∈ v.chain
        · exact .inl ⟨_, .repeated located regular again⟩
        · cases read : fs.readText directory v.path with
          | error problem => exact .inl ⟨_, .unreadable located regular again read⟩
          | ok text =>
              cases decoded : decode text with
              | error e => exact .inl ⟨_, .malformed located regular again read decoded⟩
              | ok definition =>
                  exact .inr ⟨location, definition, ⟨located, regular, text, read, decoded⟩, again⟩
      · exact .inl ⟨_, .irregular located (by simpa using regular)⟩

/-- Of a file that describes a pipeline, the only fault is that it is being loaded already. -/
theorem Fault.mem_chain {v : Visit} {e : PipelineError} {location : Location}
    {definition : Definition} (fault : Fault fs directory v e)
    (describes : Describes fs directory v.path location definition) :
    location ∈ v.chain ∧ e = .invalidExport v.path "the file loads itself" := by
  rcases describes with ⟨located, regular, text, read, decoded⟩
  cases fault with
  | missing absent => cases located.symm.trans absent
  | irregular located' irregular =>
      cases located.symm.trans located'
      cases regular.symm.trans irregular
  | repeated located' _ again =>
      cases located.symm.trans located'
      exact ⟨again, rfl⟩
  | unreadable _ _ _ unread => cases read.symm.trans unread
  | malformed _ _ _ read' refused =>
      cases read.symm.trans read'
      cases decoded.symm.trans refused

/-! ## The first fault -/

/-- Loading comes to the end of the route: nothing is wrong with the visits before it. -/
structure Met (fs : FileSystem) (directory : Location) (v : Visit) (route : List Nat) (w : Visit) :
    Prop where
  way : Route fs directory v route w
  clear : ∀ route' w' e, Earlier route' route → Route fs directory v route' w' →
    ¬ Fault fs directory w' e

/-- The fault with the earliest route. -/
def FirstFault (fs : FileSystem) (directory : Location) (v : Visit) (route : List Nat)
    (e : PipelineError) : Prop :=
  ∃ w, Met fs directory v route w ∧ Fault fs directory w e

/-- The visit and everything that is loaded from it are without a fault. -/
def Sound (fs : FileSystem) (directory : Location) (v : Visit) : Prop :=
  ∀ route w e, Route fs directory v route w → ¬ Fault fs directory w e

/-- Where a file describes a pipeline, the files it names decide. -/
theorem Sound.of_describes {v : Visit} {location : Location} {definition : Definition}
    (describes : Describes fs directory v.path location definition) (fresh : location ∉ v.chain)
    (below : ∀ (i : Nat) path, definition.entries[i]? = some (.load path) →
      Sound fs directory (v.next location path)) : Sound fs directory v := by
  intro route w e way fault
  cases way with
  -- The file itself could only be repeated.
  | here => exact fresh (fault.mem_chain describes).1
  | load describes' names onward =>
      rcases describes.unique describes' with ⟨rfl, rfl⟩
      exact below _ _ names _ w e onward fault

theorem Met.here (v : Visit) : Met fs directory v [] v := by
  refine ⟨.here, ?_⟩
  intro route w e earlier
  exact absurd earlier (not_earlier_nil route)

/-- What is met below a file is met below a file that names it, if the files named before are
sound. -/
theorem Met.load {v w : Visit} {location : Location} {definition : Definition} {i : Nat}
    {path : Path} {route : List Nat}
    (describes : Describes fs directory v.path location definition) (fresh : location ∉ v.chain)
    (names : definition.entries[i]? = some (.load path))
    (before : ∀ (k : Nat) path, k < i → definition.entries[k]? = some (.load path) →
      Sound fs directory (v.next location path))
    (met : Met fs directory (v.next location path) route w) :
    Met fs directory v (i :: route) w := by
  refine ⟨.load describes names met.way, ?_⟩
  intro route' w' e earlier way fault
  cases way with
  | here => exact fresh (fault.mem_chain describes).1
  | @load _ _ _ _ k _ _ describes' names' onward =>
      rcases describes.unique describes' with ⟨rfl, rfl⟩
      -- Either the way goes through an earlier entry, or it is an earlier way through this one.
      rcases earlier_cons earlier with less | ⟨rfl, within⟩
      · exact before k _ less names' _ w' e onward fault
      · cases names.symm.trans names'
        exact met.clear _ w' e within onward fault

theorem FirstFault.not_sound {v : Visit} {route : List Nat} {e : PipelineError}
    (first : FirstFault fs directory v route e) : ¬ Sound fs directory v := by
  intro sound
  rcases first with ⟨w, met, fault⟩
  exact sound route w e met.way fault

end

end Definition
end CiPipeline
