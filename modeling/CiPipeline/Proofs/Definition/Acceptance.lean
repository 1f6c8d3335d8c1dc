import Mathlib.Data.Set.Finite.Lattice
import Mathlib.Logic.Relation
import CiPipeline.Proofs.Definition.Search

/-!
# Acceptance — which files can be loaded

A file can be loaded exactly if it and all files that it leads to describe pipelines and none of
them leads back to itself.  How often a file is named does not matter.

* `Loads`, `SameFile`: one path is named in the file at another; two paths lead to the same file;
* `Loadable`: what a file and the files that it leads to must satisfy;
* `sound_iff_loadable`: this is what it takes to be without a fault;
* `Entered`: the routes that loading may take, which are finitely many.
-/

namespace CiPipeline
namespace Definition

open Relation

variable {fs : FileSystem} {directory : Location}

/-! ## The graph of files -/

/-- The file at the first path names the second one, relative to its own directory. -/
def Loads (fs : FileSystem) (directory : Location) (p q : Path) : Prop :=
  ∃ location definition path, Describes fs directory p location definition ∧
    .load path ∈ definition.entries ∧ q = (Location.path location.dropLast).join path

/-- The paths lead to the same place once links, `.` and `..` are resolved. -/
def SameFile (fs : FileSystem) (directory : Location) (p q : Path) : Prop :=
  ∃ location, fs.locateExisting directory p = .ok location ∧
    fs.locateExisting directory q = .ok location

structure Loadable (fs : FileSystem) (directory : Location) (root : Path) : Prop where
  described : ∀ p, ReflTransGen (Loads fs directory) root p →
    ∃ location definition, Describes fs directory p location definition
  acyclic : ∀ p q, ReflTransGen (Loads fs directory) root p → TransGen (Loads fs directory) p q →
    ¬ SameFile fs directory p q

/-! ## Routes in the graph -/

theorem Describes.loads {v : Visit} {location : Location} {definition : Definition} {i : Nat}
    {path : Path} (describes : Describes fs directory v.path location definition)
    (names : definition.entries[i]? = some (.load path)) :
    Loads fs directory v.path (v.next location path).path :=
  ⟨location, definition, path, describes, List.mem_of_getElem? names, rfl⟩

theorem Route.reaches {v w : Visit} {route : List Nat} (way : Route fs directory v route w) :
    ReflTransGen (Loads fs directory) v.path w.path := by
  induction way with
  | here => exact .refl
  | load describes names _ ih => exact ih.head (describes.loads names)

theorem exists_route {v : Visit} {p : Path}
    (reaches : ReflTransGen (Loads fs directory) v.path p) :
    ∃ route w, Route fs directory v route w ∧ w.path = p := by
  induction reaches with
  | refl => exact ⟨[], v, .here, rfl⟩
  | tail _ step ih =>
      rcases ih with ⟨route, w, way, rfl⟩
      rcases step with ⟨location, definition, path, describes, mem, rfl⟩
      rcases List.mem_iff_getElem?.1 mem with ⟨i, names⟩
      refine ⟨route ++ [i], w.next location path, ?_, rfl⟩
      exact Route.append_iff.2 ⟨w, way, .load describes names .here⟩

theorem Route.leads {v w : Visit} {i : Nat} {route : List Nat}
    (way : Route fs directory v (i :: route) w) :
    TransGen (Loads fs directory) v.path w.path := by
  cases way with
  | load describes names onward => exact .head' (describes.loads names) onward.reaches

theorem exists_route_of_leads {v : Visit} {q : Path}
    (leads : TransGen (Loads fs directory) v.path q) :
    ∃ i route w, Route fs directory v (i :: route) w ∧ w.path = q := by
  rcases TransGen.head'_iff.1 leads with ⟨m, step, rest⟩
  rcases step with ⟨location, definition, path, describes, mem, rfl⟩
  rcases List.mem_iff_getElem?.1 mem with ⟨i, names⟩
  rcases exists_route (v := v.next location path) rest with ⟨route, w, way, rfl⟩
  exact ⟨i, route, w, .load describes names way, rfl⟩

/-- Nothing is wrong below a file if and only if everything it leads to describes a pipeline and
nothing leads back to itself. -/
theorem sound_iff_loadable (root : Path) :
    Sound fs directory ⟨[], root⟩ ↔ Loadable fs directory root := by
  constructor
  · intro sound
    have described : ∀ p, ReflTransGen (Loads fs directory) root p →
        ∃ location definition, Describes fs directory p location definition := by
      intro p reaches
      rcases exists_route (v := ⟨[], root⟩) reaches with ⟨route, w, way, rfl⟩
      rcases fault_or_describes fs directory w with
        ⟨e, fault⟩ | ⟨location, definition, describes, _⟩
      · exact absurd fault (sound route w e way)
      · exact ⟨location, definition, describes⟩
    refine ⟨described, ?_⟩
    rintro p q reaches leads ⟨location, locatedP, locatedQ⟩
    rcases exists_route (v := ⟨[], root⟩) reaches with ⟨route, w, way, rfl⟩
    rcases exists_route_of_leads leads with ⟨i, route', w', onward, rfl⟩
    have whole : Route fs directory ⟨[], root⟩ (route ++ i :: route') w' :=
      Route.append_iff.2 ⟨w, way, onward⟩
    have inside : location ∈ w'.chain :=
      whole.mem_chain_iff.2 (.inr ⟨route, i, route', w, rfl, way, locatedP⟩)
    have regular : fs.isRegular location = true := by
      rcases described w.path reaches with ⟨location', definition, describes⟩
      cases locatedP.symm.trans describes.located
      exact describes.regular
    -- The file is met again while it is being loaded.
    exact sound _ w' _ whole (.repeated locatedQ regular inside)
  · -- What describes a pipeline can only be repeated, and then it leads back to itself.
    intro loadable route w e way fault
    rcases loadable.described w.path way.reaches with ⟨location, definition, describes⟩
    have again := (fault.mem_chain describes).1
    rcases way.mem_chain_iff.1 again with none | ⟨before, i, after, u, rfl, first, located⟩
    · cases none
    · rcases Route.append_iff.1 way with ⟨u', first', onward⟩
      cases first.unique first'
      exact loadable.acyclic u.path w.path first.reaches onward.leads
        ⟨location, located, describes.located⟩

/-! ## How far loading goes -/

/-- The routes that loading may take: each file on the way describes a pipeline and is not being
loaded already. -/
inductive Entered (fs : FileSystem) (directory : Location) : Visit → List Nat → Prop
  | here {v : Visit} : Entered fs directory v []
  | load {v : Visit} {location : Location} {definition : Definition} {i : Nat} {path : Path}
      {route : List Nat} (describes : Describes fs directory v.path location definition)
      (fresh : location ∉ v.chain) (names : definition.entries[i]? = some (.load path))
      (onward : Entered fs directory (v.next location path) route) :
      Entered fs directory v (i :: route)

/-- Each step of a route uses up a file. -/
theorem Entered.length_le {v : Visit} {route : List Nat} (entered : Entered fs directory v route) :
    route.length ≤ (unvisited fs v.chain).length := by
  induction entered with
  | here => exact Nat.zero_le _
  | @load v location definition i path route describes fresh names onward ih =>
      have fewer : (unvisited fs (location :: v.chain)).length < (unvisited fs v.chain).length :=
        unvisited_lt describes.regular (by simpa using fresh)
      exact Nat.lt_of_le_of_lt ih fewer

theorem finite_entered (fs : FileSystem) (directory : Location) (v : Visit) :
    {route | Entered fs directory v route}.Finite := by
  rcases fault_or_describes fs directory v with
    ⟨e, fault⟩ | ⟨location, definition, describes, fresh⟩
  · -- From a visit with a fault, no route goes on.
    refine (Set.finite_singleton []).subset ?_
    intro route entered
    cases entered with
    | here => rfl
    | load describes fresh => exact absurd (fault.mem_chain describes).1 fresh
  · -- After the first index, the route is one from the file that is named there.
    have below : ∀ i : Nat, {route | ∃ path, definition.entries[i]? = some (.load path) ∧
        Entered fs directory (v.next location path) route}.Finite := by
      intro i
      by_cases names : ∃ path, definition.entries[i]? = some (.load path)
      · rcases names with ⟨path, names⟩
        refine (finite_entered fs directory (v.next location path)).subset ?_
        rintro route ⟨path', names', entered⟩
        cases names.symm.trans names'
        exact entered
      · refine Set.finite_empty.subset ?_
        rintro route ⟨path, names', _⟩
        exact names ⟨path, names'⟩
    have steps : (⋃ i ∈ {i | i < definition.entries.length}, List.cons i ''
        {route | ∃ path, definition.entries[i]? = some (.load path) ∧
          Entered fs directory (v.next location path) route}).Finite :=
      (Set.finite_lt_nat _).biUnion fun i _ => (below i).image _
    refine (steps.insert []).subset ?_
    intro route entered
    cases entered with
    | here => exact Set.mem_insert _ _
    | load describes' fresh' names onward =>
        rcases describes.unique describes' with ⟨rfl, rfl⟩
        refine Set.mem_insert_of_mem _ (Set.mem_biUnion ?_ ⟨_, ⟨_, names, onward⟩, rfl⟩)
        exact (List.getElem?_eq_some_iff.1 names).1
termination_by (unvisited fs v.chain).length
decreasing_by exact unvisited_lt describes.regular (by simpa using fresh)

/-- What loading comes to is reached along files that describe pipelines and are not repeated. -/
theorem Met.entered {v w : Visit} {route : List Nat} (met : Met fs directory v route w) :
    Entered fs directory v route := by
  induction route generalizing v with
  | nil => exact .here
  | cons i route ih =>
      cases met.way with
      | @load _ _ location definition _ path _ describes names onward =>
          have fresh : location ∉ v.chain := by
            intro again
            have fault := Fault.repeated describes.located describes.regular again
            exact met.clear [] v _ .nil .here fault
          have below : Met fs directory (v.next location path) route w := by
            refine ⟨onward, ?_⟩
            intro route' w' e earlier way
            exact met.clear (i :: route') w' e (.cons earlier) (.load describes names way)
          exact .load describes fresh names (ih below)

theorem finite_met (fs : FileSystem) (directory : Location) (v : Visit) :
    {route | ∃ w, Met fs directory v route w}.Finite := by
  refine (finite_entered fs directory v).subset ?_
  rintro route ⟨w, met⟩
  exact met.entered

end Definition

/-- Loading comes to finitely many visits and to an end: with a pipeline exactly if everything that
a file leads to describes a pipeline and nothing leads back to itself, and otherwise with the error
of the first fault.  What is being loaded at a visit is what stands on the way to it, so a file may
be loaded on many branches. -/
theorem Pipeline.ofFile_accepts_acyclic (fs : FileSystem) (directory : Location) (runId : Nat)
    (ids : IdSupply) (path : Path) :
    ({route | ∃ w, Definition.Met fs directory ⟨[], path⟩ route w}.Finite ∧
      ∀ route w, Definition.Met fs directory ⟨[], path⟩ route w →
        route.length ≤ fs.entries.length) ∧
    ((∃ p, Pipeline.ofFile fs directory runId ids path = .ok p) ↔
      Definition.Loadable fs directory path) ∧
    (∀ e, Pipeline.ofFile fs directory runId ids path = .error e ↔
      ∃ route, Definition.FirstFault fs directory ⟨[], path⟩ route e) ∧
    (∀ route w location, Definition.Route fs directory ⟨[], path⟩ route w →
      (location ∈ w.chain ↔ ∃ before i after u, route = before ++ i :: after ∧
        Definition.Route fs directory ⟨[], path⟩ before u ∧
        fs.locateExisting directory u.path = .ok location)) := by
  refine ⟨⟨Definition.finite_met fs directory ⟨[], path⟩, ?_⟩, ?_, ?_, ?_⟩
  · intro route w met
    calc
      route.length ≤ (Definition.unvisited fs []).length := met.entered.length_le
      _ ≤ fs.entries.length := List.length_filter_le _ _
  · rw [← Definition.sound_iff_loadable]
    exact Definition.loadFrom_ok_iff runId ids ⟨[], path⟩
  · intro e
    exact Definition.loadFrom_error_iff runId ids ⟨[], path⟩ e
  · intro route w location way
    rw [way.mem_chain_iff]
    simp

end CiPipeline
