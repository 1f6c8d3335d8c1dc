import Mathlib.Data.List.Dedup
import Mathlib.Data.List.Induction
import Mathlib.Data.List.Perm.Basic
import CiPipeline.Store.Basic

/-!
# History — the store after any writes

A store is told apart only by what was written to it.  Whatever writes are made, protected or not, it
holds for each name the value of the last write that was accepted; and since the first write to a name is
never refused, the names that it holds are all the names that were written to.

* `Store.Write`, `Store.write`: writes and what they answer;
* `Store.after`, `Store.accepted`: the store after writes, and the writes that it has accepted;
* `Store.write_accepted_or_refused`: one write;
* `Store.get?_after`, `Store.assigned_iff`: what the store holds;
* `store_is_finite_map`: the store as a finite map.
-/

namespace CiPipeline

/-! ## Names -/

namespace Entries

variable {α : Type}

theorem mem_names_iff {name : String} {entries : List (String × α)} :
    name ∈ entries.map (·.1) ↔ (lookup name entries).isSome = true := by
  induction entries with
  | nil => simp [lookup]
  | cons first rest ih =>
      rcases first with ⟨key, held⟩
      rw [List.map_cons, List.mem_cons, ih, lookup]
      split
      case isTrue same => simp [same]
      case isFalse other => simp [Ne.symm other]

end Entries

namespace Store

theorem mem_names_iff (store : Store) (name : String) :
    name ∈ store.names ↔ (store.get? name).isSome = true :=
  Entries.mem_names_iff

theorem names_increase (store : Store) : store.names.Pairwise (· < ·) :=
  List.pairwise_map.2 store.sorted

theorem names_nodup (store : Store) : store.names.Nodup :=
  store.names_increase.imp fun less => String.ne_of_lt less

/-! ## One write -/

inductive Write where
  | set (name : String) (value : Value) (overwrite : Bool)
  | replace (name : String) (value : Value)
deriving DecidableEq, Repr

namespace Write

def name : Write → String
  | set name _ _ => name
  | replace name _ => name

def value : Write → Value
  | set _ value _ => value
  | replace _ value => value

end Write

/-- What a write answers. -/
inductive Answer where
  | done
  | refused (error : PipelineError)
  | replaced (previous : Option Value)
deriving DecidableEq, Repr

def Answer.isAccepted : Answer → Bool
  | refused _ => false
  | _ => true

/-- A write and the store that it leaves. -/
def write (store : Store) : Write → Answer × Store
  | .set name value overwrite =>
    match store.set name value overwrite with
    | .ok next => (.done, next)
    | .error error => (.refused error, store)
  | .replace name value =>
    let (previous, next) := store.replace name value
    (.replaced previous, next)

theorem claim_eq_error_iff {store : Store} {name : String} {overwrite : Bool}
    {error : PipelineError} :
    store.claim name overwrite = .error error ↔
      overwrite = false ∧ ∃ held, store.get? name = some held ∧
        error = .duplicateVariable name held := by
  unfold claim
  cases store.get? name with
  | none => simp
  | some held =>
      cases overwrite with
      | true => simp
      | false => simp [eq_comm]

theorem set_eq (store : Store) (name : String) (value : Value) (overwrite : Bool) :
    store.set name value overwrite =
      (store.claim name overwrite).map fun _ => store.insert name value := by
  unfold set
  cases store.claim name overwrite with
  | ok => rfl
  | error error => rfl

/-- Only a protected write is refused, and only if the variable holds a value. -/
theorem write_set_refused_iff {store : Store} {name : String} {value : Value} {overwrite : Bool}
    {error : PipelineError} :
    (store.write (.set name value overwrite)).1 = .refused error ↔
      overwrite = false ∧ ∃ held, store.get? name = some held ∧
        error = .duplicateVariable name held := by
  rw [← claim_eq_error_iff, write, set_eq]
  cases store.claim name overwrite with
  | ok => simp [Except.map]
  | error error => simp [Except.map]

/-- A write puts its value into the store, or it is refused: then it leaves the store as it is, which
holds a value for the name. -/
theorem write_accepted_or_refused (store : Store) (w : Write) :
    ((store.write w).1.isAccepted = true ∧ (store.write w).2 = store.insert w.name w.value) ∨
      ((store.write w).1.isAccepted = false ∧ (store.write w).2 = store ∧
        (store.get? w.name).isSome = true) := by
  cases w with
  | replace name value => exact .inl ⟨rfl, rfl⟩
  | set name value overwrite =>
      rw [write, set_eq]
      cases claimed : store.claim name overwrite with
      | ok => exact .inl ⟨rfl, rfl⟩
      | error error =>
          rcases claim_eq_error_iff.1 claimed with ⟨_, held, found, _⟩
          exact .inr ⟨rfl, rfl, Option.isSome_iff_exists.2 ⟨held, found⟩⟩

/-! ## Histories -/

def afterFrom (store : Store) (writes : List Write) : Store :=
  writes.foldl (fun store w => (store.write w).2) store

/-- The writes that are accepted, each by the store that those before it have left. -/
def acceptedFrom (store : Store) : List Write → List Write
  | [] => []
  | w :: rest =>
    (if (store.write w).1.isAccepted then [w] else []) ++ acceptedFrom (store.write w).2 rest

def after (writes : List Write) : Store := afterFrom empty writes

def accepted (writes : List Write) : List Write := acceptedFrom empty writes

/-- The value of the last of the writes to a name. -/
def lastValue (writes : List Write) (name : String) : Option Value :=
  (writes.reverse.find? (·.name == name)).map Write.value

theorem lastValue_concat (writes : List Write) (w : Write) (name : String) :
    lastValue (writes ++ [w]) name =
      if w.name = name then some w.value else lastValue writes name := by
  unfold lastValue
  rw [List.reverse_append, List.reverse_singleton, List.singleton_append, List.find?_cons]
  split
  case h_1 same => rw [if_pos (beq_iff_eq.1 same), Option.map_some]
  case h_2 other => rw [if_neg (by simpa using other)]

/-- A name is assigned when a write to it has been accepted. -/
def Assigned (writes : List Write) (name : String) : Prop :=
  ∃ w ∈ accepted writes, w.name = name

theorem isSome_lastValue_iff (writes : List Write) (name : String) :
    (lastValue writes name).isSome = true ↔ ∃ w ∈ writes, w.name = name := by
  simp [lastValue]

theorem after_concat (writes : List Write) (w : Write) :
    after (writes ++ [w]) = ((after writes).write w).2 := by
  simp [after, afterFrom]

theorem acceptedFrom_concat (store : Store) (writes : List Write) (w : Write) :
    acceptedFrom store (writes ++ [w]) = acceptedFrom store writes ++
      if ((afterFrom store writes).write w).1.isAccepted then [w] else [] := by
  induction writes generalizing store with
  | nil => exact List.append_nil _
  | cons first rest ih =>
      rw [List.cons_append, acceptedFrom, ih, acceptedFrom, List.append_assoc]
      rfl

theorem accepted_concat (writes : List Write) (w : Write) :
    accepted (writes ++ [w]) =
      accepted writes ++ if ((after writes).write w).1.isAccepted then [w] else [] :=
  acceptedFrom_concat empty writes w

/-- Each name has the value of the last write to it that was accepted. -/
theorem get?_after (writes : List Write) (name : String) :
    (after writes).get? name = lastValue (accepted writes) name := by
  induction writes using List.reverseRecOn with
  | nil => rfl
  | append_singleton writes w ih =>
      rw [after_concat, accepted_concat]
      rcases (after writes).write_accepted_or_refused w with ⟨taken, next⟩ | ⟨refused, next, _⟩
      · rw [next, get?_insert, if_pos taken, lastValue_concat, ih]
      · rw [next, refused, ih]
        simp

theorem isSome_get?_after_iff (writes : List Write) (name : String) :
    ((after writes).get? name).isSome = true ↔ Assigned writes name := by
  rw [get?_after, isSome_lastValue_iff, Assigned]

/-- The first write to a name is accepted, so the names of all writes are assigned. -/
theorem assigned_iff (writes : List Write) (name : String) :
    Assigned writes name ↔ ∃ w ∈ writes, w.name = name := by
  induction writes using List.reverseRecOn with
  | nil => exact .rfl
  | append_singleton writes w ih =>
      have split : (∃ w' ∈ writes ++ [w], w'.name = name) ↔
          (∃ w' ∈ writes, w'.name = name) ∨ w.name = name := by
        simp [or_and_right, exists_or]
      rw [split, ← ih, Assigned, accepted_concat]
      rcases (after writes).write_accepted_or_refused w with ⟨taken, _⟩ | ⟨refused, _, held⟩
      · simp [taken, Assigned, or_and_right, exists_or]
      · -- What is refused has a name that was assigned before.
        rw [isSome_get?_after_iff] at held
        simp only [refused, Bool.false_eq_true, if_false, List.append_nil]
        refine ⟨.inl, fun given => given.elim id fun same => same ▸ held⟩

theorem length_names (store : Store) : store.names.length = store.size := List.length_map _

/-- The names of the store are those of the accepted writes, each once. -/
theorem size_after (writes : List Write) :
    (after writes).size = ((accepted writes).map Write.name).dedup.length := by
  have same : (after writes).names.Perm ((accepted writes).map Write.name).dedup := by
    refine (List.perm_ext_iff_of_nodup (names_nodup _) (List.nodup_dedup _)).2 fun name => ?_
    rw [mem_names_iff, isSome_get?_after_iff, List.mem_dedup, List.mem_map, Assigned]
  rw [← length_names, same.length_eq]

theorem isEmpty_iff (store : Store) : store.isEmpty = true ↔ store.size = 0 := by
  rw [isEmpty, List.isEmpty_iff_length_eq_zero, size]

theorem isAccepted_eq_false_iff {answer : Answer} :
    answer.isAccepted = false ↔ ∃ error, answer = .refused error := by
  cases answer with
  | done => simp [Answer.isAccepted]
  | refused error => simp [Answer.isAccepted]
  | replaced previous => simp [Answer.isAccepted]

/-- A protected write is refused by a store that holds a value for its name. -/
theorem write_set_isAccepted_iff {store : Store} {name : String} {value : Value}
    {overwrite : Bool} :
    (store.write (.set name value overwrite)).1.isAccepted = false ↔
      overwrite = false ∧ (store.get? name).isSome = true := by
  simp only [isAccepted_eq_false_iff, write_set_refused_iff, exists_and_left,
    Option.isSome_iff_exists]
  exact and_congr_right fun _ =>
    ⟨fun ⟨_, held, found, _⟩ => ⟨held, found⟩, fun ⟨held, found⟩ => ⟨_, held, found, rfl⟩⟩

theorem write_of_refused {store : Store} {w : Write}
    (refused : (store.write w).1.isAccepted = false) : (store.write w).2 = store := by
  rcases store.write_accepted_or_refused w with ⟨taken, _⟩ | ⟨_, kept, _⟩
  · cases refused.symm.trans taken
  · exact kept

end Store

/-- A store behind any writes is a finite map of names to values.

A write is refused if and only if it is protected and its name is assigned; the error carries the name and
the value that is held, and the store stays as it is.  Replacing answers the value that was held.  Each
name has the value of the last accepted write to it, and none if there was none; the assigned names are
those of all writes, refused ones among them.  They are listed in increasing order, and the size is their
number. -/
theorem store_is_finite_map (writes : List Store.Write) :
    (∀ name value overwrite error,
      ((Store.after writes).write (.set name value overwrite)).1 = .refused error ↔
        overwrite = false ∧ ∃ held, (Store.after writes).get? name = some held ∧
          error = .duplicateVariable name held) ∧
    (∀ name value overwrite,
      ((Store.after writes).write (.set name value overwrite)).1.isAccepted = false ↔
        overwrite = false ∧ Store.Assigned writes name) ∧
    (∀ w, ((Store.after writes).write w).1.isAccepted = false →
      ((Store.after writes).write w).2 = Store.after writes) ∧
    (∀ name value, ((Store.after writes).write (.replace name value)).1 =
      .replaced ((Store.after writes).get? name)) ∧
    (∀ name,
      (Store.after writes).get? name = Store.lastValue (Store.accepted writes) name ∧
      ((Store.after writes).get? name = none ↔ ¬ Store.Assigned writes name) ∧
      ((Store.after writes).contains name = true ↔ Store.Assigned writes name) ∧
      (name ∈ (Store.after writes).names ↔ Store.Assigned writes name) ∧
      (Store.Assigned writes name ↔ ∃ w ∈ writes, w.name = name)) ∧
    (Store.after writes).names.Pairwise (· < ·) ∧
    (Store.after writes).size = ((Store.accepted writes).map Store.Write.name).dedup.length ∧
    ((Store.after writes).isEmpty = true ↔ (Store.after writes).size = 0) := by
  have held : ∀ name, ((Store.after writes).get? name).isSome = true ↔
      Store.Assigned writes name := Store.isSome_get?_after_iff writes
  refine ⟨fun name value overwrite error => Store.write_set_refused_iff, ?_,
    fun w => Store.write_of_refused, fun name value => rfl, fun name => ⟨?_, ?_, ?_, ?_, ?_⟩,
    Store.names_increase _, Store.size_after writes, Store.isEmpty_iff _⟩
  · intro name value overwrite
    rw [Store.write_set_isAccepted_iff, held]
  · exact Store.get?_after writes name
  · rw [← held, Bool.not_eq_true, Option.isSome_eq_false_iff, Option.isNone_iff_eq_none]
  · exact held name
  · rw [Store.mem_names_iff, held]
  · exact Store.assigned_iff writes name

/-- The third write is refused, and so is one to `a`, although only replacing has assigned it. -/
theorem store_is_finite_map_protected :
    let writes : List Store.Write :=
      [.set "b" (.text "old") false, .replace "a" (.bool true), .set "b" (.text "new") false]
    ((Store.after writes).write (.set "a" (.bool false) false)).1.isAccepted = false ∧
      ((Store.after writes).write (.set "a" (.bool false) false)).2 = Store.after writes ∧
      (Store.after writes).get? "b" = some (.text "old") ∧
      (Store.after writes).names = ["a", "b"] := by
  intro writes
  have refused :
      ((Store.after writes).write (.set "a" (.bool false) false)).1.isAccepted = false := by decide
  exact ⟨refused, (store_is_finite_map writes).2.2.1 _ refused, by decide, by decide⟩

end CiPipeline
