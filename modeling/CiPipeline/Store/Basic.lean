import CiPipeline.Pipeline.Error

/-!
# Store — the variables of a pipeline

The store maps names to values.  Its entries are kept in increasing order of their names, so each
name stands in it once.

* `Store.get?`, `Store.contains`, `Store.names`, `Store.size`: what the store holds;
* `Store.replace`: assigns a variable;
* `Store.set`: assigns a variable that must be new unless an overwrite is asked for.
-/

namespace CiPipeline

/-! ## Sorted entries -/

namespace Entries

variable {α : Type}

/-- The names increase strictly. -/
def Sorted (entries : List (String × α)) : Prop := entries.Pairwise fun a b => a.1 < b.1

def lookup (name : String) : List (String × α) → Option α
  | [] => none
  | (key, value) :: rest => if key = name then some value else lookup name rest

def insert (name : String) (value : α) : List (String × α) → List (String × α)
  | [] => [(name, value)]
  | (key, held) :: rest =>
    if key = name then (name, value) :: rest
    else if name < key then (name, value) :: (key, held) :: rest
    else (key, held) :: insert name value rest

theorem mem_insert {name : String} {value : α} {entries : List (String × α)}
    {entry : String × α} (h : entry ∈ insert name value entries) :
    entry = (name, value) ∨ entry ∈ entries := by
  induction entries with
  | nil => simpa [insert] using h
  | cons first rest ih =>
      obtain ⟨key, held⟩ := first
      unfold insert at h
      split at h
      · rcases List.mem_cons.1 h with h | h
        · exact Or.inl h
        · exact Or.inr (List.mem_cons_of_mem _ h)
      · split at h
        · rcases List.mem_cons.1 h with h | h
          · exact Or.inl h
          · exact Or.inr h
        · rcases List.mem_cons.1 h with h | h
          · exact Or.inr (h ▸ List.mem_cons_self)
          · rcases ih h with h | h
            · exact Or.inl h
            · exact Or.inr (List.mem_cons_of_mem _ h)

theorem sorted_insert {name : String} {value : α} {entries : List (String × α)}
    (h : Sorted entries) : Sorted (insert name value entries) := by
  induction entries with
  | nil => simp [insert, Sorted]
  | cons first rest ih =>
      obtain ⟨key, held⟩ := first
      obtain ⟨hfirst, hrest⟩ := List.pairwise_cons.1 h
      unfold insert
      split
      case isTrue same =>
        subst same
        exact List.pairwise_cons.2 ⟨hfirst, hrest⟩
      case isFalse other =>
        split
        case isTrue less =>
          refine List.pairwise_cons.2 ⟨?_, h⟩
          intro entry mem
          rcases List.mem_cons.1 mem with mem | mem
          · exact mem ▸ less
          · exact String.lt_trans less (hfirst entry mem)
        case isFalse more =>
          refine List.pairwise_cons.2 ⟨?_, ih hrest⟩
          intro entry mem
          rcases mem_insert mem with mem | mem
          · subst mem
            rcases String.le_total key name with le | le
            · exact String.not_le.1 fun ge => other (String.le_antisymm le ge)
            · exact absurd (String.not_le.1 fun ge => other (String.le_antisymm ge le)) more
          · exact hfirst entry mem

theorem lookup_insert (name sought : String) (value : α) (entries : List (String × α)) :
    lookup sought (insert name value entries) =
      if name = sought then some value else lookup sought entries := by
  induction entries with
  | nil => rfl
  | cons first rest ih =>
      obtain ⟨key, held⟩ := first
      unfold insert
      split
      case isTrue same =>
        subst same
        by_cases found : key = sought <;> simp [lookup, found]
      case isFalse other =>
        split
        case isTrue less => rfl
        case isFalse more =>
          -- The entry that is kept has another name than the one that is written.
          by_cases found : key = sought
          · have kept : name ≠ sought := fun same => other (found.trans same.symm)
            simp [lookup, found, kept]
          · simp [lookup, found, ih]

end Entries

/-! ## The store -/

structure Store where
  entries : List (String × Value)
  sorted : Entries.Sorted entries

namespace Store

instance : DecidableEq Store := fun a b =>
  decidable_of_iff (a.entries = b.entries) (by cases a; cases b; simp)

def empty : Store := ⟨[], List.Pairwise.nil⟩

instance : Inhabited Store := ⟨empty⟩

def get? (store : Store) (name : String) : Option Value := Entries.lookup name store.entries

def contains (store : Store) (name : String) : Bool := (store.get? name).isSome

/-- The assigned names in increasing order. -/
def names (store : Store) : List String := store.entries.map (·.1)

def size (store : Store) : Nat := store.entries.length

def isEmpty (store : Store) : Bool := store.entries.isEmpty

def insert (store : Store) (name : String) (value : Value) : Store :=
  ⟨Entries.insert name value store.entries, Entries.sorted_insert store.sorted⟩

theorem get?_insert (store : Store) (name sought : String) (value : Value) :
    (store.insert name value).get? sought =
      if name = sought then some value else store.get? sought :=
  Entries.lookup_insert name sought value store.entries

/-- Assigns a variable; also the value it held. -/
def replace (store : Store) (name : String) (value : Value) : Option Value × Store :=
  (store.get? name, store.insert name value)

/-- Fails when the variable holds a value and no overwrite is asked for. -/
def claim (store : Store) (name : String) (overwrite : Bool) : Except PipelineError Unit :=
  match store.get? name with
  | some existing => if overwrite then .ok () else .error (.duplicateVariable name existing)
  | none => .ok ()

def set (store : Store) (name : String) (value : Value) (overwrite : Bool) :
    Except PipelineError Store := do
  store.claim name overwrite
  .ok (store.insert name value)

end Store
end CiPipeline
