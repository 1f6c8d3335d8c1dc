import CiPipeline.Store.Basic

/-!
# Extension — stores that hold the same are equal

Entries are kept in the order of their names, so that no two lists of entries hold the same: what
each name is bound to determines the list.

* `Entries.ext`: sorted entries with the same look-ups are equal;
* `Store.ext`: and so are stores.
-/

namespace CiPipeline
namespace Entries

variable {α : Type} {entries left right : List (String × α)} {name : String}

theorem lookup_eq_none_of_lt (less : ∀ entry ∈ entries, name < entry.1) :
    lookup name entries = none := by
  induction entries with
  | nil => rfl
  | cons first rest ih =>
      have other : first.1 ≠ name := by
        intro same
        have before := less first List.mem_cons_self
        rw [same] at before
        exact String.lt_irrefl name before
      rw [lookup, if_neg other]
      exact ih fun entry mem => less entry (List.mem_cons_of_mem _ mem)

/-- A name that is bound does not come before the first one. -/
theorem first_le_of_lookup {key : String} {held value : α}
    (sorted : Sorted ((key, held) :: entries))
    (bound : lookup name ((key, held) :: entries) = some value) : key ≤ name := by
  refine String.not_lt.1 fun less => ?_
  have none : lookup name ((key, held) :: entries) = none := by
    refine lookup_eq_none_of_lt fun entry mem => ?_
    rcases List.mem_cons.1 mem with rfl | mem
    · exact less
    · exact String.lt_trans less ((List.pairwise_cons.1 sorted).1 entry mem)
  cases none.symm.trans bound

theorem lookup_first (key : String) (held : α) (rest : List (String × α)) :
    lookup key ((key, held) :: rest) = some held := by
  simp [lookup]

theorem ext (sorted : Sorted left) (sorted' : Sorted right)
    (same : ∀ name, lookup name left = lookup name right) : left = right := by
  induction left generalizing right with
  | nil =>
      cases right with
      | nil => rfl
      | cons first rest => simpa [lookup] using same first.1
  | cons first rest ih =>
      cases right with
      | nil => simpa [lookup] using same first.1
      | cons first' rest' =>
          rcases first with ⟨key, held⟩
          rcases first' with ⟨key', held'⟩
          -- The lists begin with the same name, as each binds the first name of the other.
          have keys : key = key' :=
            String.le_antisymm
              (first_le_of_lookup sorted ((same key').trans (lookup_first key' held' rest')))
              (first_le_of_lookup sorted' ((same key).symm.trans (lookup_first key held rest)))
          subst keys
          have values : held = held' := by simpa [lookup] using same key
          subst values
          rcases List.pairwise_cons.1 sorted with ⟨first, sorted⟩
          rcases List.pairwise_cons.1 sorted' with ⟨first', sorted'⟩
          refine congrArg _ (ih sorted sorted' fun name => ?_)
          by_cases head : key = name
          · subst head
            rw [lookup_eq_none_of_lt first, lookup_eq_none_of_lt first']
          · simpa [lookup, head] using same name

end Entries

theorem Store.ext {store store' : Store} (same : ∀ name, store.get? name = store'.get? name) :
    store = store' := by
  rcases store with ⟨entries, sorted⟩
  rcases store' with ⟨entries', sorted'⟩
  have equal : entries = entries' := Entries.ext sorted sorted' same
  subst equal
  rfl

end CiPipeline
