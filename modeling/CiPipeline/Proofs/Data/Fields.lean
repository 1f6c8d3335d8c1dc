import CiPipeline.Data.Decode
import CiPipeline.Proofs.Data.Equality
import Mathlib.Data.List.Forall2

/-!
# Fields — what the fields of a record have passed

A record that is taken apart without an error has known keys only, and each of its values has passed
the test of its field.  In turn a record with known keys, each once, whose values pass their tests
is taken apart, and its values are found again by their places.

* `Except.bind_ok`: what steps that end well have gone through;
* `Datum.gather_ok`, `Datum.gatherItems_ok`: what the parts have passed;
* `Datum.Keyed`: records with known keys, each once;
* `Datum.gather_of_keyed`: such a record is taken apart;
* `Datum.asList_ok_iff`: lists are decoded item by item.
-/

namespace CiPipeline

theorem Except.bind_ok {ε α β : Type} {x : Except ε α} {f : α → Except ε β} {b : β}
    (ok : (x >>= f) = .ok b) : ∃ a, x = .ok a ∧ f a = .ok b := by
  cases x with
  | error e => cases ok
  | ok a => exact ⟨a, rfl, ok⟩

theorem Except.eq_ok_of_toOption {ε α : Type} {x : Except ε α} {a : α}
    (found : x.toOption = some a) : x = .ok a := by
  cases x with
  | error e => cases found
  | ok b => rw [Option.some.inj found]

theorem exists_forall₂_iff {α β : Type} {M : α → β → Prop} {as : List α} :
    (∃ bs, List.Forall₂ M as bs) ↔ ∀ a ∈ as, ∃ b, M a b := by
  induction as with
  | nil => exact ⟨fun _ => List.forall_mem_nil _, fun _ => ⟨[], .nil⟩⟩
  | cons a as ih =>
      rw [List.forall_mem_cons, ← ih]
      constructor
      · rintro ⟨_, _ | ⟨first, others⟩⟩
        exact ⟨⟨_, first⟩, _, others⟩
      · rintro ⟨⟨b, first⟩, bs, others⟩
        exact ⟨b :: bs, .cons first others⟩

namespace Datum

theorem FieldSpec.check_of_iff {α : Type} {name : String} {decode : Datum → Except DecodeError α}
    {d : Datum} : (FieldSpec.of name decode).check d = .ok () ↔ ∃ a, decode d = .ok a := by
  change (decode d).map (fun _ => ()) = .ok () ↔ _
  cases decode d with
  | error e => simp [Except.map]
  | ok a => simp [Except.map]

/-! ## What has been passed -/

theorem fieldIndex_lt {names : List String} {key : Datum} {i : Nat}
    (known : fieldIndex names key = .ok (some i)) : i < names.length := by
  cases key with
  | text s =>
      simp only [fieldIndex, Except.ok.injEq] at known
      exact (List.idxOf?_eq_some_iff.1 known).1
  | int j =>
      rw [fieldIndex] at known
      split_ifs at known with negative small
      · simp only [Except.ok.injEq, Option.some.injEq] at known
        omega
      · cases known
  | null => cases known
  | bool b => cases known
  | number x => cases known
  | list items => cases known
  | record fields => cases known
  | tagged tag value => cases known
  | fault e => cases known

/-- The key of a field is known, and its value has passed the test of the field. -/
def Passed (specs : List FieldSpec) (f : Datum × Datum) : Prop :=
  ∃ i spec, fieldIndex (specs.map (·.name)) f.1 = .ok (some i) ∧ specs[i]? = some spec ∧
    spec.check f.2 = .ok ()

/-- One step: the first field passes, and the others are gathered behind it. -/
theorem gather_cons_ok {specs : List FieldSpec} {seen got : List (Nat × Datum)}
    {key value : Datum} {fields : List (Datum × Datum)}
    (ok : gather specs true seen ((key, value) :: fields) = .ok got) :
    ∃ i spec, fieldIndex (specs.map (·.name)) key = .ok (some i) ∧ specs[i]? = some spec ∧
      spec.check value = .ok () ∧ gather specs true ((i, value) :: seen) fields = .ok got := by
  rw [gather] at ok
  rcases Except.bind_ok ok with ⟨index, known, ok⟩
  cases index with
  | none => cases ok
  | some i =>
      have bound : i < specs.length := by simpa using fieldIndex_lt known
      have found : specs[i]? = some specs[i] := List.getElem?_eq_getElem bound
      simp only [found] at ok
      split_ifs at ok with duplicate
      rcases Except.bind_ok ok with ⟨_, passed, ok⟩
      exact ⟨i, specs[i], known, found, passed, ok⟩

theorem gather_ok {specs : List FieldSpec} {seen got : List (Nat × Datum)}
    {fields : List (Datum × Datum)} (ok : gather specs true seen fields = .ok got) :
    ∀ f ∈ fields, Passed specs f := by
  induction fields generalizing seen with
  | nil => exact List.forall_mem_nil _
  | cons f fields ih =>
      rcases gather_cons_ok ok with ⟨i, spec, known, found, passed, ok⟩
      exact List.forall_mem_cons.2 ⟨⟨i, spec, known, found, passed⟩, ih ok⟩

/-- Each item has passed the test of the field at its place. -/
theorem gatherItems_ok {specs : List FieldSpec} {expected : String} {index : Nat}
    {items : List Datum} {got : List (Nat × Datum)}
    (ok : gatherItems specs expected index items = .ok got) {i : Nat} {d : Datum}
    (item : items[i]? = some d) :
    ∃ spec, specs[index + i]? = some spec ∧ spec.check d = .ok () := by
  induction items generalizing index got i with
  | nil => simp at item
  | cons first items ih =>
      rw [gatherItems] at ok
      cases place : specs[index]? with
      | none =>
          rw [place] at ok
          cases ok
      | some spec =>
          rw [place] at ok
          rcases Except.bind_ok ok with ⟨_, passed, ok⟩
          rcases Except.bind_ok ok with ⟨rest, others, _⟩
          cases i with
          | zero =>
              cases item
              exact ⟨spec, place, passed⟩
          | succ i =>
              have later := ih others (i := i) item
              rwa [Nat.add_right_comm] at later

/-! ## Records with known keys -/

/-- The keys are texts, known ones, and each stands once. -/
structure Keyed (names : List String) (fields : List (Datum × Datum)) : Prop where
  known : ∀ f ∈ fields, ∃ name ∈ names, f.1 = .text name
  distinct : (fields.map Prod.fst).Nodup

instance (names : List String) (fields : List (Datum × Datum)) : Decidable (Keyed names fields) :=
  decidable_of_iff
    ((∀ f ∈ fields, ∃ name ∈ names, f.1 = .text name) ∧ (fields.map Prod.fst).Nodup)
    ⟨fun both => ⟨both.1, both.2⟩, fun keyed => ⟨keyed.known, keyed.distinct⟩⟩

theorem field?_cons_self (name : String) (d : Datum) (fields : List (Datum × Datum)) :
    field? name ((.text name, d) :: fields) = some d := by
  simp [field?]

theorem field?_cons_of_ne {name key : String} (other : key ≠ name) (d : Datum)
    (fields : List (Datum × Datum)) :
    field? name ((.text key, d) :: fields) = field? name fields := by
  simp [field?, other]

theorem mem_of_field? {name : String} {fields : List (Datum × Datum)} {d : Datum}
    (found : field? name fields = some d) : (.text name, d) ∈ fields := by
  induction fields with
  | nil => cases found
  | cons f fields ih =>
      rw [field?.eq_def] at found
      split at found
      · next none => cases none
      · next key value rest same =>
          cases same
          split_ifs at found with here
          · cases found
            rw [here]
            exact List.mem_cons_self ..
          · exact List.mem_cons_of_mem _ (ih found)
      · next same =>
          cases same
          exact List.mem_cons_of_mem _ (ih found)

/-- Where each key stands once, the first field with a key is the only one. -/
theorem field?_of_mem {name : String} {fields : List (Datum × Datum)} {d : Datum}
    (distinct : (fields.map Prod.fst).Nodup) (mem : (.text name, d) ∈ fields) :
    field? name fields = some d := by
  induction fields with
  | nil => cases mem
  | cons f fields ih =>
      rw [List.map_cons, List.nodup_cons] at distinct
      rcases List.mem_cons.1 mem with rfl | later
      · exact field?_cons_self name d fields
      · have apart : f.1 ≠ .text name := by
          intro same
          have twice := List.mem_map_of_mem (f := Prod.fst) later
          exact distinct.1 (same ▸ twice)
        have rest := ih distinct.2 later
        rw [field?.eq_def]
        split
        · next none => cases none
        · next key value tail same =>
            cases same
            have differs : key ≠ name := fun same => apart (by rw [same])
            rw [if_neg differs]
            exact rest
        · next same =>
            cases same
            exact rest

/-- Fields with one name are one field. -/
theorem place_inj {specs : List FieldSpec} (names : (specs.map (·.name)).Nodup) {i i' : Nat}
    {spec spec' : FieldSpec} (place : specs[i]? = some spec) (place' : specs[i']? = some spec')
    (same : spec.name = spec'.name) : i = i' := by
  have bound : i < (specs.map (·.name)).length := by
    rw [List.length_map]
    exact (List.getElem?_eq_some_iff.1 place).1
  refine (List.getElem?_inj bound names).1 ?_
  rw [List.getElem?_map, List.getElem?_map, place, place', Option.map_some, Option.map_some, same]

theorem fieldIndex_text {specs : List FieldSpec} (names : (specs.map (·.name)).Nodup) {i : Nat}
    {spec : FieldSpec} (place : specs[i]? = some spec) :
    fieldIndex (specs.map (·.name)) (.text spec.name) = .ok (some i) := by
  cases first : (specs.map (·.name)).idxOf? spec.name with
  | none =>
      have inside := List.mem_map_of_mem (f := (·.name)) (List.mem_of_getElem? place)
      exact absurd inside (List.idxOf?_eq_none_iff.1 first)
  | some j =>
      rcases List.idxOf?_eq_some_iff.1 first with ⟨bound, here, _⟩
      have inside : j < specs.length := by simpa using bound
      have place' : specs[j]? = some specs[j] := List.getElem?_eq_getElem inside
      have name : specs[j].name = spec.name := by simpa using here
      rw [fieldIndex, first, place_inj names place' place name]

theorem gather_cons {specs : List FieldSpec} {strict : Bool} {seen : List (Nat × Datum)}
    {key value : Datum} {i : Nat} {spec : FieldSpec}
    (known : fieldIndex (specs.map (·.name)) key = .ok (some i)) (place : specs[i]? = some spec)
    (unseen : seen.lookup i = none) (check : spec.check value = .ok ())
    (fields : List (Datum × Datum)) :
    gather specs strict seen ((key, value) :: fields) =
      gather specs strict ((i, value) :: seen) fields := by
  simp only [gather, known, bind, Except.bind, place, unseen, check, Option.isSome_none,
    Bool.false_eq_true, if_false]

theorem lookup_cons_of_ne {i i' : Nat} (apart : i' ≠ i) (d : Datum) (seen : List (Nat × Datum)) :
    ((i, d) :: seen).lookup i' = seen.lookup i' := by
  rw [List.lookup_cons, beq_false_of_ne apart]

/-- Fields that pass are gathered behind the ones that were seen, and are found again. -/
theorem gather_behind {specs : List FieldSpec} (names : (specs.map (·.name)).Nodup)
    {fields : List (Datum × Datum)} {seen : List (Nat × Datum)}
    (distinct : (fields.map Prod.fst).Nodup)
    (passed : ∀ f ∈ fields, ∃ i spec, specs[i]? = some spec ∧ f.1 = .text spec.name ∧
      seen.lookup i = none ∧ spec.check f.2 = .ok ()) :
    ∃ got, (∀ strict, gather specs strict seen fields = .ok got) ∧ ∀ i spec, specs[i]? = some spec →
      got.lookup i = (seen.lookup i).or (field? spec.name fields) := by
  induction fields generalizing seen with
  | nil => exact ⟨seen, fun _ => rfl, fun i spec _ => by simp [field?]⟩
  | cons f fields ih =>
      rcases f with ⟨key, value⟩
      rcases List.forall_mem_cons.1 passed with ⟨⟨i, spec, place, name, unseen, check⟩, others⟩
      rw [List.map_cons, List.nodup_cons] at distinct
      cases name
      have next : ∀ f ∈ fields, ∃ i' spec', specs[i']? = some spec' ∧ f.1 = .text spec'.name ∧
          ((i, value) :: seen).lookup i' = none ∧ spec'.check f.2 = .ok () := by
        intro f mem
        rcases others f mem with ⟨i', spec', place', name', unseen', check'⟩
        -- Two fields in one place would have one key.
        have apart : i' ≠ i := by
          rintro rfl
          have same : spec = spec' := Option.some.inj (place.symm.trans place')
          have twice : f.1 ∈ fields.map Prod.fst := List.mem_map_of_mem mem
          rw [name', ← same] at twice
          exact distinct.1 twice
        exact ⟨i', spec', place', name', by rw [lookup_cons_of_ne apart, unseen'], check'⟩
      rcases ih distinct.2 next with ⟨got, ok, found⟩
      refine ⟨got, fun strict => ?_, fun i' spec' place' => ?_⟩
      · rw [gather_cons (fieldIndex_text names place) place unseen check, ok strict]
      · rw [found i' spec' place']
        by_cases here : i' = i
        · subst here
          cases place.symm.trans place'
          simp [unseen, field?_cons_self]
        · have differs : spec.name ≠ spec'.name :=
            fun same => here (place_inj names place place' same).symm
          rw [lookup_cons_of_ne here, field?_cons_of_ne differs]

/-- The values are found by the places of their fields. -/
def Looked (specs : List FieldSpec) (fields : List (Datum × Datum)) (got : List (Nat × Datum)) :
    Prop :=
  ∀ i spec, specs[i]? = some spec → got.lookup i = field? spec.name fields

theorem gather_of_keyed {specs : List FieldSpec} {fields : List (Datum × Datum)}
    (passed : ∀ spec ∈ specs, ∀ d, field? spec.name fields = some d → spec.check d = .ok ())
    (names : (specs.map (·.name)).Nodup) (keyed : Keyed (specs.map (·.name)) fields) :
    ∃ got, (∀ strict, gather specs strict [] fields = .ok got) ∧ Looked specs fields got := by
  have each : ∀ f ∈ fields, ∃ i spec, specs[i]? = some spec ∧ f.1 = .text spec.name ∧
      ([] : List (Nat × Datum)).lookup i = none ∧ spec.check f.2 = .ok () := by
    rintro ⟨key, d⟩ mem
    rcases keyed.known _ mem with ⟨name, known, rfl⟩
    rcases List.mem_map.1 known with ⟨spec, inside, rfl⟩
    rcases List.mem_iff_getElem?.1 inside with ⟨i, place⟩
    exact ⟨i, spec, place, rfl, rfl, passed spec inside d (field?_of_mem keyed.distinct mem)⟩
  rcases gather_behind names keyed.distinct each with ⟨got, ok, found⟩
  exact ⟨got, ok, fun i spec place => by simpa using found i spec place⟩

theorem passed_of_gather {specs : List FieldSpec} {fields : List (Datum × Datum)}
    {got : List (Nat × Datum)} (ok : gather specs true [] fields = .ok got)
    (names : (specs.map (·.name)).Nodup) :
    ∀ spec ∈ specs, ∀ d, field? spec.name fields = some d → spec.check d = .ok () := by
  intro spec inside d found
  rcases List.mem_iff_getElem?.1 inside with ⟨i, place⟩
  rcases gather_ok ok _ (mem_of_field? found) with ⟨j, spec', known, place', check⟩
  rw [fieldIndex_text names place] at known
  cases known
  cases place.symm.trans place'
  exact check

/-- A record that is taken apart has no other keys. -/
theorem field?_of_gather {specs : List FieldSpec} {fields : List (Datum × Datum)}
    {got : List (Nat × Datum)} (ok : gather specs true [] fields = .ok got) {name : String}
    (unknown : name ∉ specs.map (·.name)) : field? name fields = none := by
  cases found : field? name fields with
  | none => rfl
  | some d =>
      rcases gather_ok ok _ (mem_of_field? found) with ⟨i, spec, known, _⟩
      rw [fieldIndex, List.idxOf?_eq_none_iff.2 unknown] at known
      cases known

theorem looked_of_gather {specs : List FieldSpec} {fields : List (Datum × Datum)}
    {got : List (Nat × Datum)} (ok : gather specs true [] fields = .ok got)
    (names : (specs.map (·.name)).Nodup) (keyed : Keyed (specs.map (·.name)) fields) :
    Looked specs fields got := by
  -- What was gathered is what keys that are known give, because there is only one result.
  rcases gather_of_keyed (passed_of_gather ok names) names keyed with ⟨got', ok', looked⟩
  cases ok.symm.trans (ok' true)
  exact looked

theorem Keyed.perm {names : List String} {fields fields' : List (Datum × Datum)}
    (keyed : Keyed names fields) (order : fields.Perm fields') : Keyed names fields' where
  known f mem := keyed.known f (order.mem_iff.2 mem)
  distinct := (order.map Prod.fst).nodup_iff.1 keyed.distinct

/-- Values are found whatever the order of the fields. -/
theorem Keyed.field?_perm {names : List String} {fields fields' : List (Datum × Datum)}
    (keyed : Keyed names fields) (order : fields.Perm fields') (name : String) :
    field? name fields' = field? name fields := by
  cases found : field? name fields with
  | some d =>
      have mem := order.mem_iff.1 (mem_of_field? found)
      exact field?_of_mem (keyed.perm order).distinct mem
  | none =>
      cases found' : field? name fields' with
      | none => rfl
      | some d =>
          have mem := order.mem_iff.2 (mem_of_field? found')
          rw [field?_of_mem keyed.distinct mem] at found
          cases found

/-- Names under which nothing stands may be left out. -/
theorem Keyed.restrict {names names' : List String} {fields : List (Datum × Datum)}
    (keyed : Keyed names fields)
    (others : ∀ name ∈ names, name ∉ names' → field? name fields = none) :
    Keyed names' fields := by
  refine ⟨fun f mem => ?_, keyed.distinct⟩
  rcases keyed.known f mem with ⟨name, known, key⟩
  by_cases inside : name ∈ names'
  · exact ⟨name, inside, key⟩
  · have found : field? name fields = some f.2 := field?_of_mem keyed.distinct (key ▸ mem)
    rw [others name known inside] at found
    cases found

/-! ## Plain data -/

theorem checkPlain_list {items : List Datum} (each : ∀ d ∈ items, d.checkPlain = .ok ()) :
    (Datum.list items).checkPlain = .ok () := by
  rw [checkPlain]
  induction items with
  | nil => rfl
  | cons d items ih =>
      rcases List.forall_mem_cons.1 each with ⟨first, others⟩
      rw [checkPlainItems, first]
      exact ih others

theorem checkPlain_record {fields : List (Datum × Datum)}
    (each : ∀ f ∈ fields, f.1.checkPlain = .ok () ∧ f.2.checkPlain = .ok ()) :
    (Datum.record fields).checkPlain = .ok () := by
  rw [checkPlain]
  induction fields with
  | nil => rfl
  | cons f fields ih =>
      rcases f with ⟨key, value⟩
      rcases List.forall_mem_cons.1 each with ⟨⟨first, second⟩, others⟩
      rw [checkPlainFields, checkPlainField, first]
      change (value.checkPlain >>= fun _ => checkPlainFields fields) = _
      rw [second]
      exact ih others

/-- Keys that are texts are plain, so only the values count. -/
theorem Keyed.checkPlain {names : List String} {fields : List (Datum × Datum)}
    (keyed : Keyed names fields)
    (values : ∀ name ∈ names, ∀ d, field? name fields = some d → d.checkPlain = .ok ()) :
    (Datum.record fields).checkPlain = .ok () := by
  refine checkPlain_record fun f mem => ?_
  rcases keyed.known f mem with ⟨name, known, key⟩
  refine ⟨by rw [key]; rfl, values name known f.2 ?_⟩
  exact field?_of_mem keyed.distinct (key ▸ mem)

/-! ## Lists -/

theorem asList_ok_iff {α : Type} {decode : Datum → Except DecodeError α} {items : List Datum}
    {as : List α} :
    asList decode (.list items) = .ok as ↔ List.Forall₂ (fun d a => decode d = .ok a) items as := by
  change items.mapM decode = .ok as ↔ _
  induction items generalizing as with
  | nil =>
      rw [List.forall₂_nil_left_iff]
      exact ⟨fun ok => (Except.ok.inj ok).symm, fun none => none ▸ rfl⟩
  | cons d items ih =>
      rw [List.mapM_cons]
      constructor
      · intro ok
        rcases Except.bind_ok ok with ⟨a, first, ok⟩
        rcases Except.bind_ok ok with ⟨rest, others, ok⟩
        cases ok
        exact .cons first (ih.1 others)
      · rintro (_ | ⟨first, others⟩)
        rw [first, ih.2 others]
        rfl

end Datum
end CiPipeline
