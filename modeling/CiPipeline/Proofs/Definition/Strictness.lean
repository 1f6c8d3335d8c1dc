import CiPipeline.Proofs.Definition.Parse

/-!
# Strictness — keys that no description has

The shape of descriptions says which records have which keys.  A description in which some record
has another key is refused, however deep the record stands.  References to variables are the
exception: beside the name of the variable, they may have any key.

* `Shape`: records and lists with their parts; `Shape.pipeline`: the shape of descriptions;
* `Strays`: data with a key that their shape does not have;
* `Refuses`: decoders that accept no data that stray from a shape;
* `Definition.stray_keys_refused`: texts whose description strays;
* `Definition.stray_key_ignored`: a reference with one key too many.
-/

namespace CiPipeline

open Datum Definition

/-! ## Shapes -/

inductive Shape where
  /-- A text, a flag or the like: nothing with keys. -/
  | value
  | list (item : Shape)
  /-- A record, or a list of the values in the order of the fields.  With `numbered`, the number of
  a field may stand for its name. -/
  | record (numbered : Bool) (fields : List (String × Shape))
  | either (one other : Shape)
  /-- A record that names a variable and may have other keys, or a value. -/
  | reference

namespace Shape

/-- The place of a key among the names of the fields. -/
def placeOf (numbered : Bool) (names : List String) (key : Datum) : Option Nat :=
  if numbered then
    match key with
    | .text name => names.idxOf? name
    | .int i => if 0 ≤ i ∧ i < names.length then some i.toNat else none
    | _ => none
  else
    match key.untagged with
    | .text name => names.idxOf? name
    | _ => none

/-- The shape of the field at a place; behind the last field there are only values. -/
def fieldAt (fields : List (String × Shape)) (i : Nat) : Shape :=
  (fields[i]?.map Prod.snd).getD value

/-- Whether a key may stand in a reference, beside the name. -/
def mayStand : Datum → Bool
  | .text _ => true
  | .int i => decide (0 ≤ i)
  | _ => false

def readFile : Shape := record true [("path", value), ("variable", value)]

def command (parameter : Shape) : Shape :=
  record true [("run", value), ("readFile", readFile), ("print", list parameter),
    ("allowFailure", value)]

def job (parameter : Shape) : Shape :=
  record true [("name", value), ("allowFailure", value), ("commands", list (command parameter))]

def stage (parameter : Shape) : Shape :=
  record true [("name", value), ("allowFailure", value), ("jobs", list (job parameter))]

def load : Shape := record true [("load", value)]

def entry (parameter : Shape) : Shape := either load (stage parameter)

/-- The shape of descriptions whose print commands have parameters of the given shape. -/
def pipeline (parameter : Shape) : Shape :=
  record false [("allowFailure", value), ("stages", list (entry parameter))]

end Shape

/-! ## Data that stray -/

/-- Somewhere in the datum stands a record that has a key. -/
inductive HasKey : Datum → Prop
  | record (field : Datum × Datum) (fields : List (Datum × Datum)) :
      HasKey (.record (field :: fields))
  | item {items : List Datum} {d : Datum} (mem : d ∈ items) (below : HasKey d) :
      HasKey (.list items)
  | tagged {tag : String} {d : Datum} (below : HasKey d) : HasKey (.tagged tag d)

/-- Somewhere in the datum stands a record with a key that it should not have. -/
inductive Strays : Shape → Datum → Prop
  | value {d : Datum} (has : HasKey d) : Strays .value d
  | item {shape : Shape} {items : List Datum} {d : Datum} (mem : d ∈ items)
      (below : Strays shape d) : Strays (.list shape) (.list items)
  | noList {shape : Shape} (field : Datum × Datum) (fields : List (Datum × Datum)) :
      Strays (.list shape) (.record (field :: fields))
  | key {numbered : Bool} {shapes : List (String × Shape)} {fields : List (Datum × Datum)}
      {key value : Datum} (mem : (key, value) ∈ fields)
      (unknown : Shape.placeOf numbered (shapes.map Prod.fst) key = none) :
      Strays (.record numbered shapes) (.record fields)
  | field {numbered : Bool} {shapes : List (String × Shape)} {fields : List (Datum × Datum)}
      {key value : Datum} {i : Nat} (mem : (key, value) ∈ fields)
      (known : Shape.placeOf numbered (shapes.map Prod.fst) key = some i)
      (below : Strays (Shape.fieldAt shapes i) value) :
      Strays (.record numbered shapes) (.record fields)
  | place {numbered : Bool} {shapes : List (String × Shape)} {items : List Datum} {d : Datum}
      {i : Nat} (item : items[i]? = some d) (below : Strays (Shape.fieldAt shapes i) d) :
      Strays (.record numbered shapes) (.list items)
  /-- What may be one of two things is neither. -/
  | either {one other : Shape} {d : Datum} (first : Strays one d) (second : Strays other d) :
      Strays (.either one other) d
  /-- A record with keys, of which none names the variable. -/
  | unnamed {field : Datum × Datum} {fields : List (Datum × Datum)}
      (others : ∀ f ∈ field :: fields, Parameter.namesField Parameter.referenceKey 0 f.1 = false) :
      Strays .reference (.record (field :: fields))
  | name {fields : List (Datum × Datum)} {key value : Datum} (mem : (key, value) ∈ fields)
      (names : Parameter.namesField Parameter.referenceKey 0 key = true) (has : HasKey value) :
      Strays .reference (.record fields)
  | oddKey {fields : List (Datum × Datum)} {key value : Datum} (mem : (key, value) ∈ fields)
      (odd : Shape.mayStand key = false) : Strays .reference (.record fields)
  | noReference {items : List Datum} (has : HasKey (.list items)) :
      Strays .reference (.list items)
  | tagged {shape : Shape} {tag : String} {d : Datum} (below : Strays shape d) :
      Strays shape (.tagged tag d)

theorem HasKey.collection {d : Datum} (has : HasKey d) :
    (∃ fields, d.untagged = .record fields) ∨ ∃ items, d.untagged = .list items := by
  induction has with
  | record => exact .inl ⟨_, rfl⟩
  | item => exact .inr ⟨_, rfl⟩
  | tagged _ ih => exact ih

theorem HasKey.untagged {d : Datum} (has : HasKey d) : HasKey d.untagged := by
  induction has with
  | record field fields => exact .record field fields
  | item mem below => exact .item mem below
  | tagged below ih => exact ih

/-- Tags hide nothing. -/
theorem Strays.untagged {shape : Shape} {d : Datum} (strays : Strays shape d) :
    Strays shape d.untagged := by
  induction strays with
  | value has => exact .value has.untagged
  | item mem below => exact .item mem below
  | noList field fields => exact .noList field fields
  | key mem unknown => exact .key mem unknown
  | field mem known below => exact .field mem known below
  | place item below => exact .place item below
  | either _ _ first second => exact .either first second
  | unnamed others => exact .unnamed others
  | name mem names has => exact .name mem names has
  | oddKey mem odd => exact .oddKey mem odd
  | noReference has => exact .noReference has
  | tagged _ ih => exact ih

/-- Only records and lists stray. -/
theorem Strays.collection {shape : Shape} {d : Datum} (strays : Strays shape d) :
    (∃ fields, d.untagged = .record fields) ∨ ∃ items, d.untagged = .list items := by
  induction strays with
  | value has => exact has.collection
  | item => exact .inr ⟨_, rfl⟩
  | noList => exact .inl ⟨_, rfl⟩
  | key => exact .inl ⟨_, rfl⟩
  | field => exact .inl ⟨_, rfl⟩
  | place => exact .inr ⟨_, rfl⟩
  | either _ _ first _ => exact first
  | unnamed => exact .inl ⟨_, rfl⟩
  | name => exact .inl ⟨_, rfl⟩
  | oddKey => exact .inl ⟨_, rfl⟩
  | noReference => exact .inr ⟨_, rfl⟩
  | tagged _ ih => exact ih

theorem Strays.ne_null {shape : Shape} {d : Datum} (strays : Strays shape d) : d ≠ .null := by
  rintro rfl
  rcases strays.collection with ⟨_, same⟩ | ⟨_, same⟩
  · cases same
  · cases same

/-- An entry without such a key strays as a stage does. -/
theorem strays_entry_of_stage {parameter : Shape} {fields : List (Datum × Datum)}
    (noLoad : ∀ f ∈ fields, Shape.placeOf true ["load"] f.1 = none) :
    Strays (Shape.entry parameter) (.record fields) ↔
      Strays (Shape.stage parameter) (.record fields) := by
  constructor
  · intro strays
    cases strays with
    | either _ second => exact second
  · intro strays
    have some : ∃ f, f ∈ fields := by
      cases strays with
      | key mem => exact ⟨_, mem⟩
      | field mem => exact ⟨_, mem⟩
    rcases some with ⟨⟨key, value⟩, mem⟩
    exact .either (.key mem (noLoad _ mem)) strays

/-! ## Decoders that refuse -/

/-- The decoder accepts nothing that strays from the shape. -/
def Refuses {α : Type} (decode : Datum → Except DecodeError α) (shape : Shape) : Prop :=
  ∀ d, Strays shape d → ∀ a, decode d ≠ .ok a

section

variable {α β : Type} {decode : Datum → Except DecodeError α} {shape : Shape}

theorem Refuses.bind (refuses : Refuses decode shape) (next : α → Except DecodeError β) :
    Refuses (fun d => decode d >>= next) shape := by
  intro d strays b ok
  rcases Except.bind_ok ok with ⟨a, decoded, _⟩
  exact refuses d strays a decoded

theorem Refuses.map (refuses : Refuses decode shape) (f : α → β) :
    Refuses (fun d => (decode d).map f) shape := by
  intro d strays b ok
  change (decode d).map f = .ok b at ok
  cases decoded : decode d with
  | error e =>
      rw [decoded] at ok
      cases ok
  | ok a => exact refuses d strays a decoded

theorem Refuses.check (refuses : Refuses decode shape) (name : String) :
    Refuses (FieldSpec.of name decode).check shape := refuses.map _

theorem Refuses.nullable (refuses : Refuses decode shape) :
    Refuses (Definition.nullable decode) shape := by
  intro d strays a ok
  have some : Definition.nullable decode d = (decode d).map Option.some := by
    cases d with
    | null => exact absurd rfl strays.ne_null
    | _ => rfl
  rw [some] at ok
  exact refuses.map Option.some d strays a ok

theorem Refuses.list (refuses : Refuses decode shape) : Refuses (asList decode) (.list shape) := by
  intro d strays as ok
  cases strays with
  | @item _ items d mem below =>
      have each : ∀ d ∈ items, ∃ a, decode d = .ok a :=
        exists_forall₂_iff.1 ⟨as, asList_ok_iff.1 ok⟩
      rcases each d mem with ⟨a, decoded⟩
      exact refuses d below a decoded
  | noList field fields => cases ok
  | tagged below => cases ok

/-- Tags that a decoder does not see do not help. -/
theorem Refuses.untagged (refuses : Refuses decode shape) :
    Refuses (fun d => decode d.untagged) shape :=
  fun d strays => refuses d.untagged strays.untagged

end

/-- A decoder of things that are neither records nor lists. -/
theorem refuses_value {α : Type} {decode : Datum → Except DecodeError α}
    (scalar : ∀ d a, decode d = .ok a → d.untagged = d ∧ d.found ≠ .list ∧ d.found ≠ .record) :
    Refuses decode .value := by
  intro d strays a ok
  rcases scalar d a ok with ⟨same, noList, noRecord⟩
  rcases strays.collection with ⟨fields, record⟩ | ⟨items, list⟩
  · rw [← same, record] at noRecord
    exact noRecord rfl
  · rw [← same, list] at noList
    exact noList rfl

theorem refuses_text (expected : String) : Refuses (asText expected) .value := by
  refine refuses_value fun d a ok => ?_
  cases d with
  | text s => exact ⟨rfl, by simp [found], by simp [found]⟩
  | _ => cases ok

theorem refuses_bool : Refuses asBool .value := by
  refine refuses_value fun d a ok => ?_
  cases d with
  | bool b => exact ⟨rfl, by simp [found], by simp [found]⟩
  | _ => cases ok

/-! ## Records -/

/-- The test of a field refuses what strays from the shape of the field. -/
def Guards (spec : FieldSpec) (shape : String × Shape) : Prop :=
  spec.name = shape.1 ∧ Refuses spec.check shape.2

section

variable {specs : List FieldSpec} {shapes : List (String × Shape)}

theorem names_of_guards (guards : List.Forall₂ Guards specs shapes) :
    specs.map (·.name) = shapes.map Prod.fst := by
  induction guards with
  | nil => rfl
  | cons first _ ih => rw [List.map_cons, List.map_cons, first.1, ih]

theorem guard_at (guards : List.Forall₂ Guards specs shapes) {i : Nat} {spec : FieldSpec}
    (place : specs[i]? = some spec) : Refuses spec.check (Shape.fieldAt shapes i) := by
  induction guards generalizing i with
  | nil => simp at place
  | cons first _ ih =>
      cases i with
      | zero =>
          cases place
          exact first.2
      | succ i => exact ih place

/-- What a record that is taken apart has not: a key without a field, or a value that strays. -/
theorem gather_refuses (guards : List.Forall₂ Guards specs shapes) {numbered : Bool}
    {read : Datum → Datum}
    (places : ∀ key i, fieldIndex (shapes.map Prod.fst) (read key) = .ok (some i) →
      Shape.placeOf numbered (shapes.map Prod.fst) key = some i)
    {fields : List (Datum × Datum)} (strays : Strays (.record numbered shapes) (.record fields))
    (got : List (Nat × Datum)) :
    gather specs true [] (fields.map fun field => (read field.1, field.2)) ≠ .ok got := by
  intro ok
  have passed := gather_ok ok
  rw [List.forall_mem_map] at passed
  cases strays with
  | key mem unknown =>
      rcases passed _ mem with ⟨i, spec, known, _, _⟩
      rw [names_of_guards guards] at known
      rw [places _ i known] at unknown
      cases unknown
  | field mem known below =>
      rcases passed _ mem with ⟨i, spec, known', place, check⟩
      rw [names_of_guards guards] at known'
      rw [places _ i known', Option.some.injEq] at known
      subst known
      exact guard_at guards place _ below () check

theorem placeOf_of_fieldIndex {names : List String} {key : Datum} {i : Nat}
    (known : fieldIndex names key = .ok (some i)) : Shape.placeOf true names key = some i := by
  cases key with
  | text s => exact Except.ok.inj known
  | int j =>
      rw [fieldIndex] at known
      split_ifs at known with negative small
      · have place : 0 ≤ j ∧ j < names.length := ⟨by omega, small⟩
        simp only [Shape.placeOf, if_true, place, and_self]
        exact Except.ok.inj known
      · cases known
  | _ => cases known

theorem placeOf_of_fieldName {names : List String} {key : Datum} {i : Nat}
    (known : fieldIndex names (fieldName key) = .ok (some i)) :
    Shape.placeOf false names key = some i := by
  have unfolded : Shape.placeOf false names key =
      match key.untagged with
      | .text name => names.idxOf? name
      | _ => none := rfl
  rw [unfolded]
  rw [fieldName] at known
  generalize key.untagged = bare at known ⊢
  cases bare with
  | text name => exact Except.ok.inj known
  | _ => cases known

theorem refuses_fieldsOf (guards : List.Forall₂ Guards specs shapes) (needed : Nat)
    (expected : String) : Refuses (fieldsOf specs needed expected) (.record true shapes) := by
  intro d strays got ok
  cases d with
  | record fields =>
      have same : (fields.map fun field => (id field.1, field.2)) = fields := List.map_id fields
      rw [fieldsOf, ← same] at ok
      exact gather_refuses guards (fun _ _ => placeOf_of_fieldIndex) strays got ok
  | list items =>
      cases strays with
      | @place _ _ _ d i item below =>
          rw [fieldsOf] at ok
          split_ifs at ok with short
          rcases gatherItems_ok ok item with ⟨spec, place, check⟩
          rw [Nat.zero_add, List.getElem?_take] at place
          split_ifs at place with inside
          exact guard_at guards place d below () check
  | _ => cases ok

end

/-! ## Parameters -/

theorem referenceOf?_eq_some {fields : List (Datum × Datum)} {param : Parameter}
    (named : Parameter.referenceOf? fields = some param) :
    (∃ key s, fields.filter (fun f => Parameter.namesField Parameter.referenceKey 0 f.1) =
      [(key, .text s)]) ∧ ∀ f ∈ fields, Shape.mayStand f.1 = true := by
  rw [Parameter.referenceOf?] at named
  split at named
  · next key s only =>
      split_ifs at named with all
      exact ⟨⟨key, s, only⟩, List.all_eq_true.1 all⟩
  · cases named

theorem refuses_parameter : Refuses Parameter.ofDatum .reference := by
  intro d strays param ok
  have known : Parameter.ofDatum? d = some param := by
    rw [Parameter.ofDatum] at ok
    split at ok
    · next p same =>
        cases ok
        exact same
    · cases ok
  cases strays with
  | @unnamed field fields others =>
      -- The one field with the name of a variable would be among the others.
      rcases referenceOf?_eq_some known with ⟨⟨key, s, only⟩, _⟩
      have mem : (key, Datum.text s) ∈ (field :: fields).filter
          (fun f => Parameter.namesField Parameter.referenceKey 0 f.1) := by
        rw [only]
        exact List.mem_singleton_self _
      have names := (List.mem_filter.1 mem).2
      rw [others _ (List.mem_filter.1 mem).1] at names
      cases names
  | @name fields key value mem names has =>
      rcases referenceOf?_eq_some known with ⟨⟨key', s, only⟩, _⟩
      have found : (key, value) ∈ fields.filter
          (fun f => Parameter.namesField Parameter.referenceKey 0 f.1) :=
        List.mem_filter.2 ⟨mem, names⟩
      rw [only, List.mem_singleton] at found
      cases found
      cases has
  | oddKey mem odd =>
      rcases referenceOf?_eq_some known with ⟨_, all⟩
      rw [all _ mem] at odd
      cases odd
  | noReference has => cases known
  | tagged below => cases known

/-- A key that does not name the variable changes nothing. -/
theorem ofDatum_ignores {front back : List (Datum × Datum)} {key value : Datum}
    (other : Parameter.namesField Parameter.referenceKey 0 key = false)
    (stands : Shape.mayStand key = true) :
    Parameter.ofDatum (.record (front ++ (key, value) :: back)) =
      Parameter.ofDatum (.record (front ++ back)) := by
  have same : Parameter.referenceOf? (front ++ (key, value) :: back) =
      Parameter.referenceOf? (front ++ back) := by
    have named : (front ++ (key, value) :: back).filter
          (fun f => Parameter.namesField Parameter.referenceKey 0 f.1) =
        (front ++ back).filter fun f => Parameter.namesField Parameter.referenceKey 0 f.1 := by
      rw [List.filter_append, List.filter_append, List.filter_cons_of_neg (by simp [other])]
    have all : ∀ test : Datum × Datum → Bool, test (key, value) = true →
        (front ++ (key, value) :: back).all test = (front ++ back).all test := by
      intro test holds
      simp [holds]
    rw [Parameter.referenceOf?, Parameter.referenceOf?, named, all _ stands]
  rw [Parameter.ofDatum, Parameter.ofDatum, Parameter.ofDatum?, Parameter.ofDatum?, same]

/-! ## Descriptions -/

theorem refuses_readInto : Refuses readInto Shape.readFile := by
  refine (refuses_fieldsOf ?_ _ _).bind _
  exact .cons ⟨rfl, (refuses_text _).check _⟩ (.cons ⟨rfl, (refuses_text _).check _⟩ .nil)

theorem guards_flag : Guards flagField ("allowFailure", .value) := ⟨rfl, refuses_bool.check _⟩

theorem refuses_command : Refuses command (Shape.command .reference) := by
  refine (refuses_fieldsOf (.cons ⟨rfl, ?_⟩ (.cons ⟨rfl, ?_⟩ (.cons ⟨rfl, ?_⟩
    (.cons guards_flag .nil)))) _ _).bind _
  · exact ((refuses_text _).map ActionDefinition.run).nullable.check _
  · exact refuses_readInto.nullable.check _
  · exact (refuses_parameter.list.map ActionDefinition.print).nullable.check _

theorem refuses_job : Refuses job (Shape.job .reference) :=
  (refuses_fieldsOf (.cons ⟨rfl, (refuses_text _).check _⟩ (.cons guards_flag
    (.cons ⟨rfl, refuses_command.list.check _⟩ .nil))) _ _).bind _

theorem refuses_stage : Refuses stage (Shape.stage .reference) :=
  (refuses_fieldsOf (.cons ⟨rfl, (refuses_text _).check _⟩ (.cons guards_flag
    (.cons ⟨rfl, refuses_job.list.check _⟩ .nil))) _ _).bind _

theorem refuses_load : Refuses load Shape.load :=
  (refuses_fieldsOf (.cons ⟨rfl, (refuses_text _).check _⟩ .nil) _ _).bind _

theorem refuses_entry : Refuses entryOf (Shape.entry .reference) := by
  intro d strays entry ok
  rcases Except.bind_ok ok with ⟨_, plain, ok⟩
  cases strays with
  | either first second =>
      -- A load is tried first, and a stage only where no load is found.
      cases loaded : load d with
      | ok path => exact refuses_load d first path loaded
      | error _ =>
          cases staged : stage d with
          | ok definition => exact refuses_stage d second definition staged
          | error _ =>
              rw [loaded, staged] at ok
              cases ok
  | tagged below => cases plain

theorem refuses_entries :
    Refuses entriesOf (.list (Shape.entry .reference)) := by
  intro d strays entries ok
  have list : entriesOf d = asList entryOf d.untagged := by
    rw [entriesOf]
    split
    · next null => exact absurd null strays.untagged.ne_null
    · rfl
  rw [list] at ok
  exact refuses_entry.list _ strays.untagged entries ok

theorem refuses_definition : Refuses ofDatum (Shape.pipeline .reference) := by
  intro d strays definition ok
  have strays := strays.untagged
  rw [ofDatum] at ok
  split at ok
  · next fields record =>
      rcases Except.bind_ok ok with ⟨got, gathered, _⟩
      rw [record] at strays
      have guards : List.Forall₂ Guards
          [.of "allowFailure" Definition.flag, .of "stages" entriesOf]
          [("allowFailure", .value),
            ("stages", .list (Shape.entry .reference))] :=
        .cons ⟨rfl, refuses_bool.untagged.check _⟩ (.cons ⟨rfl, refuses_entries.check _⟩ .nil)
      exact gather_refuses guards (fun _ _ => placeOf_of_fieldName) strays got gathered
  · next null => exact strays.ne_null null
  · cases ok

namespace Definition

/-! ## Texts -/

/-- A description in which some record has a key that it should not have is refused.  In references
such keys do no harm and no good: the parameter is the same without them. -/
theorem stray_keys_refused (text : String) (path : Path) :
    (∀ fields entry, ((Yaml.Document.ofText text).datum .full).untagged = .record fields →
      field? rootKey fields = some entry → Strays (Shape.pipeline .reference) entry →
      ∃ reason, parse text path = .error (.invalidExport path reason)) ∧
    (∀ front back key value, Parameter.namesField Parameter.referenceKey 0 key = false →
      Shape.mayStand key = true →
      Parameter.ofDatum (.record (front ++ (key, value) :: back)) =
        Parameter.ofDatum (.record (front ++ back))) := by
  refine ⟨fun fields entry top root strays => ?_, fun _ _ _ _ => ofDatum_ignores⟩
  refine invalid_of_not_ok fun definition ok => ?_
  exact refuses_definition entry strays definition (ok_of_parse top root ok)

/-- The text of a description with one command, which is written on one line. -/
def oneCommand (command : String) : String :=
  "pipelyne:\n  stages:\n    - name: s\n      jobs:\n        - name: j\n          commands:\n" ++
    "            - " ++ command ++ "\n"

/-- The datum of the description, from the datum of the command. -/
def oneCommandDatum (command : Datum) : Datum :=
  let job := .record [(.text "name", .text "j"), (.text "commands", .list [command])]
  let stage := .record [(.text "name", .text "s"), (.text "jobs", .list [job])]
  .record [(.text "stages", .list [stage])]

/-- A command that strays makes the description stray, as its stage loads no file. -/
theorem strays_oneCommand {parameter : Shape} {command : Datum}
    (strays : Strays (Shape.command parameter) command) :
    Strays (Shape.pipeline parameter) (oneCommandDatum command) := by
  refine .field (List.mem_singleton_self _) (i := 1) rfl ?_
  refine .item (List.mem_singleton_self _) ((strays_entry_of_stage ?_).2 ?_)
  · simp [Shape.placeOf]
  · refine .field (List.mem_cons_of_mem _ (List.mem_singleton_self _)) (i := 2) rfl ?_
    refine .item (List.mem_singleton_self _) ?_
    refine .field (List.mem_cons_of_mem _ (List.mem_singleton_self _)) (i := 2) rfl ?_
    exact .item (List.mem_singleton_self _) strays

/-- A flag that is misspelled. -/
theorem stray_keys_refused_misspelled :
    ∃ reason, parse (oneCommand "\x7b run: echo a, alowFailure: true \x7d") ⟨"p.yml"⟩ =
      .error (.invalidExport ⟨"p.yml"⟩ reason) := by
  let command : Datum := .record [(.text "run", .text "echo a"), (.text "alowFailure", .bool true)]
  have read : (Yaml.Document.ofText
      (oneCommand "\x7b run: echo a, alowFailure: true \x7d")).datum .full =
      .record [(.text "pipelyne", oneCommandDatum command)] := by decide +kernel
  have strays : Strays (Shape.command .reference) command :=
    .key (List.mem_cons_of_mem _ (List.mem_singleton_self _)) (by decide)
  have top := congrArg Datum.untagged read
  exact (stray_keys_refused _ ⟨"p.yml"⟩).1 _ _ top rfl (strays_oneCommand strays)

/-- In a reference, a key that is misspelled goes unnoticed, although it is no key of references. -/
theorem stray_key_ignored :
    ∃ text path fields entry definition,
      ((Yaml.Document.ofText text).datum .full).untagged = .record fields ∧
      field? rootKey fields = some entry ∧
      Strays (Shape.pipeline (.record true [("ref", .value)])) entry ∧
      parse text path = .ok definition := by
  let reference : Datum := .record [(.text "ref", .text "a"), (.text "dflt", .text "b")]
  let command : Datum := .record [(.text "print", .list [reference])]
  have read : Yaml.Document.decode fileDatum (oneCommand "print: [\x7bref: a, dflt: b\x7d]") =
      .ok (.record [(.text "pipelyne", oneCommandDatum command)]) :=
    Except.eq_ok_of_toOption (by decide +kernel)
  have strays : Strays (Shape.command (.record true [("ref", .value)])) command := by
    refine .field (List.mem_singleton_self _) (i := 2) (by decide) ?_
    refine .item (List.mem_singleton_self _) ?_
    exact .key (List.mem_cons_of_mem _ (List.mem_singleton_self _)) (by decide)
  have described : (ofDatum (oneCommandDatum command)).toOption =
      some ⟨false, [.stage ⟨"s", false, [⟨"j", false, [⟨.print [.reference "a"], false⟩]⟩]⟩]⟩ := by
    decide +kernel
  have top := congrArg Datum.untagged (eq_datum_of_read read).symm
  have decoded := (decode_of_read read rfl rfl).trans (Except.eq_ok_of_toOption described)
  exact ⟨_, ⟨"pipelyne.yml"⟩, _, _, _, top, rfl, strays_oneCommand strays,
    parse_ok_iff.2 decoded⟩

end Definition
end CiPipeline
