import CiPipeline.Command.Codec
import CiPipeline.Proofs.Data.Equality
import CiPipeline.Proofs.Data.Fields
import CiPipeline.Proofs.Json.Reading

/-!
# Codec — values, parameters and actions are read back from their JSON texts

An action is written as an object that names its kind; a parameter is an object, when it refers to a
variable, or a plain value.  Which one a text stands for is seen from its shape alone, so no text of one
is read as the other, and the order of the fields does not count.

* `Json.Tree.Reordered`: trees that differ in the order of fields;
* `Json.Tree.Rigid`: trees without another order;
* `Value.Stable`, `Parameter.Stable`, `Action.Stable`: numbers whose texts are read back;
* `Action.splitKind_middle`: the kind is found wherever it stands;
* `Action.ofFields_of_perm`: the other fields are found in any order;
* `commands_survive_serialization`: what is written is read back.
-/

namespace CiPipeline

/-! ## The order of fields -/

namespace Json.Tree

/-- The trees are the same but for the order of the fields of objects. -/
inductive Reordered : Tree → Tree → Prop
  | refl (t : Tree) : Reordered t t
  | array {items items' : List Tree} (each : List.Forall₂ Reordered items items') :
      Reordered (array items) (array items')
  | object {fields fields' reordered : List (String × Tree)}
      (names : fields'.map Prod.fst = fields.map Prod.fst)
      (each : List.Forall₂ Reordered (fields.map Prod.snd) (fields'.map Prod.snd))
      (order : fields'.Perm reordered) : Reordered (object fields) (object reordered)

/-- There is no other order. -/
def Rigid (t : Tree) : Prop := ∀ t', Reordered t t' → t' = t

theorem rigid_bool (b : Bool) : Rigid (bool b) := by
  rintro _ ⟨⟩
  rfl

theorem rigid_number (x : Binary64) : Rigid (number x) := by
  rintro _ ⟨⟩
  rfl

theorem rigid_string (s : String) : Rigid (string s) := by
  rintro _ ⟨⟩
  rfl

theorem eq_of_rigid {items items' : List Tree} (each : ∀ t ∈ items, Rigid t)
    (agree : List.Forall₂ Reordered items items') : items' = items := by
  induction agree with
  | nil => rfl
  | cons first _ ih =>
      have item := each _ (List.mem_cons_self ..) _ first
      rw [item, ih fun t mem => each t (List.mem_cons_of_mem _ mem)]

theorem rigid_array {items : List Tree} (each : ∀ t ∈ items, Rigid t) : Rigid (array items) := by
  intro t' reordered
  cases reordered with
  | refl => rfl
  | array agree => rw [eq_of_rigid each agree]

/-- Objects with rigid values differ in the order of their own fields only. -/
theorem Reordered.perm {fields : List (String × Tree)} {t : Tree}
    (each : ∀ f ∈ fields, Rigid f.2) (reordered : Reordered (Tree.object fields) t) :
    ∃ fields', t = Tree.object fields' ∧ fields'.Perm fields := by
  cases reordered with
  | refl => exact ⟨fields, rfl, .refl _⟩
  | @object _ middle fields' names agree order =>
      have values : middle.map Prod.snd = fields.map Prod.snd := by
        refine eq_of_rigid (fun t mem => ?_) agree
        rcases List.mem_map.1 mem with ⟨f, inside, rfl⟩
        exact each f inside
      have same : middle = fields := by
        rw [List.zip_of_prod names values, ← List.zip_of_prod rfl rfl]
      exact ⟨fields', rfl, (same ▸ order).symm⟩

theorem rigid_object_singleton {f : String × Tree} (value : Rigid f.2) : Rigid (object [f]) := by
  intro t' reordered
  rcases reordered.perm (List.forall_mem_singleton.2 value) with ⟨fields', rfl, order⟩
  rw [List.perm_singleton.1 order]

end Json.Tree

open Json.Tree

/-! ## Values and parameters -/

namespace Value

/-- The text of the number, if it is one, is read as this number. -/
def Stable (v : Value) : Prop := ∀ x, v = number x → Json.ReadsBack x

theorem rigid_toTree (v : Value) : Rigid v.toTree := by
  cases v with
  | bool b => exact rigid_bool b
  | number x => exact rigid_number x
  | text s => exact rigid_string s

theorem readable_toTree {v : Value} (stable : v.Stable) (n : Nat) : Readable n v.toTree := by
  cases v with
  | bool b => exact .bool b
  | number x => exact .number (stable x rfl)
  | text s => exact .string s

theorem decode_datum (v : Value) : decode v.toTree.datum = .ok v := by
  cases v with
  | bool b => rfl
  | number x => rfl
  | text s => rfl

end Value

namespace Parameter

def Stable (p : Parameter) : Prop := ∀ v, p = literal v → v.Stable

theorem rigid_toTree (p : Parameter) : Rigid p.toTree := by
  cases p with
  | reference name => exact rigid_object_singleton (rigid_string name)
  | literal value => exact value.rigid_toTree

theorem readable_toTree {p : Parameter} (stable : p.Stable) (n : Nat) :
    Readable (n + 1) p.toTree := by
  cases p with
  | reference name => exact .object (by simpa [referenceKey] using Readable.string name)
  | literal value => exact value.readable_toTree (stable value rfl) (n + 1)

/-- An object refers to a variable and everything else is a literal. -/
theorem ofDatum?_datum (p : Parameter) : ofDatum? p.toTree.datum = some p := by
  cases p with
  | reference name => rfl
  | literal value =>
      cases value with
      | bool b => rfl
      | number x => rfl
      | text s => rfl

theorem checkPlain_datum (p : Parameter) : p.toTree.datum.checkPlain = .ok () := by
  cases p with
  | reference name => rfl
  | literal value =>
      cases value with
      | bool b => rfl
      | number x => rfl
      | text s => rfl

theorem decode_datum (p : Parameter) : decode p.toTree.datum = .ok p := by
  rw [decode, checkPlain_datum]
  simp only [bind, Except.bind, ofDatum?_datum]

theorem ofDatum_datum (p : Parameter) : ofDatum p.toTree.datum = .ok p := by
  rw [ofDatum, ofDatum?_datum]

end Parameter

/-! ## Actions -/

namespace Action

open Datum

def Stable (action : Action) : Prop := ∀ params, action = print params → ∀ p ∈ params, p.Stable

/-- The fields of an action without its kind. -/
def fields : Action → List (String × Json.Tree)
  | run script program args =>
    [("script", .string script), ("program", .string program), ("args", .array (args.map .string))]
  | file operation path variableName =>
    [("operation", operation.toTree), ("path", .string path.text), ("variable", .string variableName)]
  | print params => [("params", .array (params.map Parameter.toTree))]

theorem toTree_eq (action : Action) :
    action.toTree = .object ((typeKey, .string action.name) :: action.fields) := by
  cases action with
  | run script program args => rfl
  | file operation path variableName => rfl
  | print params => rfl

theorem rigid_fields (action : Action) : ∀ f ∈ action.fields, Rigid f.2 := by
  cases action with
  | run script program args =>
      have texts : Rigid (.array (args.map .string)) := by
        refine rigid_array fun t mem => ?_
        rcases List.mem_map.1 mem with ⟨s, _, rfl⟩
        exact rigid_string s
      simp [fields, rigid_string, texts]
  | file operation path variableName => simp [fields, rigid_string, FileOperation.toTree]
  | print params =>
      have items : Rigid (.array (params.map Parameter.toTree)) := by
        refine rigid_array fun t mem => ?_
        rcases List.mem_map.1 mem with ⟨p, _, rfl⟩
        exact p.rigid_toTree
      simp [fields, items]

theorem readable_fields {action : Action} (stable : action.Stable) :
    ∀ f ∈ action.fields, Readable 2 f.2 := by
  cases action with
  | run script program args =>
      have texts : Readable 2 (.array (args.map .string)) := by
        refine .array fun t mem => ?_
        rcases List.mem_map.1 mem with ⟨s, _, rfl⟩
        exact .string s
      simp only [fields, List.forall_mem_cons]
      exact ⟨.string script, .string program, texts, List.forall_mem_nil _⟩
  | file operation path variableName =>
      simp only [fields, List.forall_mem_cons]
      exact ⟨.string operation.name, .string path.text, .string variableName, List.forall_mem_nil _⟩
  | print params =>
      have items : Readable 2 (.array (params.map Parameter.toTree)) := by
        refine .array fun t mem => ?_
        rcases List.mem_map.1 mem with ⟨p, inside, rfl⟩
        exact p.readable_toTree (stable params rfl p inside) 0
      simp only [fields, List.forall_mem_cons]
      exact ⟨items, List.forall_mem_nil _⟩

/-! ### The kind -/

/-- A field that does not name the kind, and could stand in any record. -/
def Other (f : Datum × Datum) : Prop :=
  ∃ key, f.1 = .text key ∧ key ≠ typeKey ∧ f.2.checkPlain = .ok ()

theorem splitKind_other {f : Datum × Datum} (other : Other f) (place : Option String)
    (kind : Option Nat) (rest : List (Datum × Datum)) :
    splitKind place kind (f :: rest) =
      (splitKind place kind rest).map fun split => (split.1, f :: split.2) := by
  rcases f with ⟨key, value⟩
  rcases other with ⟨name, rfl, apart, plain⟩
  rw [splitKind.eq_def]
  split
  · next same => cases same
  · next same =>
      cases same
      split
      · next same =>
          cases same
          exact absurd rfl apart
      · have key : (Datum.text name).checkPlain = .ok () := rfl
        change value.checkPlain = .ok () at plain
        simp only [bind, Except.bind, key, plain]
        cases splitKind place kind rest with
        | error e => rfl
        | ok split => rfl

theorem splitKind_others {fields : List (Datum × Datum)} (others : ∀ f ∈ fields, Other f)
    (place : Option String) (kind : Option Nat) (rest : List (Datum × Datum)) :
    splitKind place kind (fields ++ rest) =
      (splitKind place kind rest).map fun split => (split.1, fields ++ split.2) := by
  induction fields with
  | nil =>
      rw [List.nil_append]
      cases splitKind place kind rest with
      | error e => rfl
      | ok split => rfl
  | cons f fields ih =>
      rw [List.cons_append, splitKind_other (others f (List.mem_cons_self ..)),
        ih fun g mem => others g (List.mem_cons_of_mem _ mem)]
      cases splitKind place kind rest with
      | error e => rfl
      | ok split => rfl

/-- The kind is found wherever it stands, and the other fields keep their order. -/
theorem splitKind_middle {before after : List (Datum × Datum)} (first : ∀ f ∈ before, Other f)
    (last : ∀ f ∈ after, Other f) {name : String} {kind : Nat} (known : kinds.idxOf? name = some kind)
    (place : Option String) :
    splitKind place none (before ++ (.text typeKey, .text name) :: after) =
      .ok (kind, before ++ after) := by
  have found : splitKind place none ((.text typeKey, .text name) :: after) = .ok (kind, after) := by
    have behind := splitKind_others last place (some kind) []
    have decoded : Variant.ofName kinds (.text name) = .ok kind := by
      simp only [Variant.ofName, asText, bind, Except.bind, Variant.ofText, known]
    rw [List.append_nil] at behind
    change (atPlace place (Variant.ofName kinds (.text name)) >>= fun kind =>
      splitKind place (some kind) after) = _
    rw [decoded]
    change splitKind place (some kind) after = _
    rw [behind]
    simp [splitKind, Except.map]
  rw [splitKind_others first, found]
  rfl

/-! ### The other fields -/

/-- The place of the kind among the kinds. -/
def place : Action → Nat
  | run .. => 0
  | file .. => 1
  | print _ => 2

theorem idxOf?_name (action : Action) : kinds.idxOf? action.name = some action.place := by
  cases action with
  | run script program args => rfl
  | file operation path variableName => rfl
  | print params => rfl

/-- The fields of an action as data. -/
def data (action : Action) : List (Datum × Datum) := action.fields.map fieldDatum

theorem asList_texts (texts : List String) :
    asList asString (Json.Tree.array (texts.map .string)).datum = .ok texts := by
  rw [Json.Tree.datum, itemData_eq, List.map_map, asList_ok_iff, List.forall₂_map_left_iff]
  exact List.forall₂_same.2 fun _ _ => rfl

theorem asList_params (params : List Parameter) :
    asList Parameter.ofDatum (Json.Tree.array (params.map Parameter.toTree)).datum = .ok params := by
  rw [Json.Tree.datum, itemData_eq, List.map_map, asList_ok_iff, List.forall₂_map_left_iff]
  exact List.forall₂_same.2 fun p _ => p.ofDatum_datum

theorem ofDatum_operation (operation : FileOperation) :
    FileOperation.ofDatum (.text operation.name) = .ok operation := by
  cases operation with
  | read => rfl
  | write => rfl

theorem checkPlain_array {items : List Json.Tree} (each : ∀ t ∈ items, t.datum.checkPlain = .ok ()) :
    (Json.Tree.array items).datum.checkPlain = .ok () := by
  rw [Json.Tree.datum, itemData_eq]
  refine checkPlain_list fun d mem => ?_
  rcases List.mem_map.1 mem with ⟨t, inside, rfl⟩
  exact each t inside

theorem other_of_mem_data (action : Action) : ∀ f ∈ action.data, Other f := by
  have field : ∀ {name : String} {t : Json.Tree}, name ≠ typeKey → t.datum.checkPlain = .ok () →
      Other (fieldDatum (name, t)) := fun apart plain => ⟨_, rfl, apart, plain⟩
  cases action with
  | run script program args =>
      have texts : (Json.Tree.array (args.map .string)).datum.checkPlain = .ok () := by
        refine checkPlain_array fun t mem => ?_
        rcases List.mem_map.1 mem with ⟨s, _, rfl⟩
        rfl
      simp only [data, fields, List.map_cons, List.map_nil, List.forall_mem_cons]
      exact ⟨field (by decide) rfl, field (by decide) rfl, field (by decide) texts,
        List.forall_mem_nil _⟩
  | file operation path variableName =>
      simp only [data, fields, List.map_cons, List.map_nil, List.forall_mem_cons]
      exact ⟨field (by decide) rfl, field (by decide) rfl, field (by decide) rfl,
        List.forall_mem_nil _⟩
  | print params =>
      have items : (Json.Tree.array (params.map Parameter.toTree)).datum.checkPlain = .ok () := by
        refine checkPlain_array fun t mem => ?_
        rcases List.mem_map.1 mem with ⟨p, _, rfl⟩
        exact p.checkPlain_datum
      simp only [data, fields, List.map_cons, List.map_nil, List.forall_mem_cons]
      exact ⟨field (by decide) items, List.forall_mem_nil _⟩

theorem keyed_data (action : Action) :
    Keyed ((fieldsOf action.place).map (·.name)) action.data := by
  cases action with
  | run script program args =>
      refine ⟨?_, ?_⟩
      · simp [data, fields, fieldsOf, runFields, FieldSpec.of, fieldDatum, place]
      · simp [data, fields, fieldDatum]
  | file operation path variableName =>
      refine ⟨?_, ?_⟩
      · simp [data, fields, fieldsOf, fileFields, FieldSpec.of, fieldDatum, place]
      · simp [data, fields, fieldDatum]
  | print params =>
      refine ⟨?_, ?_⟩
      · simp [data, fields, fieldsOf, printFields, FieldSpec.of, fieldDatum, place]
      · simp [data, fields, fieldDatum]

/-- A field passes its test when its value is read. -/
theorem passed_of_reads {α : Type} {name : String} {read : Datum → Except DecodeError α}
    {fields : List (Datum × Datum)} {value : Datum} {a : α} (found : field? name fields = some value)
    (reads : read value = .ok a) :
    ∀ d, field? (FieldSpec.of name read).name fields = some d →
      (FieldSpec.of name read).check d = .ok () := by
  intro d here
  change field? name fields = some d at here
  rw [found] at here
  cases here
  exact FieldSpec.check_of_iff.2 ⟨a, reads⟩

/-- Each field passes its test. -/
theorem passed_data (action : Action) : ∀ spec ∈ fieldsOf action.place, ∀ d,
    field? spec.name action.data = some d → spec.check d = .ok () := by
  cases action with
  | run script program args =>
      exact List.forall_mem_cons.2 ⟨passed_of_reads rfl rfl, List.forall_mem_cons.2
        ⟨passed_of_reads rfl rfl, List.forall_mem_cons.2
          ⟨passed_of_reads rfl (asList_texts args), List.forall_mem_nil _⟩⟩⟩
  | file operation path variableName =>
      exact List.forall_mem_cons.2 ⟨passed_of_reads rfl (ofDatum_operation operation),
        List.forall_mem_cons.2 ⟨passed_of_reads rfl rfl, List.forall_mem_cons.2
          ⟨passed_of_reads rfl rfl, List.forall_mem_nil _⟩⟩⟩
  | print params =>
      exact List.forall_mem_cons.2 ⟨passed_of_reads rfl (asList_params params),
        List.forall_mem_nil _⟩

/-- The values of the fields make up the action. -/
theorem ofGathered_data (action : Action) {got : List (Nat × Datum)}
    (looked : Looked (fieldsOf action.place) action.data got) :
    ofGathered action.place got = .ok action := by
  cases action with
  | run script program args =>
      have first : got.lookup 0 = some (.text script) := looked 0 _ rfl
      have second : got.lookup 1 = some (.text program) := looked 1 _ rfl
      have third : got.lookup 2 = some (Json.Tree.array (args.map .string)).datum := looked 2 _ rfl
      simp only [place, ofGathered, required, first, second, third, asList_texts]
      rfl
  | file operation path variableName =>
      have first : got.lookup 0 = some (.text operation.name) := looked 0 _ rfl
      have second : got.lookup 1 = some (.text path.text) := looked 1 _ rfl
      have third : got.lookup 2 = some (.text variableName) := looked 2 _ rfl
      simp only [place, ofGathered, required, first, second, third, ofDatum_operation]
      rfl
  | print params =>
      have first : got.lookup 0 = some (Json.Tree.array (params.map Parameter.toTree)).datum :=
        looked 0 _ rfl
      simp only [place, ofGathered, required, first, asList_params]
      rfl

/-- The fields are found in any order. -/
theorem ofFields_of_perm (action : Action) {fields : List (Datum × Datum)}
    (order : fields.Perm action.data) : ofFields action.place fields = .ok action := by
  have names : ((fieldsOf action.place).map (·.name)).Nodup := by
    cases action with
    | run script program args => exact (by decide : (runFields.map (·.name)).Nodup)
    | file operation path variableName => exact (by decide : (fileFields.map (·.name)).Nodup)
    | print params => exact (by decide : (printFields.map (·.name)).Nodup)
  have same := fun name => action.keyed_data.field?_perm order.symm name
  have passed : ∀ spec ∈ fieldsOf action.place, ∀ d,
      field? spec.name fields = some d → spec.check d = .ok () := by
    intro spec inside d found
    rw [same] at found
    exact action.passed_data spec inside d found
  rcases gather_of_keyed passed names (action.keyed_data.perm order.symm) with ⟨got, ok, looked⟩
  have looked' : Looked (fieldsOf action.place) action.data got := by
    intro i spec place
    rw [looked i spec place, same]
  simp only [ofFields, ok, bind, Except.bind, action.ofGathered_data looked']

/-- The kind and the other fields are found in any order. -/
theorem ofTagged_of_perm (action : Action) {fields : List (String × Json.Tree)}
    (order : fields.Perm ((typeKey, .string action.name) :: action.fields))
    (fieldPlace itemPlace : Option String) :
    ofTagged fieldPlace itemPlace (Json.Tree.object fields).datum = .ok action := by
  have kind : (typeKey, Json.Tree.string action.name) ∈ fields := order.mem_iff.2 (List.mem_cons_self ..)
  rcases List.append_of_mem kind with ⟨before, after, rfl⟩
  have others : (before ++ after).Perm action.fields :=
    (List.perm_cons _).1 (List.perm_middle.symm.trans order)
  have data : (before.map fieldDatum ++ after.map fieldDatum).Perm action.data := by
    rw [← List.map_append]
    exact others.map fieldDatum
  have other : ∀ f ∈ before.map fieldDatum ++ after.map fieldDatum, Other f :=
    fun f mem => action.other_of_mem_data f (data.mem_iff.1 mem)
  have split := splitKind_middle (fun f mem => other f (List.mem_append_left _ mem))
    (fun f mem => other f (List.mem_append_right _ mem)) action.idxOf?_name fieldPlace
  rw [Json.Tree.datum, fieldData_eq, List.map_append, List.map_cons, ofTagged]
  simp only [bind, Except.bind, fieldDatum_eq, Json.Tree.datum, split, action.ofFields_of_perm data]

end Action

/-- Values, parameters and actions are read back from their texts, whatever the order of the fields of
objects, as long as the texts of their numbers are read back.  The object of an action names its kind. -/
theorem commands_survive_serialization :
    (∀ v : Value, v.Stable → ∀ t, v.toTree.Reordered t → Json.decode Value.decode t.compact = .ok v) ∧
    (∀ p : Parameter, p.Stable → ∀ t, p.toTree.Reordered t →
      Json.decode Parameter.decode t.compact = .ok p) ∧
    (∀ action : Action, action.Stable → ∀ t, action.toTree.Reordered t →
      Json.decode (Action.ofTagged none none) t.compact = .ok action ∧
        ∃ fields, t = .object fields ∧ (Action.typeKey, .string action.name) ∈ fields) := by
  refine ⟨?_, ?_, ?_⟩
  · intro v stable t reordered
    rw [v.rigid_toTree t reordered, Json.decode_compact _ (v.readable_toTree stable 0) (Nat.zero_le _)]
    exact v.decode_datum
  · intro p stable t reordered
    rw [p.rigid_toTree t reordered, Json.decode_compact _ (p.readable_toTree stable 0) (by decide)]
    exact p.decode_datum
  · intro action stable t reordered
    rw [action.toTree_eq] at reordered
    have rigid : ∀ f ∈ (Action.typeKey, Json.Tree.string action.name) :: action.fields, Rigid f.2 :=
      List.forall_mem_cons.2 ⟨rigid_string _, action.rigid_fields⟩
    rcases reordered.perm rigid with ⟨fields, rfl, order⟩
    have readable : Readable 3 (.object fields) := by
      refine .object fun f mem => ?_
      rcases List.mem_cons.1 (order.mem_iff.1 mem) with rfl | inside
      · exact .string action.name
      · exact Action.readable_fields stable f inside
    refine ⟨?_, fields, rfl, order.mem_iff.2 (List.mem_cons_self ..)⟩
    rw [Json.decode_compact _ readable (by decide)]
    exact action.ofTagged_of_perm order none none

/-- Minus one half. -/
def Binary64.minusHalf : Binary64 := ofParts true 0x3FE0000000000000

theorem Binary64.readsBack_minusHalf : Json.ReadsBack minusHalf :=
  ⟨by decide, by decide +kernel⟩

/-- Literals that look like something else, a reference and a number, written with the kind at the end. -/
theorem commands_survive_serialization_print :
    let params : List Parameter :=
      [.literal (.text "true"), .literal (.text "\x7b\"ref\":\"v\"\x7d"), .reference "v",
        .literal (.number .minusHalf), .literal (.bool true)]
    let action := Action.print params
    let t : Json.Tree :=
      .object [("params", .array (params.map Parameter.toTree)), ("type", .string "print")]
    action.Stable ∧ action.toTree.Reordered t ∧
      t.compact = "\x7b\"params\":[\"true\",\"\x7b\\\"ref\\\":\\\"v\\\"\x7d\",\x7b\"ref\":\"v\"\x7d,-0.5,true]," ++
        "\"type\":\"print\"\x7d" ∧
      Json.decode (Action.ofTagged none none) t.compact = .ok action := by
  intro params action t
  have stable : action.Stable := by
    intro params' same p mem v literal x number
    rw [← Action.print.inj same, literal, number] at mem
    have half : x = .minusHalf := by simpa [params] using mem
    rw [half]
    exact Binary64.readsBack_minusHalf
  have reordered : action.toTree.Reordered t :=
    .object rfl (List.forall₂_same.2 fun u _ => .refl u) (.swap _ _ [])
  have read := (commands_survive_serialization.2.2 action stable t reordered).1
  exact ⟨stable, reordered, by decide +kernel, read⟩

end CiPipeline
