import CiPipeline.Proofs.Definition.Parse
import CiPipeline.Proofs.Definition.Raw

/-!
# Wholeness — which descriptions are accepted, and what they mean

A description whose parts are records with known keys and values of the right kinds is accepted as a
whole or not at all: each command needs exactly one action, each job a name, and each entry either
nothing but the file that it loads or a name and no file.

* `RawPipeline.Means` and the others: what a description means;
* `RawPipeline.Sound`: what an accepted description obeys;
* `Decodes`: decoders that give what is meant, and nothing where nothing is meant;
* `command_decodes`, `job_decodes`, `entry_decodes`, `definition_decodes`: the decoders;
* `Definition.accepted_as_a_whole`: texts.
-/

namespace CiPipeline

open Datum Definition

/-! ## What it means -/

/-- The actions that are written and not null. -/
def RawCommand.actions (c : RawCommand) : List ActionDefinition :=
  [c.run.join.map .run, c.readFile.join.map fun file => .readInto file.1 file.2,
    c.print.join.map .print].filterMap id

def RawCommand.Means (c : RawCommand) (definition : CommandDefinition) : Prop :=
  c.actions = [definition.action] ∧ definition.allowFailure = c.allowFailure.getD false

structure RawJob.Means (j : RawJob) (definition : JobDefinition) : Prop where
  name : j.name = some definition.name
  allowFailure : definition.allowFailure = j.allowFailure.getD false
  commands : List.Forall₂ RawCommand.Means (j.commands.getD []) definition.commands

inductive RawEntry.Means : RawEntry → StageEntry → Prop
  | load (path : Path) : Means ⟨some path, none, none, none⟩ (.load path)
  | stage {name : String} {allowFailure : Option Bool} {jobs : Option (List RawJob)}
      {definitions : List JobDefinition}
      (each : List.Forall₂ RawJob.Means (jobs.getD []) definitions) :
      Means ⟨none, some name, allowFailure, jobs⟩
        (.stage ⟨name, allowFailure.getD false, definitions⟩)

structure RawPipeline.Means (p : RawPipeline) (definition : Definition) : Prop where
  allowFailure : definition.allowFailure = p.allowFailure.getD false
  entries : List.Forall₂ RawEntry.Means (p.stages.getD []) definition.entries

/-! ## What it obeys -/

/-- Nothing but a file to load, or a name and no such file. -/
def RawEntry.Fits (e : RawEntry) : Prop :=
  (e.load.isSome ∧ e.name = none ∧ e.allowFailure = none ∧ e.jobs = none) ∨
    (e.load = none ∧ e.name.isSome)

def RawPipeline.entries (p : RawPipeline) : List RawEntry := p.stages.getD []

def RawPipeline.jobs (p : RawPipeline) : List RawJob := p.entries.flatMap (·.jobs.getD [])

def RawPipeline.commands (p : RawPipeline) : List RawCommand :=
  p.jobs.flatMap (·.commands.getD [])

structure RawPipeline.Sound (p : RawPipeline) : Prop where
  entries : ∀ e ∈ p.entries, e.Fits
  jobs : ∀ j ∈ p.jobs, j.name.isSome
  commands : ∀ c ∈ p.commands, c.actions.length = 1

/-! ## Decoding -/

/-- What is written as `a` is decoded to `b` exactly where `a` means `b`. -/
def Decodes {α β : Type} (decode : Datum → Except DecodeError β) (R : α → Datum → Prop)
    (M : α → β → Prop) : Prop :=
  ∀ a d, R a d → ∀ b, decode d = .ok b ↔ M a b

section

variable {α β : Type} {decode : Datum → Except DecodeError β} {R : α → Datum → Prop}
  {M : α → β → Prop}

theorem Decodes.of_ok {g : α → β} (ok : ∀ a d, R a d → decode d = .ok (g a)) :
    Decodes decode R fun a b => b = g a := by
  intro a d written b
  rw [ok a d written, Except.ok.injEq, eq_comm]

theorem Decodes.list (decodes : Decodes decode R M) :
    Decodes (asList decode) (ListIn R) (List.Forall₂ M) := by
  rintro as _ ⟨items, rfl, written⟩ bs
  rw [asList_ok_iff]
  induction written generalizing bs with
  | nil => rw [List.forall₂_nil_left_iff, List.forall₂_nil_left_iff]
  | @cons a d as items first rest ih =>
      rw [List.forall₂_cons_left_iff, List.forall₂_cons_left_iff]
      simp only [decodes a d first, ih]

/-- The value of a key, or the value that stands for none. -/
def Given (M : α → β → Prop) (absent : β) : Option α → β → Prop
  | none, b => b = absent
  | some a, b => M a b

theorem optional_ok_iff (decodes : Decodes decode R M) {w : Option α} {x : Option Datum}
    (held : Option.Rel R w x) {got : List (Nat × Datum)} {i : Nat} (found : got.lookup i = x)
    {absent b : β} : Datum.optional got i absent decode = .ok b ↔ Given M absent w b := by
  rw [Datum.optional, found]
  cases held with
  | none => exact ⟨fun ok => (Except.ok.inj ok).symm, fun same => congrArg _ same.symm⟩
  | some written => exact decodes _ _ written b

theorem required_ok_iff (decodes : Decodes decode R M) {w : Option α} {x : Option Datum}
    (held : Option.Rel R w x) {got : List (Nat × Datum)} {i : Nat} (found : got.lookup i = x)
    {name : String} {b : β} : required got i name decode = .ok b ↔ ∃ a, w = some a ∧ M a b := by
  rw [Datum.required, found]
  cases held with
  | none => simp
  | some written => simpa using decodes _ _ written b

theorem check_ok_iff (decodes : Decodes decode R M) {w : Option α} {x : Option Datum}
    (held : Option.Rel R w x) {name : String} :
    (∀ d, x = some d → (FieldSpec.of name decode).check d = .ok ()) ↔
      ∀ a, w = some a → ∃ b, M a b := by
  cases held with
  | none => simp
  | @some a d written =>
      simp only [Option.some.injEq, forall_eq', FieldSpec.check_of_iff, decodes a d written]

/-- A value of its kind is decoded, whatever it is. -/
theorem nullable_of_written {γ : Type} {decode : Datum → Except DecodeError γ}
    {R : α → Datum → Prop} {g : α → γ} (ok : ∀ a d, R a d → decode d = .ok (g a))
    (notNull : ∀ a, ¬ R a .null) :
    Decodes (nullable decode) (NullableIn R) fun w b => b = w.map g := by
  refine Decodes.of_ok fun w d written => ?_
  cases w with
  | none =>
      cases written
      rfl
  | some a =>
      have some : nullable decode d = (decode d).map Option.some := by
        cases d with
        | null => exact absurd written (notNull a)
        | _ => rfl
      rw [some, ok a d written]
      rfl

end

theorem readInto_of_written (file : Path × String) (d : Datum) (written : ReadFileIn file d) :
    readInto d = .ok (.readInto file.1 file.2) := by
  rcases written with ⟨fields, rfl, keyed, path, target⟩ | rfl
  · have passed : ∀ spec ∈ [FieldSpec.of "path" asPathText, .of "variable" asString],
        ∀ d, field? spec.name fields = some d → spec.check d = .ok () := by
      simp [FieldSpec.of, path, target, asPathText, asString, asText, Except.map]
    rcases gather_of_keyed passed (by decide) keyed with ⟨got, ok, looked⟩
    have first := (looked 0 _ rfl).trans path
    have second := (looked 1 _ rfl).trans target
    simp only [readInto, fieldsOf, ok, bind, Except.bind, required, first, second]
    rfl
  · rfl

theorem flag_decodes : Decodes asBool FlagIn fun b b' => b' = b :=
  Decodes.of_ok fun _ _ written => by rw [written]; rfl

theorem run_decodes :
    Decodes (nullable run) (NullableIn TextIn) fun w b => b = w.map ActionDefinition.run :=
  nullable_of_written (fun _ _ written => by rw [written]; rfl) fun _ written => by cases written

theorem readFile_decodes : Decodes (nullable readInto) (NullableIn ReadFileIn)
    fun w b => b = w.map fun file => ActionDefinition.readInto file.1 file.2 :=
  nullable_of_written readInto_of_written fun _ written => by
    rcases written with ⟨_, same, _⟩ | same <;> cases same

theorem print_decodes : Decodes (nullable print) (NullableIn (ListIn ParameterIn))
    fun w b => b = w.map ActionDefinition.print := by
  refine nullable_of_written (fun params d written => ?_) fun _ written => ?_
  · have each : Decodes Parameter.ofDatum ParameterIn fun param b => b = param :=
      Decodes.of_ok fun _ _ written => (parameter_of_written written).2
    have list := (each.list params d written params).2 (List.forall₂_same.2 fun _ _ => rfl)
    rw [print, list]
    rfl
  · rcases written with ⟨_, same, _⟩
    cases same

theorem command_of_written (c : RawCommand) (d : Datum) (written : c.In d) :
    command d = match c.actions with
      | [action] => .ok ⟨action, c.allowFailure.getD false⟩
      | _ => .error (.of (.noVariant "CommandDefinition")) := by
  rcases written with ⟨fields, rfl, keyed, run, readFile, print, flag⟩
  have passed : ∀ spec ∈ [FieldSpec.of "run" (nullable Definition.run),
      .of "readFile" (nullable readInto), .of "print" (nullable Definition.print), flagField],
      ∀ d, field? spec.name fields = some d → spec.check d = .ok () := by
    simp only [List.forall_mem_cons]
    exact ⟨(check_ok_iff run_decodes run).2 fun w _ => ⟨_, rfl⟩,
      (check_ok_iff readFile_decodes readFile).2 fun w _ => ⟨_, rfl⟩,
      (check_ok_iff print_decodes print).2 fun w _ => ⟨_, rfl⟩,
      (check_ok_iff flag_decodes flag).2 fun w _ => ⟨_, rfl⟩, List.forall_mem_nil _⟩
  rcases gather_of_keyed passed (by decide) keyed with ⟨got, ok, looked⟩
  have run' : Datum.optional got 0 none (nullable Definition.run) =
      .ok (c.run.join.map .run) := by
    refine (optional_ok_iff run_decodes run (looked 0 _ rfl)).2 ?_
    cases c.run <;> rfl
  have readFile' : Datum.optional got 1 none (nullable readInto) =
      .ok (c.readFile.join.map fun file => .readInto file.1 file.2) := by
    refine (optional_ok_iff readFile_decodes readFile (looked 1 _ rfl)).2 ?_
    cases c.readFile <;> rfl
  have print' : Datum.optional got 2 none (nullable Definition.print) =
      .ok (c.print.join.map .print) := by
    refine (optional_ok_iff print_decodes print (looked 2 _ rfl)).2 ?_
    cases c.print <;> rfl
  have flag' : Definition.flagIn got 3 = .ok (c.allowFailure.getD false) := by
    refine (optional_ok_iff flag_decodes flag (looked 3 _ rfl)).2 ?_
    cases c.allowFailure <;> rfl
  simp only [command, fieldsOf, ok, bind, Except.bind, run', readFile', print', flag']
  rfl

theorem command_decodes : Decodes command RawCommand.In RawCommand.Means := by
  intro c d written definition
  rw [command_of_written c d written, RawCommand.Means]
  rcases definition with ⟨action, allowFailure⟩
  cases c.actions with
  | nil => simp
  | cons first others =>
      cases others with
      | nil =>
          simp only [Except.ok.injEq, CommandDefinition.mk.injEq, List.cons.injEq, and_true]
          tauto
      | cons second others => simp

/-! ## Jobs and stages -/

section

variable {α β γ : Type} {list : String} {inner : Datum → Except DecodeError β}
  {R : α → Datum → Prop} {M : α → β → Prop}

/-- The shape that jobs and stages have in common. -/
def named (list expected : String) (inner : Datum → Except DecodeError β)
    (build : String → Bool → List β → γ) (d : Datum) : Except DecodeError γ := do
  let fields ← fieldsOf [.of "name" asString, flagField, .of list (asList inner)] 1 expected d
  let name ← required fields 0 "name" asString
  let allowFailure ← Definition.flagIn fields 1
  let items ← Datum.optional fields 2 [] (asList inner)
  .ok (build name allowFailure items)

theorem job_eq_named : job = named "commands" "struct JobDefinition" command JobDefinition.mk := rfl

theorem stage_eq_named : stage = named "jobs" "struct StageDefinition" job StageDefinition.mk := rfl

theorem text_decodes : Decodes asString TextIn fun s b => b = s :=
  Decodes.of_ok fun _ _ written => by rw [written]; rfl

theorem given_list_iff {w : Option (List α)} {bs : List β} :
    Given (List.Forall₂ M) [] w bs ↔ List.Forall₂ M (w.getD []) bs := by
  cases w with
  | none => exact List.forall₂_nil_left_iff.symm
  | some as => exact Iff.rfl

theorem given_value_iff {w : Option α} {absent b : α} :
    Given (fun a b => b = a) absent w b ↔ b = w.getD absent := by
  cases w with
  | none => exact Iff.rfl
  | some a => exact Iff.rfl

theorem named_ok_iff (names : ["name", "allowFailure", list].Nodup) (decodes : Decodes inner R M)
    {fields : List (Datum × Datum)} (keyed : Keyed ["name", "allowFailure", list] fields)
    {name : Option String} {allowFailure : Option Bool} {items : Option (List α)}
    (written : NamedIn list R name allowFailure items fun key => field? key fields)
    {expected : String} {build : String → Bool → List β → γ} {out : γ} :
    named list expected inner build (.record fields) = .ok out ↔
      ∃ s bs, name = some s ∧ List.Forall₂ M (items.getD []) bs ∧
        out = build s (allowFailure.getD false) bs := by
  constructor
  · intro ok
    rcases Except.bind_ok ok with ⟨got, gathered, ok⟩
    have looked := looked_of_gather gathered names keyed
    rcases Except.bind_ok ok with ⟨s, nameOk, ok⟩
    rcases Except.bind_ok ok with ⟨b, flagOk, ok⟩
    rcases Except.bind_ok ok with ⟨bs, itemsOk, ok⟩
    rcases (required_ok_iff text_decodes written.name (looked 0 _ rfl)).1 nameOk with
      ⟨_, stands, rfl⟩
    have flag := given_value_iff.1
      ((optional_ok_iff flag_decodes written.allowFailure (looked 1 _ rfl)).1 flagOk)
    have each := given_list_iff.1
      ((optional_ok_iff decodes.list written.items (looked 2 _ rfl)).1 itemsOk)
    cases ok
    exact ⟨s, bs, stands, each, by rw [flag]⟩
  · rintro ⟨s, bs, stands, each, rfl⟩
    have passed : ∀ spec ∈ [FieldSpec.of "name" asString, flagField, .of list (asList inner)],
        ∀ d, field? spec.name fields = some d → spec.check d = .ok () := by
      simp only [List.forall_mem_cons]
      refine ⟨(check_ok_iff text_decodes written.name).2 fun s _ => ⟨s, rfl⟩,
        (check_ok_iff flag_decodes written.allowFailure).2 fun b _ => ⟨b, rfl⟩,
        (check_ok_iff decodes.list written.items).2 fun as same => ⟨bs, ?_⟩,
        List.forall_mem_nil _⟩
      rwa [same] at each
    rcases gather_of_keyed passed names keyed with ⟨got, gathered, looked⟩
    have nameOk : required got 0 "name" asString = .ok s :=
      (required_ok_iff text_decodes written.name (looked 0 _ rfl)).2 ⟨s, stands, rfl⟩
    have flagOk : Definition.flagIn got 1 = .ok (allowFailure.getD false) :=
      (optional_ok_iff flag_decodes written.allowFailure (looked 1 _ rfl)).2
        (given_value_iff.2 rfl)
    have itemsOk : Datum.optional got 2 [] (asList inner) = .ok bs :=
      (optional_ok_iff decodes.list written.items (looked 2 _ rfl)).2 (given_list_iff.2 each)
    simp only [named, fieldsOf, gathered, bind, Except.bind, nameOk, flagOk, itemsOk]

end

theorem job_decodes : Decodes job RawJob.In RawJob.Means := by
  rintro j _ ⟨fields, rfl, keyed, written⟩ ⟨name, allowFailure, commands⟩
  rw [job_eq_named, named_ok_iff (by decide) command_decodes keyed written]
  constructor
  · rintro ⟨s, bs, stands, each, same⟩
    cases same
    exact ⟨stands, rfl, each⟩
  · rintro ⟨stands, rfl, each⟩
    exact ⟨name, commands, stands, each, rfl⟩

/-! ## Entries -/

theorem rel_none_iff {α : Type} {R : α → Datum → Prop} {w : Option α} {x : Option Datum}
    (held : Option.Rel R w x) : x = none ↔ w = none := by
  cases held with
  | none => simp
  | some written => simp

theorem path_decodes : Decodes asPathText PathIn fun path b => b = path.text :=
  Decodes.of_ok fun _ _ written => by rw [written]; rfl

section

variable {e : RawEntry} {fields : List (Datum × Datum)}

/-- A load has no other key. -/
theorem load_ok_iff (keyed : Keyed ["load", "name", "allowFailure", "jobs"] fields)
    (file : Option.Rel PathIn e.load (field? "load" fields))
    (written : NamedIn "jobs" RawJob.In e.name e.allowFailure e.jobs fun key => field? key fields)
    {path : Path} :
    load (.record fields) = .ok path ↔ e = ⟨some path, none, none, none⟩ := by
  constructor
  · intro ok
    rcases Except.bind_ok ok with ⟨got, gathered, ok⟩
    rcases Except.bind_ok ok with ⟨text, found, ok⟩
    have name := field?_of_gather gathered (by decide : "name" ∉ ["load"])
    have flag := field?_of_gather gathered (by decide : "allowFailure" ∉ ["load"])
    have jobs := field?_of_gather gathered (by decide : "jobs" ∉ ["load"])
    have alone : Keyed ["load"] fields := keyed.restrict (by simp [name, flag, jobs])
    have looked := looked_of_gather gathered (by decide) alone
    rcases (required_ok_iff path_decodes file (looked 0 _ rfl)).1 found with ⟨path', stands, rfl⟩
    cases ok
    rcases e with ⟨load, _, _, _⟩
    simp only [RawEntry.mk.injEq]
    exact ⟨stands, (rel_none_iff written.name).1 name, (rel_none_iff written.allowFailure).1 flag,
      (rel_none_iff written.items).1 jobs⟩
  · rintro rfl
    have name := (rel_none_iff written.name).2 rfl
    have flag := (rel_none_iff written.allowFailure).2 rfl
    have jobs := (rel_none_iff written.items).2 rfl
    have alone : Keyed ["load"] fields := keyed.restrict (by simp [name, flag, jobs])
    have passed : ∀ spec ∈ [FieldSpec.of "load" asPathText],
        ∀ d, field? spec.name fields = some d → spec.check d = .ok () := by
      simp only [List.forall_mem_singleton]
      exact (check_ok_iff path_decodes file).2 fun path _ => ⟨path.text, rfl⟩
    rcases gather_of_keyed passed (by decide) alone with ⟨got, gathered, looked⟩
    have found : required got 0 "load" asPathText = .ok path.text :=
      (required_ok_iff path_decodes file (looked 0 _ rfl)).2 ⟨path, rfl, rfl⟩
    simp only [load, fieldsOf, gathered, bind, Except.bind, found]

theorem stage_ok_iff (keyed : Keyed ["load", "name", "allowFailure", "jobs"] fields)
    (file : Option.Rel PathIn e.load (field? "load" fields))
    (written : NamedIn "jobs" RawJob.In e.name e.allowFailure e.jobs fun key => field? key fields)
    {definition : StageDefinition} :
    stage (.record fields) = .ok definition ↔ e.Means (.stage definition) := by
  have alone : e.load = none → Keyed ["name", "allowFailure", "jobs"] fields := by
    intro none
    have path := (rel_none_iff file).2 none
    exact keyed.restrict (by simp [path])
  constructor
  · intro ok
    rcases Except.bind_ok ok with ⟨got, gathered, _⟩
    have path := field?_of_gather gathered (by decide : "load" ∉ ["name", "allowFailure", "jobs"])
    have none := (rel_none_iff file).1 path
    rw [stage_eq_named, named_ok_iff (by decide) job_decodes (alone none) written] at ok
    rcases ok with ⟨s, definitions, stands, each, rfl⟩
    rcases e with ⟨load, name, allowFailure, jobs⟩
    cases none
    cases stands
    exact .stage each
  · rintro (_ | each)
    rw [stage_eq_named, named_ok_iff (by decide) job_decodes (alone rfl) written]
    exact ⟨_, _, rfl, each, rfl⟩

end

theorem entryOf_of_load {d : Datum} (plain : d.checkPlain = .ok ()) {path : Path}
    (loaded : load d = .ok path) : entryOf d = .ok (.load path) := by
  simp only [entryOf, plain, loaded, bind, Except.bind]

/-- What is no load is a stage or nothing. -/
theorem entryOf_of_no_load {d : Datum} (plain : d.checkPlain = .ok ()) {e : DecodeError}
    (loaded : load d = .error e) {entry : StageEntry} :
    entryOf d = .ok entry ↔ ∃ definition, stage d = .ok definition ∧ entry = .stage definition := by
  cases staged : stage d with
  | ok definition => simp [entryOf, plain, loaded, staged, bind, Except.bind, eq_comm]
  | error e' => simp [entryOf, plain, loaded, staged, bind, Except.bind]

theorem entry_decodes : Decodes entryOf RawEntry.In RawEntry.Means := by
  rintro e _ ⟨fields, rfl, keyed, file, written⟩ entry
  have plain := plainly_entry e _ ⟨fields, rfl, keyed, file, written⟩
  cases loaded : load (.record fields) with
  | ok path =>
      rw [entryOf_of_load plain loaded, Except.ok.injEq]
      rw [load_ok_iff keyed file written] at loaded
      subst loaded
      constructor
      · rintro rfl
        exact .load path
      · rintro (_ | _)
        rfl
  | error _ =>
      rw [entryOf_of_no_load plain loaded]
      constructor
      · rintro ⟨definition, staged, rfl⟩
        exact (stage_ok_iff keyed file written).1 staged
      · intro means
        cases entry with
        | load path =>
            -- Only a load means a file, and this is none.
            cases means
            rw [(load_ok_iff keyed file written).2 rfl] at loaded
            cases loaded
        | stage definition => exact ⟨definition, (stage_ok_iff keyed file written).2 means, rfl⟩

/-! ## Descriptions -/

theorem entries_decode : Decodes entriesOf EntriesIn (List.Forall₂ RawEntry.Means) := by
  rintro entries d (written | ⟨rfl, rfl⟩) definitions
  · have list := entry_decodes.list entries d written definitions
    rcases written with ⟨items, rfl, _⟩
    exact list
  · rw [List.forall₂_nil_left_iff]
    exact ⟨fun ok => (Except.ok.inj ok).symm, fun none => none ▸ rfl⟩

theorem top_flag_decodes : Decodes Definition.flag FlagIn fun b b' => b' = b :=
  Decodes.of_ok fun _ _ written => by rw [written]; rfl

theorem definition_decodes : Decodes ofDatum RawPipeline.In RawPipeline.Means := by
  rintro p _ ⟨fields, rfl, keyed, flag, stages⟩ ⟨allowFailure, entries⟩
  have names : (fields.map fun field => (fieldName field.1, field.2)) = fields := by
    refine (List.map_congr_left fun f mem => ?_).trans (List.map_id fields)
    rcases keyed.known f mem with ⟨name, _, key⟩
    rcases f with ⟨_, value⟩
    cases key
    rfl
  change ofFields fields = _ ↔ _
  rw [ofFields, names]
  constructor
  · intro ok
    rcases Except.bind_ok ok with ⟨got, gathered, ok⟩
    have looked := looked_of_gather gathered (by decide) keyed
    rcases Except.bind_ok ok with ⟨b, flagOk, ok⟩
    rcases Except.bind_ok ok with ⟨each, stagesOk, ok⟩
    cases ok
    exact ⟨given_value_iff.1 ((optional_ok_iff top_flag_decodes flag (looked 0 _ rfl)).1 flagOk),
      given_list_iff.1 ((optional_ok_iff entries_decode stages (looked 1 _ rfl)).1 stagesOk)⟩
  · rintro ⟨rfl, each⟩
    have passed : ∀ spec ∈ [FieldSpec.of "allowFailure" Definition.flag, .of "stages" entriesOf],
        ∀ d, field? spec.name fields = some d → spec.check d = .ok () := by
      simp only [List.forall_mem_cons]
      refine ⟨(check_ok_iff top_flag_decodes flag).2 fun b _ => ⟨b, rfl⟩,
        (check_ok_iff entries_decode stages).2 fun as same => ⟨entries, ?_⟩,
        List.forall_mem_nil _⟩
      rwa [same] at each
    rcases gather_of_keyed passed (by decide) keyed with ⟨got, gathered, looked⟩
    have flagOk : Datum.optional got 0 false Definition.flag = .ok (p.allowFailure.getD false) :=
      (optional_ok_iff top_flag_decodes flag (looked 0 _ rfl)).2 (given_value_iff.2 rfl)
    have stagesOk : Datum.optional got 1 [] entriesOf = .ok entries :=
      (optional_ok_iff entries_decode stages (looked 1 _ rfl)).2 (given_list_iff.2 each)
    simp only [gathered, bind, Except.bind, flagOk, stagesOk]

/-! ## Acceptance -/

theorem RawCommand.exists_means_iff {c : RawCommand} :
    (∃ definition, c.Means definition) ↔ c.actions.length = 1 := by
  rw [List.length_eq_one_iff]
  constructor
  · rintro ⟨definition, actions, _⟩
    exact ⟨definition.action, actions⟩
  · rintro ⟨action, actions⟩
    exact ⟨⟨action, c.allowFailure.getD false⟩, actions, rfl⟩

theorem RawJob.exists_means_iff {j : RawJob} :
    (∃ definition, j.Means definition) ↔
      j.name.isSome ∧ ∀ c ∈ j.commands.getD [], c.actions.length = 1 := by
  have commands : (∃ definitions, List.Forall₂ RawCommand.Means (j.commands.getD []) definitions) ↔
      ∀ c ∈ j.commands.getD [], c.actions.length = 1 := by
    simp only [exists_forall₂_iff, RawCommand.exists_means_iff]
  rw [← commands, Option.isSome_iff_exists]
  constructor
  · rintro ⟨definition, means⟩
    exact ⟨⟨_, means.name⟩, _, means.commands⟩
  · rintro ⟨⟨name, stands⟩, definitions, each⟩
    exact ⟨⟨name, j.allowFailure.getD false, definitions⟩, stands, rfl, each⟩

theorem RawEntry.exists_means_iff {e : RawEntry} :
    (∃ entry, e.Means entry) ↔
      e.Fits ∧ ∀ j ∈ e.jobs.getD [], j.name.isSome ∧
        ∀ c ∈ j.commands.getD [], c.actions.length = 1 := by
  have jobs : (∃ definitions, List.Forall₂ RawJob.Means (e.jobs.getD []) definitions) ↔
      ∀ j ∈ e.jobs.getD [], j.name.isSome ∧ ∀ c ∈ j.commands.getD [], c.actions.length = 1 := by
    simp only [exists_forall₂_iff, RawJob.exists_means_iff]
  rw [← jobs]
  constructor
  · rintro ⟨_, path | each⟩
    · exact ⟨.inl ⟨rfl, rfl, rfl, rfl⟩, [], .nil⟩
    · exact ⟨.inr ⟨rfl, rfl⟩, _, each⟩
  · rcases e with ⟨load, name, allowFailure, jobs⟩
    rintro ⟨⟨file, rfl, rfl, rfl⟩ | ⟨none, named⟩, definitions, each⟩
    · rcases Option.isSome_iff_exists.1 file with ⟨path, stands⟩
      cases stands
      exact ⟨_, .load path⟩
    · rcases Option.isSome_iff_exists.1 named with ⟨s, stands⟩
      cases none
      cases stands
      exact ⟨_, .stage each⟩

theorem RawPipeline.exists_means_iff {p : RawPipeline} :
    (∃ definition, p.Means definition) ↔ p.Sound := by
  have entries : (∃ entries, List.Forall₂ RawEntry.Means p.entries entries) ↔
      ∀ e ∈ p.entries, e.Fits ∧ ∀ j ∈ e.jobs.getD [], j.name.isSome ∧
        ∀ c ∈ j.commands.getD [], c.actions.length = 1 := by
    simp only [exists_forall₂_iff, RawEntry.exists_means_iff]
  constructor
  · rintro ⟨definition, means⟩
    have each := entries.1 ⟨_, means.entries⟩
    have names : ∀ j ∈ p.jobs, j.name.isSome ∧ ∀ c ∈ j.commands.getD [], c.actions.length = 1 := by
      intro j mem
      rcases List.mem_flatMap.1 mem with ⟨e, inside, mem⟩
      exact (each e inside).2 j mem
    refine ⟨fun e mem => (each e mem).1, fun j mem => (names j mem).1, fun c mem => ?_⟩
    rcases List.mem_flatMap.1 mem with ⟨j, inside, mem⟩
    exact (names j inside).2 c mem
  · intro sound
    have each := entries.2 fun e mem => ⟨sound.entries e mem, fun j inside => by
      have job : j ∈ p.jobs := List.mem_flatMap.2 ⟨e, mem, inside⟩
      exact ⟨sound.jobs j job, fun c within =>
        sound.commands c (List.mem_flatMap.2 ⟨j, job, within⟩)⟩⟩
    rcases each with ⟨entries, each⟩
    exact ⟨⟨p.allowFailure.getD false, entries⟩, rfl, each⟩

namespace Definition

/-- What is accepted, and as what, is told by what is written and by nothing else in the text. -/
theorem parse_ok_iff_means {text : String} {path : Path} {file entry : Datum}
    {fields : List (Datum × Datum)} {p : RawPipeline}
    (read : Yaml.Document.decode fileDatum text = .ok file) (top : file.untagged = .record fields)
    (root : field? rootKey fields = some entry) (written : p.In entry) {definition : Definition} :
    parse text path = .ok definition ↔ p.Means definition := by
  rw [parse_ok_iff, decode_of_read read top root]
  exact definition_decodes p entry written definition

/-- Where the records of a description have known keys, and values of the right kinds, the text is
accepted exactly when every command has one action, every entry is a load or has a name, and every
job has a name; one part that does not fit refuses the whole.  The description then says in order
what is written, flags that are left out being false.  All texts in which the same is written, be it
in another order of the keys, give the same. -/
theorem accepted_as_a_whole {text : String} {path : Path} {file entry : Datum}
    {fields : List (Datum × Datum)} {p : RawPipeline}
    (read : Yaml.Document.decode fileDatum text = .ok file) (top : file.untagged = .record fields)
    (root : field? rootKey fields = some entry) (written : p.In entry) :
    ((∃ definition, parse text path = .ok definition) ↔ p.Sound) ∧
    (∀ definition, parse text path = .ok definition ↔ p.Means definition) ∧
    (¬ p.Sound → ∃ reason, parse text path = .error (.invalidExport path reason)) ∧
    (∀ text' file' fields' entry', Yaml.Document.decode fileDatum text' = .ok file' →
      file'.untagged = .record fields' → field? rootKey fields' = some entry' → p.In entry' →
      ∀ definition, parse text path = .ok definition → parse text' path = .ok definition) := by
  have means : ∀ definition, parse text path = .ok definition ↔ p.Means definition :=
    fun _ => parse_ok_iff_means read top root written
  have accepted : (∃ definition, parse text path = .ok definition) ↔ p.Sound := by
    simp only [means, RawPipeline.exists_means_iff]
  refine ⟨accepted, means, fun unsound => ?_, ?_⟩
  · exact invalid_of_not_ok fun definition ok => unsound (accepted.1 ⟨definition, ok⟩)
  · intro text' file' fields' entry' read' top' root' written' definition parsed
    exact (parse_ok_iff_means read' top' root' written').2 ((means definition).1 parsed)

/-- A load, and a stage whose keys stand in no particular order. -/
theorem accepted_as_a_whole_reordered :
    let text := "pipelyne:\n  stages:\n    - load: q.yml\n    - jobs:\n        - commands:\n" ++
      "            - \x7ballowFailure: true, run: null, print: [a]\x7d\n          name: j\n" ++
      "      name: s\n"
    Definition.parse text ⟨"p.yml"⟩ = .ok ⟨false, [.load ⟨"q.yml"⟩,
      .stage ⟨"s", false, [⟨"j", false, [⟨.print [.literal (.text "a")], true⟩]⟩]⟩]⟩ := by
  intro text
  let command : Datum := .record [(.text "allowFailure", .bool true), (.text "run", .null),
    (.text "print", .list [.text "a"])]
  let job : Datum := .record [(.text "commands", .list [command]), (.text "name", .text "j")]
  let stage : Datum := .record [(.text "jobs", .list [job]), (.text "name", .text "s")]
  let load : Datum := .record [(.text "load", .text "q.yml")]
  let entry : Datum := .record [(.text "stages", .list [load, stage])]
  have read : Yaml.Document.decode fileDatum text = .ok (.record [(.text "pipelyne", entry)]) :=
    Except.eq_ok_of_toOption (by decide +kernel)
  let c : RawCommand := ⟨some none, none, some (some [.literal (.text "a")]), some true⟩
  let j : RawJob := ⟨some "j", none, some [c]⟩
  let p : RawPipeline := ⟨none, some [⟨some ⟨"q.yml"⟩, none, none, none⟩,
    ⟨none, some "s", none, some [j]⟩]⟩
  have commandIn : c.In command :=
    ⟨_, rfl, by decide +kernel, .some rfl, .none,
      .some ⟨_, rfl, .cons rfl .nil⟩, .some rfl⟩
  have jobIn : j.In job :=
    ⟨_, rfl, by decide +kernel, .some rfl, .none, .some ⟨_, rfl, .cons commandIn .nil⟩⟩
  have written : p.In entry := by
    refine ⟨_, rfl, by decide +kernel, .none,
      .some (.inl ⟨_, rfl, .cons ?_ (.cons ?_ .nil)⟩)⟩
    · exact ⟨_, rfl, by decide +kernel, .some rfl, .none, .none, .none⟩
    · exact ⟨_, rfl, by decide +kernel, .none, .some rfl, .none,
        .some ⟨_, rfl, .cons jobIn .nil⟩⟩
  refine ((accepted_as_a_whole read rfl rfl written).2.1 _).2 ⟨rfl, .cons (.load _) (.cons ?_ .nil)⟩
  exact .stage (.cons ⟨rfl, rfl, .cons ⟨rfl, rfl⟩ .nil⟩ .nil)

end Definition
end CiPipeline
