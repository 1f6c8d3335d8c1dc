import CiPipeline.Definition.Basic
import CiPipeline.Proofs.Data.Fields

/-!
# Raw — descriptions as they are written

Each record of a description has its own keys, any of which may be left out; what is written under
them is a value of the right kind.  The keys may stand in any order.

* `RawPipeline`, `RawEntry`, `RawJob`, `RawCommand`: what is written, key by key;
* `RawPipeline.In` and the others: the data in which it is written;
* `Plainly`: what is written has neither tags nor faults.
-/

namespace CiPipeline

open Datum Definition

/-! ## What is written -/

/-- A command as it is written.  Each key may be left out; the value of an action may be null. -/
structure RawCommand where
  run : Option (Option String)
  readFile : Option (Option (Path × String))
  print : Option (Option (List Parameter))
  allowFailure : Option Bool

structure RawJob where
  name : Option String
  allowFailure : Option Bool
  commands : Option (List RawCommand)

/-- An entry of the list of stages, with the keys of both of its kinds. -/
structure RawEntry where
  load : Option Path
  name : Option String
  allowFailure : Option Bool
  jobs : Option (List RawJob)

structure RawPipeline where
  allowFailure : Option Bool
  stages : Option (List RawEntry)

/-! ## Where it is written -/

def TextIn (s : String) (d : Datum) : Prop := d = .text s

def PathIn (path : Path) (d : Datum) : Prop := d = .text path.text

def FlagIn (b : Bool) (d : Datum) : Prop := d = .bool b

def NullableIn {α : Type} (R : α → Datum → Prop) : Option α → Datum → Prop
  | none, d => d = .null
  | some a, d => R a d

def ListIn {α : Type} (R : α → Datum → Prop) (as : List α) (d : Datum) : Prop :=
  ∃ items, d = .list items ∧ List.Forall₂ R as items

/-- A record with no other keys, and with what is said of their values. -/
def RecordIn (names : List String) (told : (String → Option Datum) → Prop) (d : Datum) : Prop :=
  ∃ fields, d = .record fields ∧ Keyed names fields ∧ told fun name => field? name fields

/-- A file and a variable, in a record or, without keys, in a list. -/
def ReadFileIn (file : Path × String) (d : Datum) : Prop :=
  RecordIn ["path", "variable"]
    (fun value => value "path" = some (.text file.1.text) ∧
      value "variable" = some (.text file.2)) d ∨
  d = .list [.text file.1.text, .text file.2]

def ParameterIn (param : Parameter) (d : Datum) : Prop := Parameter.decode d = .ok param

def RawCommand.In (c : RawCommand) : Datum → Prop :=
  RecordIn ["run", "readFile", "print", "allowFailure"] fun value =>
    Option.Rel (NullableIn TextIn) c.run (value "run") ∧
    Option.Rel (NullableIn ReadFileIn) c.readFile (value "readFile") ∧
    Option.Rel (NullableIn (ListIn ParameterIn)) c.print (value "print") ∧
    Option.Rel FlagIn c.allowFailure (value "allowFailure")

/-- The name, the flag and the list that jobs and stages have. -/
structure NamedIn {α : Type} (list : String) (R : α → Datum → Prop) (name : Option String)
    (allowFailure : Option Bool) (items : Option (List α)) (value : String → Option Datum) :
    Prop where
  name : Option.Rel TextIn name (value "name")
  allowFailure : Option.Rel FlagIn allowFailure (value "allowFailure")
  items : Option.Rel (ListIn R) items (value list)

def RawJob.In (j : RawJob) : Datum → Prop :=
  RecordIn ["name", "allowFailure", "commands"]
    (NamedIn "commands" RawCommand.In j.name j.allowFailure j.commands)

def RawEntry.In (e : RawEntry) : Datum → Prop :=
  RecordIn ["load", "name", "allowFailure", "jobs"] fun value =>
    Option.Rel PathIn e.load (value "load") ∧
    NamedIn "jobs" RawJob.In e.name e.allowFailure e.jobs value

/-- The entries in their order; a null stands for none. -/
def EntriesIn (entries : List RawEntry) (d : Datum) : Prop :=
  ListIn RawEntry.In entries d ∨ (entries = [] ∧ d = .null)

def RawPipeline.In (p : RawPipeline) : Datum → Prop :=
  RecordIn ["allowFailure", "stages"] fun value =>
    Option.Rel FlagIn p.allowFailure (value "allowFailure") ∧
    Option.Rel EntriesIn p.stages (value "stages")

/-! ## Plain data -/

theorem parameter_of_written {param : Parameter} {d : Datum} (written : ParameterIn param d) :
    d.checkPlain = .ok () ∧ Parameter.ofDatum d = .ok param := by
  rcases Except.bind_ok written with ⟨⟨⟩, plain, decoded⟩
  exact ⟨plain, decoded⟩

section

variable {α : Type} {R : α → Datum → Prop}

/-- What is written in this way has neither tags nor faults. -/
def Plainly (R : α → Datum → Prop) : Prop := ∀ a d, R a d → d.checkPlain = .ok ()

theorem Plainly.held (plainly : Plainly R) {w : Option α} {x : Option Datum}
    (held : Option.Rel R w x) : ∀ d, x = some d → d.checkPlain = .ok () := by
  rintro d rfl
  rcases held with ⟨written⟩
  exact plainly _ d written

theorem Plainly.nullable (plainly : Plainly R) : Plainly (NullableIn R) := by
  intro w d written
  cases w with
  | none =>
      cases written
      rfl
  | some a => exact plainly a d written

theorem Plainly.list (plainly : Plainly R) : Plainly (ListIn R) := by
  rintro as _ ⟨items, rfl, written⟩
  refine checkPlain_list ?_
  induction written with
  | nil => exact List.forall_mem_nil _
  | cons first _ ih => exact List.forall_mem_cons.2 ⟨plainly _ _ first, ih⟩

theorem plainly_text : Plainly TextIn := by
  rintro s _ rfl
  rfl

theorem plainly_path : Plainly PathIn := by
  rintro path _ rfl
  rfl

theorem plainly_flag : Plainly FlagIn := by
  rintro b _ rfl
  rfl

theorem plainly_readFile : Plainly ReadFileIn := by
  rintro file d (⟨fields, rfl, keyed, path, target⟩ | rfl)
  · refine keyed.checkPlain ?_
    simp [path, target, checkPlain]
  · rfl

theorem plainly_parameter : Plainly ParameterIn :=
  fun _ _ written => (parameter_of_written written).1

theorem plainly_command : Plainly RawCommand.In := by
  rintro c _ ⟨fields, rfl, keyed, run, readFile, print, flag⟩
  refine keyed.checkPlain ?_
  simp only [List.forall_mem_cons]
  exact ⟨plainly_text.nullable.held run, plainly_readFile.nullable.held readFile,
    plainly_parameter.list.nullable.held print, plainly_flag.held flag, List.forall_mem_nil _⟩

theorem NamedIn.plain (plainly : Plainly R) {list : String} {name : Option String}
    {allowFailure : Option Bool} {items : Option (List α)} {fields : List (Datum × Datum)}
    (written : NamedIn list R name allowFailure items (fun key => field? key fields)) :
    ∀ key ∈ ["name", "allowFailure", list], ∀ d, field? key fields = some d →
      d.checkPlain = .ok () := by
  simp only [List.forall_mem_cons]
  exact ⟨plainly_text.held written.name, plainly_flag.held written.allowFailure,
    plainly.list.held written.items, List.forall_mem_nil _⟩

theorem plainly_job : Plainly RawJob.In := by
  rintro j _ ⟨fields, rfl, keyed, written⟩
  exact keyed.checkPlain (written.plain plainly_command)

theorem plainly_entry : Plainly RawEntry.In := by
  rintro e _ ⟨fields, rfl, keyed, file, written⟩
  refine keyed.checkPlain ?_
  rw [List.forall_mem_cons]
  exact ⟨plainly_path.held file, written.plain plainly_job⟩

end

end CiPipeline
