import CiPipeline.Command.Document
import CiPipeline.Pipeline.Error

/-!
# Basic — what a definition file says

The entry `pipelyne` of a definition file describes a pipeline: its flag, and in order its stages and
the files whose stages it takes over.

* `Definition`, `StageEntry`, `StageDefinition`, `JobDefinition`, `CommandDefinition`: the
  description;
* `Definition.ofDatum`: the description in structured data;
* `Definition.parse`: the description in a text.

The flag and the list at the top may be null or tagged and have messages of their own.  An entry of
the list is told apart by its shape, so it either fits or it does not.  Inside an entry, a list may
stand for a record, its items in the order of the fields.
-/

namespace CiPipeline

inductive ActionDefinition where
  | run (script : String)
  | readInto (path : Path) (variableName : String)
  | print (params : List Parameter)
deriving DecidableEq, Repr

structure CommandDefinition where
  action : ActionDefinition
  allowFailure : Bool
deriving DecidableEq, Repr

structure JobDefinition where
  name : String
  allowFailure : Bool
  commands : List CommandDefinition
deriving DecidableEq, Repr

structure StageDefinition where
  name : String
  allowFailure : Bool
  jobs : List JobDefinition
deriving DecidableEq, Repr

inductive StageEntry where
  /-- The stages of another file, relative to the file that names it. -/
  | load (path : Path)
  | stage (definition : StageDefinition)
deriving DecidableEq, Repr

structure Definition where
  allowFailure : Bool
  entries : List StageEntry
deriving DecidableEq, Repr

namespace Definition

open Datum

/-! ## Entries -/

/-- The fields of a record, or of a list that leaves out none of the first `needed` of them. -/
def fieldsOf (specs : List FieldSpec) (needed : Nat) (expected : String) :
    Datum → Except DecodeError (List (Nat × Datum))
  | .record fields => gather specs true [] fields
  | .list items =>
    if items.length < needed then .error (.of (.wrongLength items.length expected))
    else gatherItems (specs.take (max needed items.length)) expected 0 items
  | d => .error (d.unexpected expected)

/-- A value that may be null. -/
def nullable {α : Type} (decode : Datum → Except DecodeError α) :
    Datum → Except DecodeError (Option α)
  | .null => .ok none
  | d => (decode d).map some

def flagField : FieldSpec := .of "allowFailure" asBool

def flagIn (fields : List (Nat × Datum)) (index : Nat) : Except DecodeError Bool :=
  optional fields index false asBool

def readInto (d : Datum) : Except DecodeError ActionDefinition := do
  let fields ←
    fieldsOf [.of "path" asPathText, .of "variable" asString] 2 "struct ReadFileDefinition" d
  let path ← required fields 0 "path" asPathText
  let variableName ← required fields 1 "variable" asString
  .ok (.readInto ⟨path⟩ variableName)

def run (d : Datum) : Except DecodeError ActionDefinition := (d.asString).map .run

def print (d : Datum) : Except DecodeError ActionDefinition :=
  (d.asList Parameter.ofDatum).map .print

/-- A command has exactly one action. -/
def command (d : Datum) : Except DecodeError CommandDefinition := do
  let fields ←
    fieldsOf
      [.of "run" (nullable run), .of "readFile" (nullable readInto), .of "print" (nullable print),
        flagField]
      3 "struct RawCommandDefinition" d
  let run ← optional fields 0 none (nullable run)
  let readInto ← optional fields 1 none (nullable readInto)
  let print ← optional fields 2 none (nullable print)
  let allowFailure ← flagIn fields 3
  match [run, readInto, print].filterMap id with
  | [action] => .ok ⟨action, allowFailure⟩
  | _ => .error (.of (.noVariant "CommandDefinition"))

def job (d : Datum) : Except DecodeError JobDefinition := do
  let fields ←
    fieldsOf [.of "name" asString, flagField, .of "commands" (asList command)] 1
      "struct JobDefinition" d
  let name ← required fields 0 "name" asString
  let allowFailure ← flagIn fields 1
  let commands ← optional fields 2 [] (asList command)
  .ok ⟨name, allowFailure, commands⟩

def stage (d : Datum) : Except DecodeError StageDefinition := do
  let fields ←
    fieldsOf [.of "name" asString, flagField, .of "jobs" (asList job)] 1 "struct StageDefinition" d
  let name ← required fields 0 "name" asString
  let allowFailure ← flagIn fields 1
  let jobs ← optional fields 2 [] (asList job)
  .ok ⟨name, allowFailure, jobs⟩

def load (d : Datum) : Except DecodeError Path := do
  let fields ← fieldsOf [.of "load" asPathText] 1 "struct LoadDefinition" d
  let path ← required fields 0 "load" asPathText
  .ok ⟨path⟩

/-- An entry that fits neither shape is refused as a whole. -/
def entryOf (d : Datum) : Except DecodeError StageEntry := do
  d.checkPlain
  match load d, stage d with
  | .ok path, _ => .ok (.load path)
  | .error _, .ok definition => .ok (.stage definition)
  | .error _, .error _ => .error (.of (.noVariant "StageEntry"))

/-! ## The description -/

def entriesOf (d : Datum) : Except DecodeError (List StageEntry) :=
  match d.untagged with
  | .null => .ok []
  | d => d.asList entryOf

def flag (d : Datum) : Except DecodeError Bool := d.untagged.asBool

/-- A key as the name of a field. -/
def fieldName (key : Datum) : Datum :=
  match key.untagged with
  | .text name => .text name
  | other => .fault (other.unexpected "field identifier")

def ofFields (fields : List (Datum × Datum)) : Except DecodeError Definition := do
  let fields ←
    gather [.of "allowFailure" flag, .of "stages" entriesOf] true []
      (fields.map fun field => (fieldName field.1, field.2))
  let allowFailure ← optional fields 0 false flag
  let entries ← optional fields 1 [] entriesOf
  .ok ⟨allowFailure, entries⟩

def ofDatum (d : Datum) : Except DecodeError Definition :=
  match d.untagged with
  | .record fields => ofFields fields
  | .null => ofFields []
  | d => .error (d.unexpected "struct PipelineDefinition")

/-! ## Texts -/

/-- The key under which a file describes its pipeline. -/
def rootKey : String := "pipelyne"

/-- The description in the data of a whole file. -/
def ofFileDatum (d : Datum) : Except DecodeError Definition := do
  match d.untagged with
  | .record fields =>
    match field? rootKey fields with
    | some entry => ofDatum entry
    | none => .error (.of (.missingEntry rootKey))
  | _ => .error (.of (.missingEntry rootKey))

/-- The data of a whole file; nothing else is judged before the text is known to be well formed. -/
def fileDatum (d : Yaml.Document) : Except DecodeError Datum :=
  let datum := d.datum .full
  datum.check.map fun _ => datum

def decode (text : String) : Except DecodeError Definition := do
  ofFileDatum (← Yaml.Document.decode fileDatum text)

/-- The description in the text of the file at a path. -/
def parse (text : String) (path : Path) : Except PipelineError Definition :=
  match decode text with
  | .ok definition => .ok definition
  | .error e => .error (.invalidExport path (e.message .yaml))

end Definition
end CiPipeline
