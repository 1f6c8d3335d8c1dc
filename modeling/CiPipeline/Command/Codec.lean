import CiPipeline.Command.Action
import CiPipeline.Data.Decode
import CiPipeline.State

/-!
# Codec — actions, states and file operations in structured texts

An action is a record whose field `type` tells its kind; it may also be a list that begins with the
kind.  Fields that no kind knows are ignored.

* `Action.ofTagged`: an action read from a datum;
* `Action.toTree`: an action written to JSON;
* `State.ofIndex`, `FileOperation.ofIndex`: the value with a given place among the names.
-/

namespace CiPipeline

namespace State

def names : List String := all.map name

def ofIndex (i : Nat) : State := all[i]?.getD unstarted

def toTree (s : State) : Json.Tree := .string s.name

end State

namespace FileOperation

def names : List String := all.map name

def ofIndex (i : Nat) : FileOperation := all[i]?.getD read

def ofDatum (d : Datum) : Except DecodeError FileOperation :=
  (Variant.ofDatum names d).map ofIndex

def toTree (operation : FileOperation) : Json.Tree := .string operation.name

end FileOperation

namespace Parameter

/-- A parameter inside data that is already read. -/
def ofDatum (d : Datum) : Except DecodeError Parameter :=
  match ofDatum? d with
  | some p => .ok p
  | none => .error (.of (.noVariant "PrintParam"))

end Parameter

namespace Action

open Datum

def typeKey : String := "type"

def kinds : List String := ["run", "file", "print"]

/-! ## Reading -/

def runFields : List FieldSpec :=
  [.of "script" asString, .of "program" asString, .of "args" (asList asString)]

def fileFields : List FieldSpec :=
  [.of "operation" FileOperation.ofDatum, .of "path" asPathText, .of "variable" asString]

def printFields : List FieldSpec := [.of "params" (asList Parameter.ofDatum)]

def fieldsOf (kind : Nat) : List FieldSpec :=
  match kind with
  | 0 => runFields
  | 1 => fileFields
  | _ => printFields

/-- The action of a kind with the values of its fields. -/
def ofGathered (kind : Nat) (fields : List (Nat × Datum)) : Except DecodeError Action :=
  match kind with
  | 0 => do
    let script ← required fields 0 "script" asString
    let program ← required fields 1 "program" asString
    let args ← required fields 2 "args" (asList asString)
    .ok (run script program args)
  | 1 => do
    let operation ← required fields 0 "operation" FileOperation.ofDatum
    let path ← required fields 1 "path" asPathText
    let variableName ← required fields 2 "variable" asString
    .ok (file operation ⟨path⟩ variableName)
  | _ => do
    let params ← required fields 0 "params" (asList Parameter.ofDatum)
    .ok (print params)

def ofFields (kind : Nat) (fields : List (Datum × Datum)) : Except DecodeError Action := do
  ofGathered kind (← gather (fieldsOf kind) false [] fields)

/-- The name of a kind inside messages about lists that are too short. -/
def shapeName (kind : Nat) : String :=
  "struct variant CommandKind::" ++ (["Run", "File", "Print"][kind]?.getD "")

def ofItems (kind : Nat) (items : List Datum) : Except DecodeError Action := do
  ofGathered kind (← gatherItems (fieldsOf kind) (shapeName kind) 0 items)

/-- Moves an error to a place in the text, unless it has a place. -/
def atPlace {α : Type} (place : Option String) : Except DecodeError α → Except DecodeError α
  | .ok a => .ok a
  | .error e => .error (e.orAt place)

/-- Takes the kind out of the fields of a record. -/
def splitKind (place : Option String) (kind : Option Nat) :
    List (Datum × Datum) → Except DecodeError (Nat × List (Datum × Datum))
  | [] =>
    match kind with
    | some kind => .ok (kind, [])
    | none => .error (.of (.missingField typeKey))
  | (key, value) :: rest =>
    match key with
    | .text "type" =>
      if kind.isSome then .error (.of (.duplicateField typeKey))
      else do
        let kind ← atPlace place (Variant.ofName kinds value)
        splitKind place (some kind) rest
    | key => do
      key.checkPlain
      value.checkPlain
      let (kind, fields) ← splitKind place kind rest
      .ok (kind, (key, value) :: fields)

/-- An action; errors of its kind are placed at `fieldPlace` in a record and at `itemPlace` in a
list. -/
def ofTagged (fieldPlace itemPlace : Option String) : Datum → Except DecodeError Action
  | .record fields => do
    let (kind, fields) ← splitKind fieldPlace none fields
    ofFields kind fields
  | .list [] => .error (.of (.missingField typeKey))
  | .list (kind :: items) => do
    let kind ← atPlace itemPlace (Variant.ofName kinds kind)
    checkPlainItems items
    ofItems kind items
  | d => .error (d.unexpected "internally tagged enum CommandKind")

/-! ## Writing -/

def toTree : Action → Json.Tree
  | run script program args =>
    .object [(typeKey, .string "run"), ("script", .string script), ("program", .string program),
      ("args", .array (args.map .string))]
  | file operation path variableName =>
    .object [(typeKey, .string "file"), ("operation", operation.toTree),
      ("path", .string path.text), ("variable", .string variableName)]
  | print params =>
    .object [(typeKey, .string "print"), ("params", .array (params.map Parameter.toTree))]

end Action
end CiPipeline
