import CiPipeline.Data.Datum

/-!
# Decode — data as values of known shape

The shapes that occur: texts, booleans, lists, records with named fields, and names out of a fixed
list.

* `Datum.asText`, `asPath`, `asBool`, `asList`: values of one shape;
* `FieldSpec`, `Datum.gather`: the fields of a record, each at most once;
* `Variant.ofText`, `Variant.ofJson`, `Variant.ofDatum`: names out of a list.
-/

namespace CiPipeline
namespace Datum

/-! ## Simple shapes -/

def asText (expected : String) : Datum → Except DecodeError String
  | text s => .ok s
  | d => .error (d.unexpected expected)

def asString (d : Datum) : Except DecodeError String := d.asText "a string"

def asPathText (d : Datum) : Except DecodeError String := d.asText "path string"

def asBool : Datum → Except DecodeError Bool
  | bool b => .ok b
  | d => .error (d.unexpected "a boolean")

def asList {α : Type} (item : Datum → Except DecodeError α) : Datum → Except DecodeError (List α)
  | list items => items.mapM item
  | d => .error (d.unexpected "a sequence")

/-! ## Records -/

/-- A field by name, with the test its value has to pass. -/
structure FieldSpec where
  name : String
  check : Datum → Except DecodeError Unit

namespace FieldSpec

def of {α : Type} (name : String) (decode : Datum → Except DecodeError α) : FieldSpec :=
  ⟨name, fun d => (decode d).map fun _ => ()⟩

end FieldSpec

/-- The place of a key among the names: keys are names or, as numbers, the places themselves. -/
def fieldIndex (names : List String) : Datum → Except DecodeError (Option Nat)
  | text s => .ok (names.idxOf? s)
  | int i =>
    if i < 0 then .error ((int i).unexpected "field identifier")
    else if i < names.length then .ok (some i.toNat)
    else .ok none
  | d => .error (d.unexpected "field identifier")

/-- The error of a key that names no field. -/
def unknownKey (names : List String) : Datum → DecodeError
  | text s => .of (.unknownField s names)
  | d => .of (.wrongValue d.found ("field index 0 <= i < " ++ toString names.length))

/-- The values of the fields of a record by their places, in the order of the record.  With
`strict`, a key that names no field is an error. -/
def gather (specs : List FieldSpec) (strict : Bool) (seen : List (Nat × Datum)) :
    List (Datum × Datum) → Except DecodeError (List (Nat × Datum))
  | [] => .ok seen
  | (key, value) :: rest => do
    match ← fieldIndex (specs.map (·.name)) key with
    | none =>
      if strict then .error (unknownKey (specs.map (·.name)) key)
      else gather specs strict seen rest
    | some i =>
      match specs[i]? with
      | none => gather specs strict seen rest
      | some spec =>
        if (seen.lookup i).isSome then .error (.of (.duplicateField spec.name))
        else
          spec.check value
          gather specs strict ((i, value) :: seen) rest

/-- The value of a field that must be present. -/
def required {α : Type} (fields : List (Nat × Datum)) (index : Nat) (name : String)
    (decode : Datum → Except DecodeError α) : Except DecodeError α :=
  match fields.lookup index with
  | some d => decode d
  | none => .error (.of (.missingField name))

/-- The value of a field that may be absent. -/
def optional {α : Type} (fields : List (Nat × Datum)) (index : Nat) (absent : α)
    (decode : Datum → Except DecodeError α) : Except DecodeError α :=
  match fields.lookup index with
  | some d => decode d
  | none => .ok absent

/-- Items counted in a message. -/
def counted (n : Nat) : String := if n = 1 then "1 element" else toString n ++ " elements"

/-- The items of a list as fields by their places. -/
def gatherItems (specs : List FieldSpec) (expected : String) (index : Nat) :
    List Datum → Except DecodeError (List (Nat × Datum))
  | [] =>
    if index < specs.length then
      .error (.of (.wrongLength index (expected ++ " with " ++ counted specs.length)))
    else .ok []
  | d :: ds =>
    match specs[index]? with
    | none =>
      .error (.of (.wrongLength (index + (ds.length + 1)) (counted index ++ " in sequence")))
    | some spec => do
      spec.check d
      let rest ← gatherItems specs expected (index + 1) ds
      .ok ((index, d) :: rest)

end Datum

/-! ## Names out of a list -/

namespace Variant

def ofText (names : List String) (s : String) : Except DecodeError Nat :=
  match names.idxOf? s with
  | some i => .ok i
  | none => .error (.of (.unknownVariant s names))

/-- A name as a datum. -/
def ofName (names : List String) (d : Datum) : Except DecodeError Nat := do
  ofText names (← d.asText "variant identifier")

def unit : Datum → Except DecodeError Unit
  | .null => .ok ()
  | d => .error (d.unexpected "unit")

/-- In a JSON text a name stands alone, or as the only key of a record without a value. -/
def ofJson (names : List String) : Datum → Except DecodeError Nat
  | .text s => ofText names s
  | .record ((key, value) :: rest) => do
    let i ← ofName names key
    unit value
    if rest.isEmpty then .ok i else .error .malformed
  | _ => .error .malformed

/-- A name inside data that is already read; a number is the place of a name. -/
def ofKey (names : List String) : Datum → Except DecodeError Nat
  | .text s => ofText names s
  | .int i =>
    if 0 ≤ i then
      if i < names.length then .ok i.toNat
      else .error (.of (.wrongValue (.int i)
        ("variant index 0 <= i < " ++ toString names.length)))
    else .error ((Datum.int i).unexpected "variant identifier")
  | d => .error (d.unexpected "variant identifier")

/-- A value that is absent or empty. -/
def unitInside : Datum → Except DecodeError Unit
  | .null => .ok ()
  | .record [] => .ok ()
  | d => .error (d.unexpected "unit")

def ofDatum (names : List String) : Datum → Except DecodeError Nat
  | .text s => ofText names s
  | .record [(key, value)] => do
    let i ← ofKey names key
    unitInside value
    .ok i
  | .record _ => .error (.of (.wrongValue .record "map with a single key"))
  | d => .error (d.unexpected "string or map")

end Variant
end CiPipeline
