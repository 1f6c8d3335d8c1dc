import CiPipeline.Data.Decode
import CiPipeline.Yaml.Content

/-!
# Decode — YAML documents as names and as values of several kinds

* `Document.variant`: a document that is a name out of a list;
* `Document.kinded`: a document whose kind is one of its parts.
-/

namespace CiPipeline
namespace Yaml
namespace Document

/-! ## Names -/

/-- A name given by a tag stands before nothing. -/
def emptyUnder : Node → Except DecodeError Unit
  | .scalar _ text plain =>
    if plain && (text.isEmpty || isNullWord text) then .ok ()
    else .error (.of (misfit text "null"))
  | .sequence .. => .error (.of (.wrongType .list "unit"))
  | .mapping .. => .error (.of (.wrongType .record "unit"))
  | _ => .error .malformed

def variantUnder (names : List String) (tag : Option String) (n : Node)
    (untagged : Except DecodeError Nat) : Except DecodeError Nat :=
  match localTag tag with
  | some name => do
    let i ← Variant.ofText names name
    emptyUnder n
    .ok i
  | none => untagged

/-- The place of a name in a list; the name is a scalar or a tag. -/
def variant (names : List String) (d : Document) : Except DecodeError Nat :=
  let needsTag (found : Found) : Except DecodeError Nat :=
    .error (.of (.wrongType found "a YAML tag starting with '!'"))
  match d.root with
  | some (.scalar tag text plain) =>
    variantUnder names tag (.scalar tag text plain) (Variant.ofText names text)
  | some (.sequence tag items) => variantUnder names tag (.sequence tag items) (needsTag .list)
  | some (.mapping tag entries) =>
    variantUnder names tag (.mapping tag entries) (needsTag .record)
  | _ => .error .malformed

/-! ## Kinds -/

/-- A kind is the text of a scalar, whatever it denotes; of collections only the shape counts. -/
def kindDatum : Node → Datum
  | .scalar _ text _ => .text text
  | .sequence .. => .list []
  | .mapping .. => .record []
  | _ => Datum.broken

/-- The datum of a value; under the key of the kind it is a kind. -/
def kindedValue (key : String) (d : Document) (depth : Nat) (name : Datum) (place : Place)
    (value : Node) : Bounded Datum :=
  match name with
  | .text text =>
    if text = key then do pure (kindDatum (← d.follow value))
    else d.datumAt .shape depth place value
  | _ => d.datumAt .shape depth place value

def kindedFields (key : String) (d : Document) (depth : Nat) :
    List (Node × Node) → Bounded (List (Datum × Datum))
  | [] => pure []
  | (node, value) :: rest => do
    let name ← d.datumAt .shape depth .root node
    let v ← kindedValue key d depth name (valuePlace .root node) value
    let fields ← kindedFields key d depth rest
    pure ((name, v) :: fields)

def kindedItems (d : Document) (depth : Nat) : List Node → Bounded (List Datum)
  | [] => pure []
  | kind :: rest => do
    let kind ← d.follow kind
    let ds ← itemsOf (d.datumAt .shape depth) .root 1 rest
    pure (kindDatum kind :: ds)

/-- What stands at the root instead of a record or a list. -/
def rootFound (tag : Option String) (text : String) (plain : Bool) : Except Problem Found :=
  if (localTag tag).isSome then .ok .variant else scalarFound tag text plain

/-- A record with its kind under a key, or a list with its kind in front.  Anything else is not
what is `expected`. -/
def kinded (key expected : String) (d : Document) : Except DecodeError Datum :=
  let unfit (found : Found) : Except DecodeError Datum := .error (.of (.wrongType found expected))
  match d.root with
  | none => unfit .absent
  | some (.scalar tag text plain) =>
    match rootFound tag text plain with
    | .ok found => unfit found
    | .error problem => .error (.of problem)
  | some (.sequence tag items) =>
    if (localTag tag).isSome then unfit .variant
    else .ok (.list (d.bounded (kindedItems d (depthLimit - 1) items)))
  | some (.mapping tag entries) =>
    if (localTag tag).isSome then unfit .variant
    else .ok (.record (d.bounded (kindedFields key d (depthLimit - 1) entries)))
  | some _ => .error .malformed

end Document
end Yaml
end CiPipeline
