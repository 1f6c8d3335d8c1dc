import CiPipeline.Data.Datum
import CiPipeline.Yaml.Node
import CiPipeline.Yaml.Schema

/-!
# Content — YAML documents as data

A document says a datum: its aliases are replaced by what they stand for and its scalars by what
they denote.  What does not fit stands in the datum as a fault, with the path to its place.

* `Place`: paths inside a document;
* `Mode`: what may occur in the data;
* `Document.datum`: the datum of a document;
* `Document.decode`: a whole text as a value of some type.
-/

namespace CiPipeline
namespace Yaml

/-! ## Places -/

inductive Place where
  | root
  | item (parent : Place) (index : Nat)
  | entry (parent : Place) (key : String)
  /-- The value of a key that is no scalar. -/
  | unnamed (parent : Place)
deriving DecidableEq, Repr

namespace Place

/-- The path in front of the name of an entry. -/
def stem (text : String) : Place → String
  | root => ""
  | _ => text ++ "."

def text : Place → String
  | root => "."
  | item parent index => parent.text ++ "[" ++ toString index ++ "]"
  | entry parent key => stem parent.text parent ++ key
  | unnamed parent => stem parent.text parent ++ "?"

/-- The path as messages show it; the whole document is not mentioned. -/
def shown (p : Place) : Option String := if p.text = "." then none else some p.text

def error (p : Place) (problem : Problem) : DecodeError := ⟨p.shown, problem⟩

end Place

/-! ## Data -/

/-- How data are read: what is expected, whether values may carry the document's own tags, and
whether a key may stand in a mapping only once. -/
structure Mode where
  expected : String
  tags : Bool
  uniqueKeys : Bool

namespace Mode

/-- Values that are told apart by their shape. -/
def shape : Mode := ⟨"any value", false, false⟩

/-- Values with all that YAML can say. -/
def full : Mode := ⟨"any YAML value", true, true⟩

end Mode

/-- How deep collections may stand in each other. -/
def depthLimit : Nat := 128

/-- How often aliases may be followed for each part of the document. -/
def repetitionLimit : Nat := 100

/-- Reading counts how often an alias may still be followed. -/
abbrev Bounded := StateM Nat

namespace Datum

def broken : Datum := .fault .malformed

def ofFound (place : Place) (expected : String) : Found → Datum
  | .bool b => .bool b
  | .int i => .int i
  | .number x => .number x
  | .text s => .text s
  | .wideInt i => .fault (place.error (.wrongType (.wideInt i) expected))
  | _ => .null

end Datum

/-- The words of a message about a key that stands twice. -/
def duplicateKey : Datum → String
  | .null => "with null key"
  | .bool b => "with key `" ++ toString b ++ "`"
  | .int i => "with key " ++ toString i
  | .number x => "with key " ++ NumberStyle.yamlKey.write x
  | .text s => "with key " ++ Text.quoted s
  | _ => "in YAML map"

namespace Document

/-- The node itself, or the node it stands for. -/
def follow (d : Document) (n : Node) : Bounded Node := do
  match n with
  | .alias number =>
    let left ← get
    if left = 0 then pure .fault
    else
      set (left - 1)
      pure ((d.anchoredAt number).getD .fault)
  | n => pure n

/-- Puts a tag of the document's own around a datum. -/
def withTag (mode : Mode) (place : Place) (tag : Option String) (d : Datum) : Datum :=
  match localTag tag with
  | none => d
  | some name =>
    if !mode.tags then .fault (place.error .taggedValue)
    else if name.isEmpty then Datum.broken
    else .tagged name d

def scalarDatum (mode : Mode) (place : Place) (tag : Option String) (text : String)
    (plain : Bool) : Datum :=
  match scalarFound tag text plain with
  | .ok found => withTag mode place tag (Datum.ofFound place mode.expected found)
  | .error problem => .fault (place.error problem)

def itemsOf (inner : Place → Node → Bounded Datum) (place : Place) (index : Nat) :
    List Node → Bounded (List Datum)
  | [] => pure []
  | n :: ns => do
    let d ← inner (place.item index) n
    let ds ← itemsOf inner place (index + 1) ns
    pure (d :: ds)

/-- The place of the value of a key. -/
def valuePlace (place : Place) : Node → Place
  | .scalar _ text _ => place.entry text
  | _ => place.unnamed

def fieldsOf (mode : Mode) (inner : Place → Node → Bounded Datum) (place : Place)
    (seen : List Datum) : List (Node × Node) → Bounded (List (Datum × Datum))
  | [] => pure []
  | (key, value) :: rest => do
    let k ← inner place key
    if mode.uniqueKeys && seen.any fun other => other.sameAs k then
      pure [(k, .fault (place.error (.duplicateEntry (duplicateKey k))))]
    else
      let v ← inner (valuePlace place key) value
      let fields ← fieldsOf mode inner place (k :: seen) rest
      pure ((k, v) :: fields)

/-- The datum of a node whose parts are read by `inner`, when they may be read at all. -/
def nodeDatum (mode : Mode) (inner : Option (Place → Node → Bounded Datum)) (place : Place)
    (n : Node) : Bounded Datum :=
  match n, inner with
  | .scalar tag text plain, _ => pure (scalarDatum mode place tag text plain)
  | .sequence tag items, some inner => do
    let ds ← itemsOf inner place 0 items
    pure (withTag mode place tag (.list ds))
  | .mapping tag entries, some inner => do
    let fields ← fieldsOf mode inner place [] entries
    pure (withTag mode place tag (.record fields))
  | _, _ => pure Datum.broken

/-- The datum of a node under which collections may stand to a depth. -/
def datumAt (d : Document) (mode : Mode) : Nat → Place → Node → Bounded Datum
  | 0, place, n => do nodeDatum mode none place (← d.follow n)
  | depth + 1, place, n => do nodeDatum mode (some (d.datumAt mode depth)) place (← d.follow n)

/-- The result of reading with the document's bound on following aliases. -/
def bounded {α : Type} (d : Document) (read : Bounded α) : α :=
  (read.run (repetitionLimit * d.size)).1

/-- An empty document says null. -/
def datum (d : Document) (mode : Mode) : Datum :=
  match d.root with
  | none => .null
  | some root => d.bounded (d.datumAt mode depthLimit .root root)

/-- A whole text as a value: the first document is judged before what is wrong after it. -/
def decode {α : Type} (ofDocument : Document → Except DecodeError α) (text : String) :
    Except DecodeError α := do
  let d := ofText text
  let a ← ofDocument d
  if !d.whole then .error .malformed
  else if d.followed then .error (.of .severalDocuments)
  else .ok a

end Document
end Yaml
end CiPipeline
