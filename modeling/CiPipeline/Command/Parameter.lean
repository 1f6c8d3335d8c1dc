import CiPipeline.Store.Basic

/-!
# Parameter — what a print command prints

A parameter is a literal value or a reference to a variable, which is looked up when the command
runs.

* `Parameter.resolve`: the value of a parameter in a store;
* `Parameter.decode`, `Parameter.toTree`: parameters in structured texts.
-/

namespace CiPipeline

inductive Parameter where
  | reference (name : String)
  | literal (value : Value)
deriving DecidableEq, Repr, Inhabited

namespace Parameter

def resolve (p : Parameter) (store : Store) : Option Value :=
  match p with
  | reference name => store.get? name
  | literal value => some value

def display : Parameter → String
  | reference name => "$\x7b" ++ name ++ "\x7d"
  | literal value => value.display

/-- The key under which a reference names its variable. -/
def referenceKey : String := "ref"

/-- Whether a key denotes the field at `index` of a list of fields, by its name or by the index. -/
def namesField (name : String) (index : Nat) : Datum → Bool
  | .text key => key == name
  | .int i => i == (index : Int)
  | _ => false

/-- A record that names its variable exactly once; other fields do not count. -/
def referenceOf? (fields : List (Datum × Datum)) : Option Parameter :=
  match fields.filter fun field => namesField referenceKey 0 field.1 with
  | [(_, .text name)] =>
    if fields.all fun field => match field.1 with
      | .text _ => true
      | .int i => 0 ≤ i
      | _ => false
    then some (reference name) else none
  | _ => none

def ofDatum? (d : Datum) : Option Parameter :=
  match d with
  | .record fields => referenceOf? fields
  | d => (Value.ofDatum? d).map literal

def decode (d : Datum) : Except DecodeError Parameter := do
  d.checkPlain
  match ofDatum? d with
  | some p => .ok p
  | none => .error (.of (.noVariant "PrintParam"))

def toTree : Parameter → Json.Tree
  | reference name => .object [(referenceKey, .string name)]
  | literal value => value.toTree

end Parameter
end CiPipeline
