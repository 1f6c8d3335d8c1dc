import CiPipeline.Number.Notation
import CiPipeline.Text.Quoted

/-!
# Problem — why a text cannot be read as a value

Reading a value from a structured text fails either because the text is not well formed or because
what it says does not fit the value.  The causes are the constructors of `Problem`; their wording
is in one place, `Problem.message`.

* `Found`: what was found where something else was expected;
* `Problem`: the causes;
* `DecodeError`: a cause together with the place inside the text, when that is known.
-/

namespace CiPipeline

/-- The two formats name absent values and numbers differently in messages. -/
inductive Dialect where
  | json
  | yaml
deriving DecidableEq, Repr

inductive Found where
  /-- Nothing at all, not even a null. -/
  | absent
  | null
  | bool (b : Bool)
  | int (i : Int)
  | wideInt (i : Int)
  | number (x : Binary64)
  | text (s : String)
  | list
  | record
  | variant
deriving DecidableEq, Repr

namespace NumberStyle

/-- Numbers in messages about YAML texts. -/
def yaml : NumberStyle := { display with pointZero := true }

/-- Numbers as the keys of YAML mappings. -/
def yamlKey : NumberStyle :=
  { json with exponentPlus := false, nan := ".nan", infinity := ".inf", negativeInfinity := "-.inf" }

end NumberStyle

namespace Found

def describe (dialect : Dialect) : Found → String
  | absent => "Option value"
  | null =>
    match dialect with
    | .json => "null"
    | .yaml => "unit value"
  | bool b => "boolean `" ++ toString b ++ "`"
  | int i => "integer `" ++ toString i ++ "`"
  | wideInt i => "integer `" ++ toString i ++ "` as " ++ (if i < 0 then "i128" else "u128")
  | number x =>
    match dialect with
    | .json => "floating point `" ++ NumberStyle.json.write x ++ "`"
    | .yaml => "floating point `" ++ NumberStyle.yaml.write x ++ "`"
  | text s => "string " ++ Text.quoted s
  | list => "sequence"
  | record => "map"
  | variant => "enum"

end Found

/-! ## Causes -/

inductive Problem where
  /-- The text is not well formed. -/
  | malformed
  | wrongType (found : Found) (expected : String)
  | wrongValue (found : Found) (expected : String)
  | wrongLength (length : Nat) (expected : String)
  | missingField (name : String)
  | unknownField (name : String) (known : List String)
  | duplicateField (name : String)
  | unknownVariant (name : String) (known : List String)
  /-- No alternative of the named type fits. -/
  | noVariant (type : String)
  /-- A key that stands twice in one mapping; `which` says which. -/
  | duplicateEntry (which : String)
  /-- A tagged value where only plain ones can be told apart. -/
  | taggedValue
  | severalDocuments
  | missingEntry (name : String)
deriving DecidableEq, Repr

namespace Problem

def ticked (name : String) : String := "`" ++ name ++ "`"

def oneOf : List String → String
  | [] => "there are no variants"
  | [a] => ticked a
  | [a, b] => ticked a ++ " or " ++ ticked b
  | names => "one of " ++ ", ".intercalate (names.map ticked)

/-- A list of fields after a word that expects them. -/
def expectedOneOf (names : List String) : String :=
  match names with
  | [] => "there are no fields"
  | _ => "expected " ++ oneOf names

def message (dialect : Dialect) : Problem → String
  | malformed => "the text is not well formed"
  | wrongType found expected => "invalid type: " ++ found.describe dialect ++ ", expected " ++ expected
  | wrongValue found expected =>
    "invalid value: " ++ found.describe dialect ++ ", expected " ++ expected
  | wrongLength length expected => "invalid length " ++ toString length ++ ", expected " ++ expected
  | missingField name => "missing field " ++ ticked name
  | unknownField name known => "unknown field " ++ ticked name ++ ", " ++ expectedOneOf known
  | duplicateField name => "duplicate field " ++ ticked name
  | unknownVariant name known => "unknown variant " ++ ticked name ++ ", expected " ++ oneOf known
  | noVariant type => "data did not match any variant of untagged enum " ++ type
  | duplicateEntry which => "duplicate entry " ++ which
  | taggedValue => "untagged and internally tagged enums do not support enum input"
  | severalDocuments =>
    "deserializing from YAML containing more than one document is not supported"
  | missingEntry name => "missing top-level " ++ ticked name ++ " entry"

end Problem

/-- A cause and, where it is known, the path to the place where it arose. -/
structure DecodeError where
  place : Option String
  problem : Problem
deriving DecidableEq, Repr

namespace DecodeError

def of (problem : Problem) : DecodeError := ⟨none, problem⟩

def malformed : DecodeError := of .malformed

/-- The same cause at a place, unless it has one. -/
def orAt (e : DecodeError) (place : Option String) : DecodeError :=
  if e.place.isSome then e else ⟨place, e.problem⟩

def message (dialect : Dialect) (e : DecodeError) : String :=
  match e.place with
  | some place => place ++ ": " ++ e.problem.message dialect
  | none => e.problem.message dialect

end DecodeError
end CiPipeline
