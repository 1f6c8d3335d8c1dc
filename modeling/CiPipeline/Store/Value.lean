import CiPipeline.Data.Datum
import CiPipeline.Json.Writer

/-!
# Value — what a variable holds

A value is a boolean, a number or a text.

* `Value.display`: the value in printed lines and messages;
* `Value.ofDatum?`, `Value.decode`: values read from structured data;
* `Value.toTree`: values written to JSON.
-/

namespace CiPipeline

inductive Value where
  | bool (b : Bool)
  | number (x : Binary64)
  | text (s : String)
deriving DecidableEq, Repr, Inhabited

namespace Value

def display : Value → String
  | bool b => toString b
  | number x => NumberStyle.display.write x
  | text s => s

/-- The value of a datum that is a boolean, a number or a text. -/
def ofDatum? : Datum → Option Value
  | .bool b => some (bool b)
  | .int i => some (number (Binary64.ofInt i))
  | .number x => some (number x)
  | .text s => some (text s)
  | _ => none

def decode (d : Datum) : Except DecodeError Value := do
  d.checkPlain
  match ofDatum? d with
  | some v => .ok v
  | none => .error (.of (.noVariant "StoreValue"))

def toTree : Value → Json.Tree
  | bool b => .bool b
  | number x => .number x
  | text s => .string s

end Value
end CiPipeline
