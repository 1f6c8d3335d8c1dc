import CiPipeline.Data.Problem
import CiPipeline.Number.Literal

/-!
# Schema — what scalars denote

A plain scalar denotes nothing, a boolean, a number or a text, whichever fits first.  A quoted
scalar is a text.  A standard tag asks for one of these kinds; a tag that begins with an
exclamation mark is a name of the document's own.

* `Yaml.integer?`, `Yaml.number?`, `Yaml.plainFound`: plain scalars;
* `Yaml.scalarFound`: all scalars;
* `Yaml.localTag`: the names of a document's own tags.
-/

namespace CiPipeline
namespace Yaml

def isNullWord (text : String) : Bool :=
  text == "~" || text == "null" || text == "Null" || text == "NULL"

def boolean? (text : String) : Option Bool :=
  if text = "true" ∨ text = "True" ∨ text = "TRUE" then some true
  else if text = "false" ∨ text = "False" ∨ text = "FALSE" then some false
  else none

/-! ## Integers -/

def digit? (base : Nat) (c : Char) : Option Nat :=
  let value? : Option Nat :=
    if '0' ≤ c ∧ c ≤ '9' then some (c.toNat - '0'.toNat)
    else if 'a' ≤ c ∧ c ≤ 'f' then some (c.toNat - 'a'.toNat + 10)
    else if 'A' ≤ c ∧ c ≤ 'F' then some (c.toNat - 'A'.toNat + 10)
    else none
  value?.filter (· < base)

/-- The value of one or more digits. -/
def natural? (base : Nat) (cs : List Char) : Option Nat :=
  if cs.isEmpty then none
  else cs.foldlM (fun n c => (digit? base c).map (base * n + ·)) 0

/-- A number whose first digit is a needless zero is a text. -/
def hasLeadingZero (cs : List Char) : Bool :=
  match cs with
  | '0' :: rest => !rest.isEmpty && rest.all Char.isDigit
  | _ => false

/-- Digits without a sign, in base ten or in the base that their beginning names. -/
def unsigned? (cs : List Char) : Option Nat :=
  match cs with
  | '0' :: 'x' :: rest => natural? 16 rest
  | '0' :: 'o' :: rest => natural? 8 rest
  | '0' :: 'b' :: rest => natural? 2 rest
  | cs => if hasLeadingZero cs then none else natural? 10 cs

/-- The widest integers that are told apart from other numbers have 128 bits. -/
def fitting (i : Int) : Option Int :=
  if -(Nat.pow 2 127 : Int) ≤ i ∧ i < Nat.pow 2 128 then some i else none

def integer? (text : String) : Option Int :=
  match text.toList with
  | '-' :: rest => (unsigned? rest).bind fun n => fitting (-(n : Int))
  | '+' :: rest => (unsigned? rest).bind fun n => fitting n
  | rest => (unsigned? rest).bind fun n => fitting n

/-- Integers of at most 64 bits; the others are only described. -/
def integerFound (i : Int) : Found :=
  if -(Nat.pow 2 63 : Int) ≤ i ∧ i < Nat.pow 2 64 then .int i else .wideInt i

/-! ## Numbers -/

def unsignedText (cs : List Char) : List Char :=
  match cs with
  | '-' :: rest => rest
  | '+' :: rest => rest
  | rest => rest

def infinityWord (text : String) : Bool := text == ".inf" || text == ".Inf" || text == ".INF"

def number? (text : String) : Option Binary64 :=
  if infinityWord text || text == "+.inf" || text == "+.Inf" || text == "+.INF" then
    some (.infinity false)
  else if text == "-.inf" || text == "-.Inf" || text == "-.INF" then some (.infinity true)
  else if text == ".nan" || text == ".NaN" || text == ".NAN" then some .nan
  else
    match Numeral.read text.toList with
    | some n => if n.value.isFinite then some n.value else none
    | none => none

/-! ## Scalars -/

def plainFound (text : String) : Found :=
  if text.isEmpty || isNullWord text then .null
  else
    match boolean? text with
    | some b => .bool b
    | none =>
      match integer? text with
      | some i => integerFound i
      | none =>
        if hasLeadingZero (unsignedText text.toList) then .text text
        else
          match number? text with
          | some x => .number x
          | none => .text text

/-- The name of a tag of the document's own. -/
def localTag (tag : Option String) : Option String :=
  match tag with
  | none => none
  | some tag =>
    match tag.toList with
    | '!' :: name => some (String.ofList name)
    | _ => none

namespace StandardTag

def null : String := "tag:yaml.org,2002:null"

def bool : String := "tag:yaml.org,2002:bool"

def int : String := "tag:yaml.org,2002:int"

def float : String := "tag:yaml.org,2002:float"

end StandardTag

/-- A text that its tag does not allow. -/
def misfit (text expected : String) : Problem := .wrongValue (.text text) expected

def untaggedFound (text : String) (plain : Bool) : Found :=
  if plain then plainFound text else .text text

/-- What a scalar with its tag denotes; the document's own tags leave it as it is. -/
def scalarFound (tag : Option String) (text : String) (plain : Bool) : Except Problem Found :=
  match tag with
  | none => .ok (untaggedFound text plain)
  | some name =>
    if name = StandardTag.bool then
      match boolean? text with
      | some b => .ok (.bool b)
      | none => .error (misfit text "a boolean")
    else if name = StandardTag.int then
      match integer? text with
      | some i => .ok (integerFound i)
      | none => .error (misfit text "an integer")
    else if name = StandardTag.float then
      match number? text with
      | some x => .ok (.number x)
      | none => .error (misfit text "a float")
    else if name = StandardTag.null then
      if isNullWord text then .ok .null else .error (misfit text "null")
    else if (localTag tag).isSome then .ok (untaggedFound text plain)
    else .ok (.text text)

end Yaml
end CiPipeline
