import CiPipeline.Data.Problem

/-!
# Datum — structured data without a meaning

The readers of JSON and YAML texts both produce a `Datum`; the types of the pipeline are decoded
from it.  A text that is only well formed up to a point still has a datum: where it breaks off
stands a `fault`, so that a decoder meets the problems of a text in the order of the text.

* `Datum`: null, booleans, integers, numbers, texts, lists, records, tagged values, faults;
* `Datum.check`: the first fault of a datum;
* `Datum.untagged`: the datum under its tags;
* `Datum.sameAs`: equality as the key of a record.
-/

namespace CiPipeline

inductive Datum where
  | null
  | bool (b : Bool)
  | int (i : Int)
  | number (x : Binary64)
  | text (s : String)
  | list (items : List Datum)
  | record (fields : List (Datum × Datum))
  | tagged (tag : String) (value : Datum)
  | fault (e : DecodeError)
deriving Inhabited

namespace Datum

/-! ## Faults -/

mutual

/-- The first fault of the datum. -/
def check : Datum → Except DecodeError Unit
  | list items => checkItems items
  | record fields => checkFields fields
  | tagged _ value => value.check
  | fault e => .error e
  | _ => .ok ()

def checkItems : List Datum → Except DecodeError Unit
  | [] => .ok ()
  | d :: ds => do d.check; checkItems ds

def checkFields : List (Datum × Datum) → Except DecodeError Unit
  | [] => .ok ()
  | f :: fs => do checkField f; checkFields fs

def checkField : Datum × Datum → Except DecodeError Unit
  | (key, value) => do key.check; value.check

end

mutual

/-- The first fault or tagged value of the datum: values whose alternatives are told apart by
their shape cannot carry tags. -/
def checkPlain : Datum → Except DecodeError Unit
  | list items => checkPlainItems items
  | record fields => checkPlainFields fields
  | tagged _ _ => .error (.of .taggedValue)
  | fault e => .error e
  | _ => .ok ()

def checkPlainItems : List Datum → Except DecodeError Unit
  | [] => .ok ()
  | d :: ds => do d.checkPlain; checkPlainItems ds

def checkPlainFields : List (Datum × Datum) → Except DecodeError Unit
  | [] => .ok ()
  | f :: fs => do checkPlainField f; checkPlainFields fs

def checkPlainField : Datum × Datum → Except DecodeError Unit
  | (key, value) => do key.checkPlain; value.checkPlain

end

def untagged : Datum → Datum
  | tagged _ value => value.untagged
  | d => d

/-! ## Description -/

def found : Datum → Found
  | null => .null
  | bool b => .bool b
  | int i => .int i
  | number x => .number x
  | text s => .text s
  | list _ => .list
  | record _ => .record
  | tagged _ _ => .variant
  | fault _ => .null

/-- The error of a datum that is not what was expected; a fault is its own error. -/
def unexpected (d : Datum) (expected : String) : DecodeError :=
  match d with
  | fault e => e
  | _ => .of (.wrongType d.found expected)

/-! ## Keys -/

/-- Numbers are the same key when they compare equal or are both no number. -/
def sameNumber (x y : Binary64) : Bool :=
  x == y || (x.isNaN && y.isNaN) || (x.isZero && y.isZero)

mutual

/-- Equality of keys; the order of the fields of a record does not count. -/
def sameAs : Datum → Datum → Bool
  | null, null => true
  | bool a, bool b => a == b
  | int a, int b => a == b
  | number a, number b => sameNumber a b
  | text a, text b => a == b
  | list as, list bs => sameItems as bs
  | record as, record bs => as.length == bs.length && sameFields as bs
  | tagged s a, tagged t b => s == t && sameAs a b
  | _, _ => false

def sameItems : List Datum → List Datum → Bool
  | [], [] => true
  | a :: as, b :: bs => sameAs a b && sameItems as bs
  | _, _ => false

/-- Whether each field of the first record stands in the second one too. -/
def sameFields : List (Datum × Datum) → List (Datum × Datum) → Bool
  | [], _ => true
  | f :: fs, bs => bs.any (sameField f) && sameFields fs bs

def sameField : Datum × Datum → Datum × Datum → Bool
  | (key, value), other => sameAs key other.1 && sameAs value other.2

end

/-- The value of the first field with the given text as key. -/
def field? (name : String) : List (Datum × Datum) → Option Datum
  | [] => none
  | (text key, value) :: rest => if key = name then some value else field? name rest
  | _ :: rest => field? name rest

end Datum
end CiPipeline
