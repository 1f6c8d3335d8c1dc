import CiPipeline.Json.Number

/-!
# Reader — JSON texts as data

The reader follows the text from left to right.  Where the text stops being JSON the datum ends in
a fault, and nothing of the text is left.

* `Json.readString`: a string after its opening quote;
* `Json.readValue`: the value at the front of a text;
* `Json.decode`: a whole text as a value of some type.
-/

namespace CiPipeline
namespace Json

/-! ## Characters -/

def isSpace (c : Char) : Bool := c = ' ' || c = '\n' || c = '\t' || c = '\r'

def skipSpace (cs : List Char) : List Char := cs.dropWhile isSpace

def hexValue (c : Char) : Option Nat :=
  if '0' ≤ c ∧ c ≤ '9' then some (c.toNat - '0'.toNat)
  else if 'a' ≤ c ∧ c ≤ 'f' then some (c.toNat - 'a'.toNat + 10)
  else if 'A' ≤ c ∧ c ≤ 'F' then some (c.toNat - 'A'.toNat + 10)
  else none

/-- The code unit written as four hexadecimal digits. -/
def codeUnit (a b c d : Char) : Option Nat := do
  let a ← hexValue a
  let b ← hexValue b
  let c ← hexValue c
  let d ← hexValue d
  some (((a * 16 + b) * 16 + c) * 16 + d)

def isLeading (unit : Nat) : Bool := 0xD800 ≤ unit && unit < 0xDC00

def isTrailing (unit : Nat) : Bool := 0xDC00 ≤ unit && unit < 0xE000

/-- The character after a backslash that stands for one character. -/
def simpleEscape (c : Char) : Option Char :=
  match c with
  | '"' => some '"'
  | '\\' => some '\\'
  | '/' => some '/'
  | 'b' => some '\x08'
  | 'f' => some '\x0c'
  | 'n' => some '\n'
  | 'r' => some '\r'
  | 't' => some '\t'
  | _ => none

def consChar (c : Char) : Option (List Char × List Char) → Option (List Char × List Char)
  | some (s, rest) => some (c :: s, rest)
  | none => none

/-- A string after its opening quote, and the text after its closing quote. -/
def readString : List Char → Option (List Char × List Char)
  | '"' :: rest => some ([], rest)
  | '\\' :: 'u' :: a :: b :: c :: d :: '\\' :: 'u' :: e :: f :: g :: h :: rest =>
    match codeUnit a b c d, codeUnit e f g h with
    | some high, some low =>
      if isLeading high then
        if isTrailing low then
          consChar (Char.ofNat (0x10000 + (high - 0xD800) * 0x400 + (low - 0xDC00)))
            (readString rest)
        else none
      else if isTrailing high then none
      else consChar (Char.ofNat high) (readString ('\\' :: 'u' :: e :: f :: g :: h :: rest))
    | some high, none =>
      if isLeading high || isTrailing high then none
      else consChar (Char.ofNat high) (readString ('\\' :: 'u' :: e :: f :: g :: h :: rest))
    | none, _ => none
  | '\\' :: 'u' :: a :: b :: c :: d :: rest =>
    match codeUnit a b c d with
    | some unit =>
      if isLeading unit || isTrailing unit then none
      else consChar (Char.ofNat unit) (readString rest)
    | none => none
  | '\\' :: c :: rest =>
    match simpleEscape c with
    | some c => consChar c (readString rest)
    | none => none
  | c :: rest => if c = '\\' ∨ c.toNat < 0x20 then none else consChar c (readString rest)
  | [] => none

/-! ## Values -/

/-- What is read and the text after it, which is absent when the text broke off. -/
abbrev Reading (α : Type) := α × Option (List Char)

def broken : Datum := .fault .malformed

/-- Depth of nesting that a text may have. -/
def depthLimit : Nat := 127

/-- A word and the text after it. -/
def readWord (word : List Char) (d : Datum) (cs : List Char) : Reading Datum :=
  if word.isPrefixOf cs then (d, some (cs.drop word.length)) else (broken, none)

mutual

/-- The value at the front of a text; `depth` more levels may be opened. -/
def valueAt : Nat → Nat → List Char → Reading Datum
  | 0, _, _ => (broken, none)
  | fuel + 1, depth, cs =>
    match skipSpace cs with
    | [] => (broken, none)
    | 'n' :: rest => readWord "ull".toList .null rest
    | 't' :: rest => readWord "rue".toList (.bool true) rest
    | 'f' :: rest => readWord "alse".toList (.bool false) rest
    | '"' :: rest =>
      match readString rest with
      | some (s, rest) => (.text (String.ofList s), some rest)
      | none => (broken, none)
    | '[' :: rest =>
      if depth = 0 then (broken, none)
      else
        match skipSpace rest with
        | ']' :: rest => (.list [], some rest)
        | rest =>
          let (items, rest) := itemsAt fuel (depth - 1) rest
          (.list items, rest)
    | '\x7b' :: rest =>
      if depth = 0 then (broken, none)
      else
        match skipSpace rest with
        | '\x7d' :: rest => (.record [], some rest)
        | rest =>
          let (fields, rest) := fieldsAt fuel (depth - 1) rest
          (.record fields, rest)
    | rest =>
      match readNumber rest with
      | some (d, rest) => (d, some rest)
      | none => (broken, none)

/-- The items of a list, at least one, up to the closing bracket. -/
def itemsAt : Nat → Nat → List Char → Reading (List Datum)
  | 0, _, _ => ([broken], none)
  | fuel + 1, depth, cs =>
    match valueAt fuel depth cs with
    | (d, none) => ([d], none)
    | (d, some rest) =>
      match skipSpace rest with
      | ',' :: rest =>
        let (ds, rest) := itemsAt fuel depth rest
        (d :: ds, rest)
      | ']' :: rest => ([d], some rest)
      | _ => ([d, broken], none)

/-- The fields of a record, at least one, up to the closing brace.  A key that is no string breaks
its field off. -/
def fieldsAt : Nat → Nat → List Char → Reading (List (Datum × Datum))
  | 0, _, _ => ([(broken, .null)], none)
  | fuel + 1, depth, cs =>
    match valueAt fuel depth cs with
    | (.text key, some rest) =>
      match skipSpace rest with
      | ':' :: rest =>
        match valueAt fuel depth rest with
        | (d, none) => ([(.text key, d)], none)
        | (d, some rest) =>
          match skipSpace rest with
          | ',' :: rest =>
            let (fs, rest) := fieldsAt fuel depth rest
            ((.text key, d) :: fs, rest)
          | '\x7d' :: rest => ([(.text key, d)], some rest)
          | _ => ([(.text key, d), (broken, .null)], none)
      | _ => ([(.text key, broken)], none)
    | (key, _) => ([(key, broken)], none)

end

def readValue (cs : List Char) : Reading Datum := valueAt (3 * cs.length + 3) depthLimit cs

/-- A whole text as a value: what the text says is judged before what follows it. -/
def decode {α : Type} (ofDatum : Datum → Except DecodeError α) (text : String) :
    Except DecodeError α := do
  let (d, rest) := readValue text.toList
  let a ← ofDatum d
  match rest.map skipSpace with
  | some [] => .ok a
  | _ => .error .malformed

end Json
end CiPipeline
