import CiPipeline.Yaml.Scalar

/-!
# Token — the words of YAML texts

* `Token`: what a text is made of, indentation included;
* `Cursor.name`, `Cursor.tag`, `Cursor.directive`: the tokens that are no scalars and no signs.
-/

namespace CiPipeline
namespace Yaml

inductive Token where
  | streamEnd
  | versionDirective (major minor : Nat)
  | tagDirective (handle expansion : String)
  | documentStart
  | documentEnd
  | blockSequenceStart
  | blockMappingStart
  | blockEnd
  | flowSequenceStart
  | flowSequenceEnd
  | flowMappingStart
  | flowMappingEnd
  | blockEntry
  | flowEntry
  | key
  | value
  | alias (name : String)
  | anchor (name : String)
  | tag (handle suffix : String)
  | scalar (text : String) (plain : Bool)
deriving DecidableEq, Repr, Inhabited

namespace Cursor

/-! ## Names -/

/-- Characters that may follow the name of an anchor besides blanks. -/
def endsName (cs : List Char) : Bool :=
  blankAhead cs || cs.head?.any fun c => "?:,]\x7d%@`".toList.contains c

/-- The name of an anchor or an alias, after its sign. -/
def name (c : Cursor) : Option (String × Cursor) :=
  let text := c.rest.takeWhile isWordChar
  let after := c.skipWhile isWordChar
  if !text.isEmpty && endsName after.rest then some (String.ofList text, after) else none

/-! ## Tags -/

/-- The characters of a tag; `verbatim` between angle brackets. -/
def isTagChar (verbatim : Bool) (c : Char) : Bool :=
  isWordChar c || ";/?:@&=+$.%!~*'()".toList.contains c
    || (verbatim && ",[]".toList.contains c)

/-- The value of two hexadecimal digits after a percent sign. -/
def octet (cs : List Char) : Option Nat :=
  match cs with
  | '%' :: a :: b :: _ => do
    let a ← hexDigit? a
    let b ← hexDigit? b
    some (16 * a + b)
  | _ => none

/-- How many octets a character has that begins with the given one. -/
def octetCount (lead : Nat) : Option Nat :=
  if lead < 0x80 then some 1
  else if 0xC0 ≤ lead ∧ lead < 0xE0 then some 2
  else if 0xE0 ≤ lead ∧ lead < 0xF0 then some 3
  else if 0xF0 ≤ lead ∧ lead < 0xF8 then some 4
  else none

/-- The octets of a character that are still missing, added to its value. -/
def trailingOctets (value : Nat) : Nat → List Char → Option Nat
  | 0, _ => some value
  | missing + 1, cs => do
    let o ← octet cs
    if 0x80 ≤ o ∧ o < 0xC0 then trailingOctets (64 * value + (o - 0x80)) missing (cs.drop 3)
    else none

/-- A character written as octets, and how many characters of the text that took. -/
def escapedTagChar (cs : List Char) : Option (Char × Nat) := do
  let lead ← octet cs
  let count ← octetCount lead
  let bits := if count = 1 then lead else lead % Nat.pow 2 (7 - count)
  let value ← trailingOctets bits (count - 1) (cs.drop 3)
  some (Char.ofNat value, 3 * count)

/-- The characters of a tag, octets decoded, and how many characters of the text they took; `ahead`
of them belong to an octet that was decoded before. -/
def tagText (verbatim : Bool) : Nat → List Char → Option (List Char × Nat)
  | _ + 1, [] => some ([], 0)
  | ahead + 1, _ :: rest => do
    let (text, n) ← tagText verbatim ahead rest
    some (text, n + 1)
  | 0, [] => some ([], 0)
  | 0, c :: rest =>
    if c == '%' then do
      let (read, n) ← escapedTagChar (c :: rest)
      let (text, m) ← tagText verbatim (n - 1) rest
      some (read :: text, m + 1)
    else if isTagChar verbatim c then do
      let (text, n) ← tagText verbatim 0 rest
      some (c :: text, n + 1)
    else some ([], 0)

def readTagText (c : Cursor) (verbatim : Bool) : Option (List Char × Cursor) :=
  match tagText verbatim 0 c.rest with
  | some (text, n) => some (text, c.skip n)
  | none => none

/-- The characters from an exclamation mark up to the next one that ends a handle. -/
def handle (c : Cursor) : Option (List Char × Cursor) :=
  match c.rest with
  | '!' :: _ =>
    let c := c.skip 1
    let word := c.rest.takeWhile isWordChar
    let after := c.skipWhile isWordChar
    if after.rest.head? == some '!' then some ('!' :: word ++ ['!'], after.skip 1)
    else some ('!' :: word, after)
  | _ => none

/-- Whether a text is a handle: exclamation marks at both ends. -/
def isHandle (text : List Char) : Bool := text.length > 1 && text.getLast? == some '!'

/-- The handle and the suffix of a tag. -/
def tagParts (c : Cursor) : Option (Token × Cursor) :=
  match c.rest with
  | '!' :: '<' :: _ => do
    let (text, c) ← (c.skip 2).readTagText true
    if text.isEmpty || c.rest.head? != some '>' then none
    else some (.tag "" (String.ofList text), c.skip 1)
  | _ => do
    let (front, c) ← c.handle
    let (text, c) ← c.readTagText false
    if isHandle front then
      if text.isEmpty then none
      else some (.tag (String.ofList front) (String.ofList text), c)
    else
      let suffix := front.drop 1 ++ text
      if suffix.isEmpty then some (.tag "" "!", c)
      else some (.tag "!" (String.ofList suffix), c)

/-- A tag; it ends at a blank, or inside brackets at a comma. -/
def tag (c : Cursor) (inFlow : Bool) : Option (Token × Cursor) := do
  let (token, c) ← c.tagParts
  if blankAhead c.rest || (inFlow && c.rest.head? == some ',') then some (token, c) else none

/-! ## Directives -/

/-- A number of at most nine digits. -/
def number (c : Cursor) : Option (Nat × Cursor) :=
  let digits := c.rest.takeWhile Char.isDigit
  if digits.isEmpty || digits.length > 9 then none
  else
    some (digits.foldl (fun n d => 10 * n + (d.toNat - '0'.toNat)) 0, c.skipWhile Char.isDigit)

def version (c : Cursor) : Option (Token × Cursor) := do
  let (major, c) ← c.skipBlanks.number
  if c.rest.head? != some '.' then none
  else
    let (minor, c) ← (c.skip 1).number
    some (.versionDirective major minor, c)

def tagDirective (c : Cursor) : Option (Token × Cursor) := do
  let (front, c) ← c.skipBlanks.handle
  if !(isHandle front || front == ['!']) || !(c.rest.head?.any isBlank) then none
  else
    let (text, c) ← c.skipBlanks.readTagText true
    if text.isEmpty || !blankAhead c.rest then none
    else some (.tagDirective (String.ofList front) (String.ofList text), c)

/-- A directive after its percent sign, up to the end of its line. -/
def directive (c : Cursor) : Option (Token × Cursor) := do
  let word := String.ofList (c.rest.takeWhile isWordChar)
  let c := c.skipWhile isWordChar
  if !blankAhead c.rest then none
  else
    let (token, c) ←
      if word = "YAML" then c.version else if word = "TAG" then c.tagDirective else none
    let c := c.skipBlanks.skipComment
    if breakAhead c.rest then some (token, c.skipLine) else none

end Cursor
end Yaml
end CiPipeline
