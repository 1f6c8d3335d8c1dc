import CiPipeline.Yaml.Character
import CiPipeline.Yaml.Schema

/-!
# Writer — YAML texts

A `Form` is written with one line per part, deeper parts indented by two blanks.  A text is written
plain where that reads back as the same text, else between single quotes, else between double
quotes; a text of several lines is written as a block where that is possible.

* `Form`: what is written;
* `Style`, `Style.ofText`: how a text is written;
* `Form.write`: the text of a form.
-/

namespace CiPipeline
namespace Yaml

/-! ## Styles -/

inductive Style where
  | plain
  | singleQuoted
  | doubleQuoted
  | literal
deriving DecidableEq, Repr

/-- Characters that need no escape. -/
def isPrintable (c : Char) : Bool :=
  let n := c.toNat
  n == 0xA || (0x20 ≤ n && n ≤ 0x7E)
    || (0xA0 ≤ n && n ≤ 0xFFFD && n != 0xFEFF) || 0x10000 ≤ n

/-- Some character that satisfies the first test stands right before one that satisfies the second. -/
def hasPair (first second : Char → Bool) : List Char → Bool
  | a :: b :: rest => (first a && second b) || hasPair first second (b :: rest)
  | _ => false

def isSpace (c : Char) : Bool := c == ' '

/-- A text that begins like something else than a plain scalar. -/
def beginsLikeSign (cs : List Char) : Bool :=
  match cs with
  | '-' :: '-' :: '-' :: _ => true
  | '.' :: '.' :: '.' :: _ => true
  | c :: rest =>
    "#,[]\x7b\x7d&*!|>'\"%@`".toList.contains c
      || ((c == '?' || c == ':' || c == '-') && blankAhead rest)
  | [] => false

/-- A colon before a blank would end a key, and a number sign after one would begin a comment. -/
def holdsSign : List Char → Bool
  | [] => false
  | c :: rest =>
    (isBlankOrBreak c && rest.head? == some '#') || (rest.head? == some ':' && blankAhead (rest.drop 1))
      || holdsSign rest

/-- A blank or a line break at either end. -/
def hasLooseEnd (cs : List Char) : Bool :=
  let loose (c : Char) : Bool := isSpace c || isBreak c
  cs.head?.any loose || cs.getLast?.any loose

/-- Whether the characters of a text can be written without escapes. -/
def escapeFree (cs : List Char) : Bool := cs.all isPrintable && !hasPair isSpace isBreak cs

def allowsPlain (cs : List Char) : Bool :=
  escapeFree cs && !hasLooseEnd cs && !cs.any isBreak && !beginsLikeSign cs && !holdsSign cs

def allowsSingleQuoted (cs : List Char) : Bool := escapeFree cs && !hasPair isBreak isSpace cs

def allowsLiteral (cs : List Char) : Bool := escapeFree cs && !cs.getLast?.any isSpace

/-- Whether a plain scalar would denote the text and not something else. -/
def denotesItself (s : String) : Bool :=
  match plainFound s with
  | .text _ => !hasLeadingZero (unsignedText s.toList)
  | _ => false

namespace Style

def ofText (s : String) : Style :=
  let cs := s.toList
  if cs.contains '\n' then (if allowsLiteral cs then literal else doubleQuoted)
  else if denotesItself s && allowsPlain cs then plain
  else if allowsSingleQuoted cs then singleQuoted
  else doubleQuoted

end Style

/-! ## Scalars -/

def blanks (n : Nat) : List Char := List.replicate n ' '

/-- Between single quotes a quote is written twice; after a line break the next line is indented. -/
def singleChars (indent : Nat) (fresh : Bool) : List Char → List Char
  | [] => if fresh then blanks indent else []
  | c :: cs =>
    if isBreak c then c :: singleChars indent true cs
    else
      (if fresh then blanks indent else []) ++ (if c == '\'' then ['\'', '\''] else [c])
        ++ singleChars indent false cs

/-- The letter after a backslash that stands for a character. -/
def escapeLetter (c : Char) : Option Char :=
  match c.toNat with
  | 0x00 => some '0'
  | 0x07 => some 'a'
  | 0x08 => some 'b'
  | 0x09 => some 't'
  | 0x0A => some 'n'
  | 0x0B => some 'v'
  | 0x0C => some 'f'
  | 0x0D => some 'r'
  | 0x1B => some 'e'
  | 0x22 => some '"'
  | 0x5C => some '\\'
  | 0x85 => some 'N'
  | 0xA0 => some '_'
  | 0x2028 => some 'L'
  | 0x2029 => some 'P'
  | _ => none

/-- Hexadecimal digits, the last `width` of them. -/
def hexDigits (n : Nat) : Nat → List Char
  | 0 => []
  | width + 1 => hexDigits (n / 16) width ++ [(Nat.digitChar (n % 16)).toUpper]

def escapeCode (n : Nat) : List Char :=
  if n ≤ 0xFF then 'x' :: hexDigits n 2
  else if n ≤ 0xFFFF then 'u' :: hexDigits n 4
  else 'U' :: hexDigits n 8

def doubleChar (c : Char) : List Char :=
  if isPrintable c && !isBreak c && c != '"' && c != '\\' then [c]
  else
    match escapeLetter c with
    | some letter => ['\\', letter]
    | none => '\\' :: escapeCode c.toNat

/-- The lines of a block, each indented. -/
def literalChars (indent : Nat) (fresh : Bool) : List Char → List Char
  | [] => []
  | c :: cs =>
    if isBreak c then c :: literalChars indent true cs
    else (if fresh then blanks indent else []) ++ c :: literalChars indent false cs

/-- The indentation of a block has to be named when the block begins with a blank. -/
def indentHint (cs : List Char) : List Char :=
  if cs.head?.any fun c => isSpace c || isBreak c then ['2'] else []

/-- What the end of a block says about its last line breaks. -/
def chompHint (cs : List Char) : List Char :=
  match cs.reverse with
  | [] => ['-']
  | [c] => if isBreak c then ['+'] else ['-']
  | c :: d :: _ => if !isBreak c then ['-'] else if isBreak d then ['+'] else []

/-- A text as the rest of a line, or of several lines indented by `indent`. -/
def scalarLine (indent : Nat) (s : String) : List Char :=
  let cs := s.toList
  match Style.ofText s with
  | .plain => cs ++ ['\n']
  | .singleQuoted => '\'' :: singleChars indent false cs ++ ['\'', '\n']
  | .doubleQuoted => '"' :: cs.flatMap doubleChar ++ ['"', '\n']
  | .literal =>
    '|' :: indentHint cs ++ chompHint cs ++ '\n' :: literalChars indent true cs
      ++ (if cs.getLast?.any isBreak then [] else ['\n'])

/-! ## Forms -/

/-- What is written; the names of the fields are words. -/
inductive Form where
  | text (s : String)
  | list (items : List String)
  | record (fields : List (String × Form))

namespace Form

def writeItems (indent : Nat) : List String → List Char
  | [] => []
  | s :: rest => blanks indent ++ '-' :: ' ' :: scalarLine (indent + 2) s ++ writeItems indent rest

mutual

/-- What follows the colon after a name. -/
def writeValue (indent : Nat) : Form → List Char
  | text s => ' ' :: scalarLine (indent + 2) s
  | list [] => " []\n".toList
  | list items => '\n' :: writeItems indent items
  | record [] => " \x7b\x7d\n".toList
  | record fields => '\n' :: writeFields (indent + 2) fields

def writeFields (indent : Nat) : List (String × Form) → List Char
  | [] => []
  | field :: rest => writeField indent field ++ writeFields indent rest

def writeField (indent : Nat) : String × Form → List Char
  | (name, value) => blanks indent ++ name.toList ++ ':' :: writeValue indent value

end

/-- The text of a record with the given fields. -/
def write (fields : List (String × Form)) : String := String.ofList (writeFields 0 fields)

end Form
end Yaml
end CiPipeline
