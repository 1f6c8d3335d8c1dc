import CiPipeline.Data.Datum

/-!
# Writer — JSON texts

A `Json` tree is written in one line or, for people, with one item per line.

* `Json.Tree`: what is written;
* `Json.compact`: without any space;
* `Json.pretty`: two spaces of indentation per level.
-/

namespace CiPipeline
namespace Json

inductive Tree where
  | null
  | bool (b : Bool)
  | int (i : Int)
  | number (x : Binary64)
  | string (s : String)
  | array (items : List Tree)
  | object (fields : List (String × Tree))
deriving Inhabited

/-! ## Strings -/

/-- Two hexadecimal digits. -/
def hexPair (n : Nat) : List Char := [Nat.digitChar (n / 16), Nat.digitChar (n % 16)]

def escapeChar (c : Char) : List Char :=
  if c = '"' then ['\\', '"']
  else if c = '\\' then ['\\', '\\']
  else if c = '\x08' then ['\\', 'b']
  else if c = '\x0c' then ['\\', 'f']
  else if c = '\n' then ['\\', 'n']
  else if c = '\r' then ['\\', 'r']
  else if c = '\t' then ['\\', 't']
  else if c.toNat < 0x20 then ['\\', 'u', '0', '0'] ++ hexPair c.toNat
  else [c]

def writeString (s : String) : List Char := '"' :: s.toList.flatMap escapeChar ++ ['"']

namespace Tree

def writeLeaf : Tree → List Char
  | null => "null".toList
  | bool b => (toString b).toList
  | int i => (toString i).toList
  | number x => (NumberStyle.json.write x).toList
  | string s => writeString s
  | array _ => ['[', ']']
  | object _ => ['\x7b', '\x7d']

/-! ## One line -/

mutual

def compactChars : Tree → List Char
  | array items => '[' :: compactItems items ++ [']']
  | object fields => '\x7b' :: compactFields fields ++ ['\x7d']
  | t => t.writeLeaf

def compactItems : List Tree → List Char
  | [] => []
  | [t] => compactChars t
  | t :: ts => compactChars t ++ ',' :: compactItems ts

def compactFields : List (String × Tree) → List Char
  | [] => []
  | [f] => compactField f
  | f :: fs => compactField f ++ ',' :: compactFields fs

def compactField : String × Tree → List Char
  | (key, t) => writeString key ++ ':' :: compactChars t

end

def compact (t : Tree) : String := String.ofList t.compactChars

/-! ## One item per line -/

/-- A line break and the indentation of a level. -/
def newLine (level : Nat) : List Char := '\n' :: List.replicate (2 * level) ' '

mutual

def prettyChars (level : Nat) : Tree → List Char
  | array (t :: ts) => '[' :: prettyItems (level + 1) (t :: ts) ++ newLine level ++ [']']
  | object (f :: fs) => '\x7b' :: prettyFields (level + 1) (f :: fs) ++ newLine level ++ ['\x7d']
  | t => t.writeLeaf

def prettyItems (level : Nat) : List Tree → List Char
  | [] => []
  | [t] => newLine level ++ prettyChars level t
  | t :: ts => newLine level ++ prettyChars level t ++ ',' :: prettyItems level ts

def prettyFields (level : Nat) : List (String × Tree) → List Char
  | [] => []
  | [f] => newLine level ++ prettyField level f
  | f :: fs => newLine level ++ prettyField level f ++ ',' :: prettyFields level fs

def prettyField (level : Nat) : String × Tree → List Char
  | (key, t) => writeString key ++ ':' :: ' ' :: prettyChars level t

end

def pretty (t : Tree) : String := String.ofList (t.prettyChars 0)

end Tree
end Json
end CiPipeline
