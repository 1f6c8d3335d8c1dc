import CiPipeline.Yaml.Character

/-!
# Mark — places in a YAML text

* `Mark`: how many characters, lines and columns lie before a place;
* `Cursor`: a place together with the text ahead of it;
* `Cursor.skipLine`: the place after a line break, which may be two characters long.
-/

namespace CiPipeline
namespace Yaml

structure Mark where
  index : Nat
  line : Nat
  column : Nat
deriving DecidableEq, Repr, Inhabited

namespace Mark

def start : Mark := ⟨0, 0, 0⟩

/-- After one more character of the line. -/
def next (m : Mark) : Mark := ⟨m.index + 1, m.line, m.column + 1⟩

def forward (m : Mark) (n : Nat) : Mark := ⟨m.index + n, m.line, m.column + n⟩

/-- After a line break of `n` characters. -/
def newLine (m : Mark) (n : Nat) : Mark := ⟨m.index + n, m.line + 1, 0⟩

end Mark

structure Cursor where
  rest : List Char
  mark : Mark
deriving DecidableEq, Repr, Inhabited

namespace Cursor

/-- After `n` characters that are no line breaks. -/
def skip (c : Cursor) (n : Nat) : Cursor := ⟨c.rest.drop n, c.mark.forward n⟩

/-- After the characters that satisfy a test, none of which is a line break. -/
def skipWhile (c : Cursor) (test : Char → Bool) : Cursor :=
  ⟨c.rest.dropWhile test, c.mark.forward (c.rest.takeWhile test).length⟩

def skipBlanks (c : Cursor) : Cursor := c.skipWhile isBlank

/-- After a line break, if there is one. -/
def skipLine (c : Cursor) : Cursor :=
  match c.rest with
  | '\r' :: '\n' :: rest => ⟨rest, c.mark.newLine 2⟩
  | b :: rest => if isBreak b then ⟨rest, c.mark.newLine 1⟩ else c
  | [] => c

/-- After a comment, up to the end of its line. -/
def skipComment (c : Cursor) : Cursor :=
  if c.rest.head? == some '#' then c.skipWhile fun d => !isBreak d else c

end Cursor
end Yaml
end CiPipeline
