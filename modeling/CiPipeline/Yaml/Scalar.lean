import CiPipeline.Yaml.Mark

/-!
# Scalar — the text of scalars

A scalar is written plain, between quotes, or as a block of lines.  Inside plain and quoted scalars
the line breaks between two words are folded; a block keeps its lines or folds them.

* `Gap`: blanks and line breaks between two words, and what they are read as;
* `Cursor.plain`: a plain scalar;
* `Cursor.singleQuoted`, `Cursor.doubleQuoted`: a quoted scalar after its opening quote;
* `Cursor.block`: a block after its indicator.
-/

namespace CiPipeline
namespace Yaml

/-- The character a line break is read as. -/
def lineBreak (c : Char) : Char := if c == '\u2028' || c == '\u2029' then c else '\n'

/-! ## Between words -/

inductive Gap where
  | none
  | blanks (read : List Char)
  /-- A line break, absent when it was escaped, and the further breaks after it. -/
  | breaks (first : Option Char) (more : List Char)
deriving DecidableEq, Repr

namespace Gap

def addBlank (c : Char) : Gap → Gap
  | none => blanks [c]
  | blanks read => blanks (read ++ [c])
  | breaks first more => breaks first more

def addBreak (c : Char) : Gap → Gap
  | breaks first more => breaks first (more ++ [c])
  | _ => breaks (some c) []

def hasBreaks : Gap → Bool
  | breaks .. => true
  | _ => false

/-- A single line feed is read as a space, and dropped before further breaks. -/
def text : Gap → List Char
  | none => []
  | blanks read => read
  | breaks (some '\n') [] => [' ']
  | breaks (some '\n') more => more
  | breaks (some c) more => c :: more
  | breaks Option.none more => more

end Gap

/-- A text that was read and the place after it. -/
abbrev Lexeme := List Char × Cursor

/-- Puts characters in front of what is read later. -/
def Lexeme.after (front : List Char) : Option Lexeme → Option Lexeme
  | some (text, c) => some (front ++ text, c)
  | none => none

/-! ## Plain scalars -/

/-- Where a plain scalar stands: inside brackets, and with what least indentation. -/
structure PlainContext where
  inFlow : Bool
  indent : Nat

/-- Whether a plain scalar goes on with `c` and the text after it. -/
def PlainContext.ends (context : PlainContext) (c : Char) (rest : List Char) : Bool :=
  (c == ':' && blankAhead rest) || (context.inFlow && isFlowIndicator c)

/-- A colon that inside brackets neither ends a scalar nor belongs to it. -/
def PlainContext.forbids (context : PlainContext) (c : Char) (rest : List Char) : Bool :=
  context.inFlow && c == ':' && (rest.head?.any fun d => d == '?' || isFlowIndicator d)

/-- Whether a new word of a plain scalar cannot begin here. -/
def PlainContext.stopsBefore (context : PlainContext) (cs : List Char) (m : Mark) : Bool :=
  (!context.inFlow && m.column < context.indent) || (m.column == 0 && markerAhead cs)
    || cs.head? == some '#'

/-- A plain scalar, whether line breaks follow it, and the place after it and those. -/
def plainFrom (context : PlainContext) (gap : Gap) (m : Mark) :
    List Char → Option (List Char × Bool × Cursor)
  | [] => some ([], gap.hasBreaks, ⟨[], m⟩)
  | '\r' :: '\n' :: rest => plainFrom context (gap.addBreak '\n') (m.newLine 2) rest
  | c :: rest =>
    if isBlank c then
      if gap.hasBreaks && m.column < context.indent && c == '\t' then none
      else plainFrom context (gap.addBlank c) m.next rest
    else if isBreak c then plainFrom context (gap.addBreak (lineBreak c)) (m.newLine 1) rest
    else if gap != .none && context.stopsBefore (c :: rest) m then
      some ([], gap.hasBreaks, ⟨c :: rest, m⟩)
    else if context.forbids c rest then none
    else if context.ends c rest then some ([], gap.hasBreaks, ⟨c :: rest, m⟩)
    else
      match plainFrom context .none m.next rest with
      | some (text, broken, cursor) => some (gap.text ++ c :: text, broken, cursor)
      | none => none

/-! ## Quoted scalars -/

/-- A text between single quotes; a quote inside is written twice. -/
def singleFrom (gap : Gap) (m : Mark) : List Char → Option Lexeme
  | [] => none
  | '\'' :: '\'' :: rest =>
    Lexeme.after (gap.text ++ ['\'']) (singleFrom .none (m.forward 2) rest)
  | '\r' :: '\n' :: rest => singleFrom (gap.addBreak '\n') (m.newLine 2) rest
  | c :: rest =>
    if isBlank c then singleFrom (gap.addBlank c) m.next rest
    else if isBreak c then singleFrom (gap.addBreak (lineBreak c)) (m.newLine 1) rest
    else if m.column == 0 && markerAhead (c :: rest) then none
    else if c == '\'' then some (gap.text, ⟨rest, m.next⟩)
    else Lexeme.after (gap.text ++ [c]) (singleFrom .none m.next rest)

/-- The character that a letter after a backslash stands for. -/
def escapedChar (c : Char) : Option Char :=
  match c with
  | '0' => some '\x00'
  | 'a' => some '\x07'
  | 'b' => some '\x08'
  | 't' => some '\t'
  | '\t' => some '\t'
  | 'n' => some '\n'
  | 'v' => some '\x0b'
  | 'f' => some '\x0c'
  | 'r' => some '\r'
  | 'e' => some '\x1b'
  | ' ' => some ' '
  | '"' => some '"'
  | '/' => some '/'
  | '\\' => some '\\'
  | 'N' => some '\u0085'
  | '_' => some '\u00a0'
  | 'L' => some '\u2028'
  | 'P' => some '\u2029'
  | _ => none

/-- How many hexadecimal digits follow a letter after a backslash. -/
def escapeLength (c : Char) : Option Nat :=
  match c with
  | 'x' => some 2
  | 'u' => some 4
  | 'U' => some 8
  | _ => none

def hexDigit? (c : Char) : Option Nat :=
  if '0' ≤ c ∧ c ≤ '9' then some (c.toNat - '0'.toNat)
  else if 'a' ≤ c ∧ c ≤ 'f' then some (c.toNat - 'a'.toNat + 10)
  else if 'A' ≤ c ∧ c ≤ 'F' then some (c.toNat - 'A'.toNat + 10)
  else none

/-- The character with a code that is no surrogate and not too large. -/
def charOfCode (n : Nat) : Option Char := if n.isValidChar then some (Char.ofNat n) else none

/-- The state of reading an escape: how many digits are missing, and their value so far. -/
structure EscapeCode where
  missing : Nat
  value : Nat
deriving DecidableEq, Repr

/-- A text between double quotes; `code` while the digits of an escape are read. -/
def doubleFrom (gap : Gap) (code : Option EscapeCode) (m : Mark) : List Char → Option Lexeme
  | [] => none
  | c :: rest =>
    match code with
    | some code =>
      match hexDigit? c with
      | none => none
      | some d =>
        let value := 16 * code.value + d
        if code.missing = 1 then
          match charOfCode value with
          | some read => Lexeme.after [read] (doubleFrom .none none m.next rest)
          | none => none
        else doubleFrom .none (some ⟨code.missing - 1, value⟩) m.next rest
    | none =>
      if isBlank c then doubleFrom (gap.addBlank c) none m.next rest
      else if isBreak c then
        match c, rest with
        | '\r', '\n' :: rest => doubleFrom (gap.addBreak '\n') none (m.newLine 2) rest
        | c, rest => doubleFrom (gap.addBreak (lineBreak c)) none (m.newLine 1) rest
      else if m.column == 0 && markerAhead (c :: rest) then none
      else if c == '"' then some (gap.text, ⟨rest, m.next⟩)
      else if c == '\\' then
        match rest with
        | [] => none
        | '\r' :: '\n' :: rest =>
          Lexeme.after gap.text (doubleFrom (.breaks none []) none (m.next.newLine 2) rest)
        | e :: rest =>
          if isBreak e then
            Lexeme.after gap.text (doubleFrom (.breaks none []) none (m.next.newLine 1) rest)
          else
            match escapedChar e, escapeLength e with
            | some read, _ =>
              Lexeme.after (gap.text ++ [read]) (doubleFrom .none none (m.forward 2) rest)
            | none, some length =>
              Lexeme.after gap.text (doubleFrom .none (some ⟨length, 0⟩) (m.forward 2) rest)
            | none, none => none
      else Lexeme.after (gap.text ++ [c]) (doubleFrom .none none m.next rest)

/-! ## Blocks -/

/-- What becomes of the line breaks at the end of a block. -/
inductive Chomping where
  | strip
  | clip
  | keep
deriving DecidableEq, Repr

/-- The header of a block: how it ends, and its indentation when that is given. -/
structure BlockHeader where
  chomping : Chomping
  increment : Option Nat
deriving DecidableEq, Repr

def chompingOf (c : Char) : Option Chomping :=
  if c == '+' then some .keep else if c == '-' then some .strip else none

/-- The two indicators of a header, in either order. -/
def readHeader (c : Cursor) : Option (BlockHeader × Cursor) :=
  match c.rest with
  | a :: b :: _ =>
    match chompingOf a with
    | some chomping =>
      if b.isDigit then
        if b == '0' then none
        else some (⟨chomping, some (b.toNat - '0'.toNat)⟩, c.skip 2)
      else some (⟨chomping, none⟩, c.skip 1)
    | none =>
      if a.isDigit then
        if a == '0' then none
        else
          match chompingOf b with
          | some chomping => some (⟨chomping, some (a.toNat - '0'.toNat)⟩, c.skip 2)
          | none => some (⟨.clip, some (a.toNat - '0'.toNat)⟩, c.skip 1)
      else some (⟨.clip, none⟩, c)
  | [a] =>
    match chompingOf a with
    | some chomping => some (⟨chomping, none⟩, c.skip 1)
    | none =>
      if a.isDigit then
        if a == '0' then none else some (⟨.clip, some (a.toNat - '0'.toNat)⟩, c.skip 1)
      else some (⟨.clip, none⟩, c)
  | [] => some (⟨.clip, none⟩, c)

/-- The rest of the line of a header: blanks and a comment. -/
def skipHeaderLine (c : Cursor) : Option Cursor :=
  let c := c.skipBlanks.skipComment
  if breakAhead c.rest then some c.skipLine else none

/-- The empty lines in front of a block whose indentation is not known: their line breaks, the
largest column reached, and the place of the first line that is not empty. -/
def leadingLines (largest : Nat) (m : Mark) :
    List Char → Option (List Char × Nat × Cursor)
  | [] => some ([], max largest m.column, ⟨[], m⟩)
  | '\r' :: '\n' :: rest => do
    let (breaks, largest, c) ← leadingLines (max largest m.column) (m.newLine 2) rest
    some ('\n' :: breaks, largest, c)
  | c :: rest =>
    if c == ' ' then leadingLines largest m.next rest
    else if c == '\t' then none
    else if isBreak c then do
      let (breaks, largest, cursor) ← leadingLines (max largest m.column) (m.newLine 1) rest
      some (lineBreak c :: breaks, largest, cursor)
    else some ([], max largest m.column, ⟨c :: rest, m⟩)

/-- How the lines of a block are read. -/
structure BlockStyle where
  literal : Bool
  chomping : Chomping
  indent : Nat
deriving DecidableEq, Repr

/-- Between two lines: the break after the last line, the breaks of empty lines, and whether the
last line began with a blank. -/
structure Margin where
  first : List Char
  more : List Char
  blankBefore : Bool
deriving DecidableEq, Repr

namespace Margin

/-- What stands between the last line and a line that begins with `c`. -/
def join (margin : Margin) (style : BlockStyle) (c : Char) : List Char :=
  if !style.literal && margin.first == ['\n'] && !margin.blankBefore && !isBlank c then
    if margin.more.isEmpty then [' '] else margin.more
  else margin.first ++ margin.more

/-- What is left of the breaks at the end of the block. -/
def chomped (margin : Margin) : Chomping → List Char
  | .strip => []
  | .clip => margin.first
  | .keep => margin.first ++ margin.more

end Margin

/-- The lines of a block: inside a line, which began with a blank or not, or in the margin. -/
def blockFrom (style : BlockStyle) (state : Bool ⊕ Margin) (m : Mark) : List Char → Option Lexeme
  | [] =>
    match state with
    | .inl _ => some ([], ⟨[], m⟩)
    | .inr margin => some (margin.chomped style.chomping, ⟨[], m⟩)
  | '\r' :: '\n' :: rest =>
    match state with
    | .inl blank => blockFrom style (.inr ⟨['\n'], [], blank⟩) (m.newLine 2) rest
    | .inr margin =>
      blockFrom style (.inr { margin with more := margin.more ++ ['\n'] }) (m.newLine 2) rest
  | c :: rest =>
    match state with
    | .inl blank =>
      if isBreak c then blockFrom style (.inr ⟨[lineBreak c], [], blank⟩) (m.newLine 1) rest
      else Lexeme.after [c] (blockFrom style (.inl blank) m.next rest)
    | .inr margin =>
      if c == ' ' && m.column < style.indent then blockFrom style (.inr margin) m.next rest
      else if c == '\t' && m.column < style.indent then none
      else if isBreak c then
        blockFrom style (.inr { margin with more := margin.more ++ [lineBreak c] }) (m.newLine 1) rest
      else if m.column == style.indent then
        Lexeme.after (margin.join style c ++ [c]) (blockFrom style (.inl (isBlank c)) m.next rest)
      else some (margin.chomped style.chomping, ⟨c :: rest, m⟩)

namespace Cursor

def plain (c : Cursor) (context : PlainContext) : Option (List Char × Bool × Cursor) :=
  plainFrom context .none c.mark c.rest

def singleQuoted (c : Cursor) : Option Lexeme := singleFrom .none c.mark c.rest

def doubleQuoted (c : Cursor) : Option Lexeme := doubleFrom .none none c.mark c.rest

/-- A block after its indicator; `parent` is the indentation around it. -/
def block (c : Cursor) (literal : Bool) (parent : Int) : Option Lexeme := do
  let (header, c) ← readHeader c
  let c ← skipHeaderLine c
  match header.increment with
  | some increment =>
    let style : BlockStyle := ⟨literal, header.chomping, parent.toNat + increment⟩
    blockFrom style (.inr ⟨[], [], false⟩) c.mark c.rest
  | none =>
    let (breaks, largest, c) ← leadingLines 0 c.mark c.rest
    let style : BlockStyle := ⟨literal, header.chomping, max (max largest (parent + 1).toNat) 1⟩
    blockFrom style (.inr ⟨[], breaks, false⟩) c.mark c.rest

end Cursor
end Yaml
end CiPipeline
