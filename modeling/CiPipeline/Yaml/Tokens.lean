import CiPipeline.Yaml.Token

/-!
# Tokens — a YAML text as a list of tokens

Outside brackets the indentation of the lines opens and closes collections.  A value sign makes a
key of what stands before it on the same line, so a token that may begin such a key is held back
until that is settled.

* `Scanner`: the state between two tokens;
* `Scanner.fetch`: reads one more token;
* `tokensOf`: the tokens of a text up to where it stops being well formed.
-/

namespace CiPipeline
namespace Yaml

/-- A token that is a key if a value sign follows; `number` counts the tokens before it. -/
structure KeyCandidate where
  required : Bool
  number : Nat
  mark : Mark
deriving DecidableEq, Repr

structure Scanner where
  cursor : Cursor
  /-- The column of the innermost collection outside brackets. -/
  indent : Int
  indents : List Int
  /-- The candidate of each level of brackets, the innermost first. -/
  keys : List (Option KeyCandidate)
  /-- Whether a key may begin here. -/
  keyAllowed : Bool
  /-- Tokens that are held back. -/
  held : List Token
  /-- How many tokens were given out. -/
  released : Nat
  ended : Bool
deriving Repr

namespace Scanner

def start (text : List Char) : Scanner :=
  ⟨⟨text, .start⟩, -1, [], [none], true, [], 0, false⟩

def inFlow (s : Scanner) : Bool := s.keys.length > 1

def emit (s : Scanner) (t : Token) : Scanner := { s with held := s.held ++ [t] }

/-- Inserts a token in front of the token with a number. -/
def insertAt (s : Scanner) (number : Nat) (t : Token) : Scanner :=
  let place := number - s.released
  { s with held := s.held.take place ++ t :: s.held.drop place }

/-! ## Keys -/

/-- How long a key may be. -/
def longestKey : Nat := 1024

/-- A candidate is stale after its line and after too many characters. -/
def isStale (m : Mark) (key : KeyCandidate) : Bool :=
  key.mark.line < m.line || key.mark.index + longestKey < m.index

/-- Gives up the candidates that are stale, unless one of them has to be a key. -/
def dropStale (s : Scanner) : Option Scanner :=
  let m := s.cursor.mark
  if s.keys.any fun key => key.any fun key => isStale m key && key.required then none
  else some { s with keys := s.keys.map fun key => key.filter fun key => !isStale m key }

/-- Gives up the innermost candidate, unless it has to be a key. -/
def dropKey (s : Scanner) : Option Scanner :=
  match s.keys with
  | some key :: rest => if key.required then none else some { s with keys := none :: rest }
  | _ => some s

/-- Makes the next token a candidate, where a key may begin. -/
def saveKey (s : Scanner) : Option Scanner :=
  if s.keyAllowed then
    let key : KeyCandidate :=
      ⟨!s.inFlow && s.indent == (s.cursor.mark.column : Int), s.released + s.held.length,
        s.cursor.mark⟩
    match s.dropKey with
    | some s => some { s with keys := some key :: s.keys.drop 1 }
    | none => none
  else some s

/-- Whether the first token held back may still become a key. -/
def headUnsettled (s : Scanner) : Bool :=
  s.keys.any fun key => key.any fun key => key.number == s.released

/-! ## Indentation -/

/-- Opens a collection at a column that lies deeper than the innermost one. -/
def rollIndent (s : Scanner) (column : Int) (number : Option Nat) (t : Token) : Scanner :=
  if !s.inFlow && s.indent < column then
    let s := { s with indents := s.indent :: s.indents, indent := column }
    match number with
    | some number => s.insertAt number t
    | none => s.emit t
  else s

/-- How many collections lie deeper than a column, and the indentation and the outer indentations
that are left. -/
def unrolled (column : Int) (indent : Int) : List Int → Nat × Int × List Int
  | [] => (0, indent, [])
  | outer :: rest =>
    if column < indent then
      let (n, indent, rest) := unrolled column outer rest
      (n + 1, indent, rest)
    else (0, indent, outer :: rest)

/-- Closes the collections that lie deeper than a column. -/
def unrollIndent (s : Scanner) (column : Int) : Scanner :=
  if s.inFlow then s
  else
    let (n, indent, indents) := unrolled column s.indent s.indents
    { s with indent := indent, indents := indents, held := s.held ++ List.replicate n .blockEnd }

/-! ## Between tokens -/

/-- The place of the next token, and whether a line break lies before it.  Tabs count as blanks
where no key may begin. -/
def skipSpace (inFlow keyAllowed : Bool) (comment : Bool) (m : Mark) :
    List Char → Bool × Cursor
  | [] => (keyAllowed, ⟨[], m⟩)
  | '\r' :: '\n' :: rest => skipSpace inFlow (keyAllowed || !inFlow) false (m.newLine 2) rest
  | c :: rest =>
    if isBreak c then skipSpace inFlow (keyAllowed || !inFlow) false (m.newLine 1) rest
    else if comment then skipSpace inFlow keyAllowed true m.next rest
    else if m.index == 0 && c == byteOrderMark then
      skipSpace inFlow keyAllowed false m.next rest
    else if c == ' ' || (c == '\t' && (inFlow || !keyAllowed)) then
      skipSpace inFlow keyAllowed false m.next rest
    else if c == '#' then skipSpace inFlow keyAllowed true m.next rest
    else (keyAllowed, ⟨c :: rest, m⟩)

def toNextToken (s : Scanner) : Scanner :=
  let (keyAllowed, cursor) := skipSpace s.inFlow s.keyAllowed false s.cursor.mark s.cursor.rest
  { s with keyAllowed := keyAllowed, cursor := cursor }

/-! ## Single tokens -/

def skip (s : Scanner) (n : Nat) : Scanner := { s with cursor := s.cursor.skip n }

def allowKey (s : Scanner) (allowed : Bool) : Scanner := { s with keyAllowed := allowed }

/-- A sign at which collections end and no key begins. -/
def outerToken (s : Scanner) (read : Cursor → Option (Token × Cursor)) : Option Scanner := do
  let s ← (s.unrollIndent (-1)).dropKey
  let (t, cursor) ← read s.cursor
  some (({ s with cursor := cursor }.allowKey false).emit t)

def openFlow (s : Scanner) (t : Token) : Option Scanner := do
  let s ← s.saveKey
  some (({ s with keys := none :: s.keys }.allowKey true).skip 1 |>.emit t)

def closeFlow (s : Scanner) (t : Token) : Option Scanner := do
  let s ← s.dropKey
  let keys := if s.inFlow then s.keys.drop 1 else s.keys
  some (({ s with keys := keys }.allowKey false).skip 1 |>.emit t)

def flowEntry (s : Scanner) : Option Scanner := do
  let s ← s.dropKey
  some ((s.allowKey true).skip 1 |>.emit .flowEntry)

def column (s : Scanner) : Int := s.cursor.mark.column

def blockEntry (s : Scanner) : Option Scanner :=
  if !s.inFlow && !s.keyAllowed then none
  else do
    let s ← (s.rollIndent s.column none .blockSequenceStart).dropKey
    some ((s.allowKey true).skip 1 |>.emit .blockEntry)

def explicitKey (s : Scanner) : Option Scanner :=
  if !s.inFlow && !s.keyAllowed then none
  else do
    let s ← (s.rollIndent s.column none .blockMappingStart).dropKey
    some ((s.allowKey (!s.inFlow)).skip 1 |>.emit .key)

/-- A value sign makes a key of the innermost candidate. -/
def valueSign (s : Scanner) : Option Scanner :=
  match s.keys with
  | some key :: outer =>
    let s := s.insertAt key.number .key
    let s := s.rollIndent key.mark.column (some key.number) .blockMappingStart
    some (({ s with keys := none :: outer }.allowKey false).skip 1 |>.emit .value)
  | _ =>
    if !s.inFlow && !s.keyAllowed then none
    else
      let s := s.rollIndent s.column none .blockMappingStart
      some ((s.allowKey (!s.inFlow)).skip 1 |>.emit .value)

/-- A token that may be a key. -/
def keyToken (s : Scanner) (read : Cursor → Option (Token × Cursor)) : Option Scanner := do
  let s ← s.saveKey
  let (t, cursor) ← read s.cursor
  some (({ s with cursor := cursor }.allowKey false).emit t)

def readQuoted (double : Bool) (c : Cursor) : Option (Token × Cursor) := do
  let (text, c) ← if double then (c.skip 1).doubleQuoted else (c.skip 1).singleQuoted
  some (.scalar (String.ofList text) false, c)

def blockScalar (s : Scanner) (literal : Bool) : Option Scanner := do
  let s ← s.dropKey
  let (text, cursor) ← (s.cursor.skip 1).block literal s.indent
  some (({ s with cursor := cursor }.allowKey true).emit (.scalar (String.ofList text) false))

/-- A plain scalar; after line breaks a key may begin again. -/
def plainScalar (s : Scanner) : Option Scanner := do
  let s ← s.saveKey
  let (text, broken, cursor) ← s.cursor.plain ⟨s.inFlow, (s.indent + 1).toNat⟩
  some (({ s with cursor := cursor }.allowKey broken).emit (.scalar (String.ofList text) true))

def readNamed (make : String → Token) (c : Cursor) : Option (Token × Cursor) :=
  match (c.skip 1).name with
  | some (name, c) => some (make name, c)
  | none => none

/-- At the end of the text all collections end. -/
def streamEnd (s : Scanner) : Option Scanner := do
  let m := s.cursor.mark
  let cursor := if m.column = 0 then s.cursor else { s.cursor with mark := m.newLine 0 }
  let s ← ({ s with cursor := cursor }.unrollIndent (-1)).dropKey
  some ({ s with ended := true, keyAllowed := false }.emit .streamEnd)

/-- Whether a plain scalar may begin with `c` and the text after it.  A tab where a key may begin
is no indentation, so a blank met here begins nothing. -/
def startsPlain (s : Scanner) (c : Char) (rest : List Char) : Bool :=
  !(isBlankOrBreak c || "-?:,[]\x7b\x7d#&*!|>'\"%@`".toList.contains c)
    || (c == '-' && !(rest.head?.any isBlank))
    || (!s.inFlow && (c == '?' || c == ':') && !blankAhead rest)

/-- The token at the cursor. -/
def fetchHere (s : Scanner) : Option Scanner :=
  match s.cursor.rest with
  | [] => s.streamEnd
  | c :: rest =>
    let atStart := s.cursor.mark.column == 0
    if atStart && c == '%' then s.outerToken fun cursor => (cursor.skip 1).directive
    else if atStart && markerAhead (c :: rest) then
      s.outerToken fun cursor => some (if c == '-' then .documentStart else .documentEnd,
        cursor.skip 3)
    else if c == '[' then s.openFlow .flowSequenceStart
    else if c == '\x7b' then s.openFlow .flowMappingStart
    else if c == ']' then s.closeFlow .flowSequenceEnd
    else if c == '\x7d' then s.closeFlow .flowMappingEnd
    else if c == ',' then s.flowEntry
    else if c == '-' && blankAhead rest then s.blockEntry
    else if c == '?' && (s.inFlow || blankAhead rest) then s.explicitKey
    else if c == ':' && (s.inFlow || blankAhead rest) then s.valueSign
    else if c == '*' then s.keyToken (readNamed .alias)
    else if c == '&' then s.keyToken (readNamed .anchor)
    else if c == '!' then s.keyToken fun cursor => cursor.tag s.inFlow
    else if c == '|' && !s.inFlow then s.blockScalar true
    else if c == '>' && !s.inFlow then s.blockScalar false
    else if c == '\'' then s.keyToken (readQuoted false)
    else if c == '"' then s.keyToken (readQuoted true)
    else if s.startsPlain c rest then s.plainScalar
    else none

/-- Reads the next token, with the collections that end before it. -/
def fetch (s : Scanner) : Option Scanner := do
  let s ← s.toNextToken.dropStale
  (s.unrollIndent s.column).fetchHere

/-- The tokens from here on, and whether the text is well formed to its end. -/
def run : Nat → Scanner → List Token × Bool
  | 0, _ => ([], false)
  | fuel + 1, s =>
    match s.held with
    | [] =>
      if s.ended then ([], true)
      else
        match s.fetch with
        | some s => run fuel s
        | none => ([], false)
    | t :: held =>
      match s.dropStale with
      | none => ([], false)
      | some s =>
        if s.headUnsettled && !s.ended then
          match s.fetch with
          | some s => run fuel s
          | none => ([], false)
        else
          let (tokens, complete) := run fuel { s with held := held, released := s.released + 1 }
          (t :: tokens, complete)

end Scanner

/-- The tokens of a text and whether they are all of it.  A text with a control character has
none. -/
def tokensOf (text : List Char) : List Token × Bool :=
  let text := if text.head? == some byteOrderMark then text.drop 1 else text
  if text.all isAllowed then Scanner.run (8 * text.length + 16) (.start text) else ([], false)

end Yaml
end CiPipeline
