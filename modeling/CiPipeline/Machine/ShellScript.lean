/-!
# ShellScript — scripts of the shell as data

A script is a list of simple commands, each run always or only after success or failure of the one
before it.  Words keep apart what is literal and what is expanded.  Pipes, subshells and compound
commands are not part of the language.

* `ShellWord`, `Redirection`, `SimpleCommand`, `ShellScript`: the parts of a script;
* `ShellScript.read`: the script of a text.
-/

namespace CiPipeline

inductive WordPiece where
  | literal (cs : List Char)
  /-- A parameter; outside quotes its value is split into words. -/
  | parameter (name : List Char) (quoted : Bool)
deriving DecidableEq, Repr

/-- The pieces of a word, and whether any of it was quoted. -/
structure ShellWord where
  pieces : List WordPiece
  quoted : Bool
deriving DecidableEq, Repr

inductive Redirection where
  | file (descriptor : Nat) (append : Bool) (target : ShellWord)
  | duplicate (descriptor target : Nat)
deriving DecidableEq, Repr

inductive Connection where
  | always
  | afterSuccess
  | afterFailure
deriving DecidableEq, Repr

structure SimpleCommand where
  connection : Connection
  words : List ShellWord
  redirections : List Redirection
deriving DecidableEq, Repr

abbrev ShellScript := List SimpleCommand

namespace ShellScript

/-! ## Words -/

def isNameStart (c : Char) : Bool := c.isAlpha || c = '_'

def isNameChar (c : Char) : Bool := c.isAlphanum || c = '_'

/-- Characters that end a word outside quotes. -/
def endsWord (c : Char) : Bool := " \t\n;&|<>()".toList.contains c

/-- The parameter after a dollar sign, and the text after it; nothing for a substitution. -/
def readParameter (cs : List Char) : Option (Option (List Char) × List Char) :=
  match cs with
  | '(' :: _ => none
  | '\x7b' :: rest =>
    let name := rest.takeWhile (· != '\x7d')
    match rest.dropWhile (· != '\x7d') with
    | _ :: rest => if name.isEmpty then none else some (some name, rest)
    | [] => none
  | c :: rest =>
    if isNameStart c then some (some (c :: rest.takeWhile isNameChar), rest.dropWhile isNameChar)
    else if c.isDigit || "?#$!@*-".toList.contains c then some (some [c], rest)
    else some (none, c :: rest)
  | [] => some (none, [])

def addLiteral (c : Char) (w : ShellWord) : ShellWord :=
  match w.pieces with
  | .literal cs :: rest => ⟨.literal (c :: cs) :: rest, w.quoted⟩
  | pieces => ⟨.literal [c] :: pieces, w.quoted⟩

def addPiece (piece : WordPiece) (w : ShellWord) : ShellWord := ⟨piece :: w.pieces, w.quoted⟩

/-- A word and the text after it; `double` inside double quotes. -/
def readWord : Nat → Bool → List Char → Option (ShellWord × List Char)
  | 0, _, _ => none
  | _ + 1, double, [] => if double then none else some (⟨[], false⟩, [])
  | fuel + 1, false, '\'' :: rest => do
    let inside := rest.takeWhile (· != '\'')
    match rest.dropWhile (· != '\'') with
    | _ :: rest =>
      let (w, rest) ← readWord fuel false rest
      some (⟨.literal inside :: w.pieces, true⟩, rest)
    | [] => none
  | fuel + 1, double, '"' :: rest => do
    let (w, rest) ← readWord fuel (!double) rest
    some (⟨w.pieces, true⟩, rest)
  | fuel + 1, double, '\\' :: '\n' :: rest => readWord fuel double rest
  | fuel + 1, double, '\\' :: c :: rest => do
    let (w, rest) ← readWord fuel double rest
    if double && !"$`\"\\".toList.contains c then
      some (addLiteral '\\' (addLiteral c w), rest)
    else some (addPiece (.literal [c]) ⟨w.pieces, true⟩, rest)
  | fuel + 1, double, '$' :: rest => do
    let (name, rest) ← readParameter rest
    let (w, rest) ← readWord fuel double rest
    match name with
    | some name => some (addPiece (.parameter name double) w, rest)
    | none => some (addLiteral '$' w, rest)
  | fuel + 1, double, c :: rest =>
    if c = '`' then none
    else if !double && endsWord c then some (⟨[], false⟩, c :: rest)
    else do
      let (w, rest) ← readWord fuel double rest
      some (addLiteral c w, rest)

/-! ## Commands -/

def empty (connection : Connection) : SimpleCommand := ⟨connection, [], []⟩

def isEmpty (c : SimpleCommand) : Bool := c.words.isEmpty && c.redirections.isEmpty

/-- Puts a finished command in front of the rest of the script. -/
def finish (c : SimpleCommand) (rest : ShellScript) : ShellScript :=
  if isEmpty c then rest else c :: rest

/-- The target of a redirection after its mark. -/
def readRedirection (fuel descriptor : Nat) (cs : List Char) :
    Option (Redirection × List Char) :=
  match cs with
  | '&' :: c :: rest =>
    if c.isDigit then some (.duplicate descriptor (c.toNat - '0'.toNat), rest) else none
  | cs =>
    let (append, cs) :=
      match cs with
      | '>' :: rest => (true, rest)
      | rest => (false, rest)
    match readWord fuel false (cs.dropWhile fun c => c = ' ' || c = '\t') with
    | some (target, rest) =>
      if target.pieces.isEmpty then none else some (.file descriptor append target, rest)
    | none => none

/-- The commands of a text; `current` has been read in part, its words last one first. -/
def commands : Nat → SimpleCommand → List Char → Option ShellScript
  | 0, _, _ => none
  | _ + 1, current, [] => some (finish ⟨current.connection, current.words.reverse,
      current.redirections.reverse⟩ [])
  | fuel + 1, current, c :: rest =>
    let done : SimpleCommand :=
      ⟨current.connection, current.words.reverse, current.redirections.reverse⟩
    let redirect (descriptor : Nat) (rest : List Char) : Option ShellScript :=
      match readRedirection fuel descriptor rest with
      | some (r, rest) =>
        commands fuel ⟨current.connection, current.words, r :: current.redirections⟩ rest
      | none => none
    if c = ' ' ∨ c = '\t' then commands fuel current rest
    else if c = '#' then commands fuel current (rest.dropWhile (· != '\n'))
    else if c = '\n' ∨ c = ';' then (commands fuel (empty .always) rest).map (finish done)
    else if c = '&' ∧ rest.head? = some '&' ∧ !isEmpty done then
      (commands fuel (empty .afterSuccess) (rest.drop 1)).map (finish done)
    else if c = '|' ∧ rest.head? = some '|' ∧ !isEmpty done then
      (commands fuel (empty .afterFailure) (rest.drop 1)).map (finish done)
    else if c = '>' then redirect 1 rest
    else if c.isDigit ∧ rest.head? = some '>' then redirect (c.toNat - '0'.toNat) (rest.drop 1)
    else if endsWord c then none
    else
      match readWord fuel false (c :: rest) with
      | some (w, rest) => commands fuel ⟨current.connection, w :: current.words, current.redirections⟩ rest
      | none => none

/-- The script of a text; nothing when it is no script. -/
def read (text : String) : Option ShellScript :=
  commands (2 * text.length + 2) (empty .always) text.toList

end ShellScript
end CiPipeline
