import CiPipeline.Yaml.Tokens

/-!
# Node — YAML documents as trees

The tokens of a text are grouped into nodes.  A text that stops being well formed still has a tree:
where it stops stands a `fault`, after everything that came before it.

* `Node`: scalars, sequences, mappings, aliases, faults;
* `Document`: the first document of a text, with the nodes its aliases stand for;
* `Document.ofText`: reads a text.
-/

namespace CiPipeline
namespace Yaml

inductive Node where
  | scalar (tag : Option String) (text : String) (plain : Bool)
  | sequence (tag : Option String) (items : List Node)
  | mapping (tag : Option String) (entries : List (Node × Node))
  /-- Another node, named by the number of its anchor. -/
  | alias (anchor : Nat)
  | fault
deriving Inhabited

namespace Node

/-- What stands where nothing is written. -/
def empty : Node := .scalar none "" true

mutual

/-- The text is well formed up to the end of the node. -/
def isWhole : Node → Bool
  | sequence _ items => areWhole items
  | mapping _ entries => entriesWhole entries
  | fault => false
  | _ => true

def areWhole : List Node → Bool
  | [] => true
  | n :: ns => n.isWhole && areWhole ns

def entriesWhole : List (Node × Node) → Bool
  | [] => true
  | e :: es => entryWhole e && entriesWhole es

def entryWhole : Node × Node → Bool
  | (key, value) => key.isWhole && value.isWhole

end

end Node

structure Document where
  /-- Absent when there is nothing but blanks and comments. -/
  root : Option Node
  /-- The nodes that aliases stand for. -/
  anchored : List (Nat × Node)
  /-- How many scalars, aliases and ends of collections the document has. -/
  size : Nat
  /-- Whether the text is well formed up to the end of the document. -/
  whole : Bool
  /-- Whether anything follows the document. -/
  followed : Bool
deriving Inhabited

/-! ## Reading nodes -/

/-- The tokens ahead, and what is known from those before.  When the text is not well formed there
are no tokens ahead; else the last one is the end of the text. -/
structure Reading where
  tokens : List Token
  /-- The handles of tags and what they stand for. -/
  handles : List (String × String)
  /-- The number that each name of an anchor has. -/
  names : List (String × Nat)
  /-- Which of the nodes read so far has an anchor's number. -/
  owners : List (Nat × Nat)
  /-- The nodes that have anchors, by their places. -/
  nodes : List (Nat × Node)
  size : Nat

/-- What may stand in front of a node. -/
structure Properties where
  anchor : Option String
  tag : Option String

namespace Reading

def fail (s : Reading) : Reading := { s with tokens := [] }

def goTo (s : Reading) (tokens : List Token) : Reading := { s with tokens := tokens }

def count (s : Reading) : Reading := { s with size := s.size + 1 }

/-- The whole tag that a handle and a suffix stand for. -/
def fullTag (s : Reading) (front suffix : String) : Option String :=
  if front = "" then some suffix
  else (s.handles.lookup front).map (· ++ suffix)

/-- An anchor and a tag in either order; absent when the handle of the tag is unknown. -/
def properties (s : Reading) : Option (Properties × Reading) :=
  match s.tokens with
  | .anchor name :: .tag front suffix :: rest =>
    (s.fullTag front suffix).map fun tag => (⟨some name, some tag⟩, s.goTo rest)
  | .tag front suffix :: .anchor name :: rest =>
    (s.fullTag front suffix).map fun tag => (⟨some name, some tag⟩, s.goTo rest)
  | .anchor name :: rest => some (⟨some name, none⟩, s.goTo rest)
  | .tag front suffix :: rest =>
    (s.fullTag front suffix).map fun tag => (⟨none, some tag⟩, s.goTo rest)
  | _ => some (⟨none, none⟩, s)

/-- Begins a node: its anchor takes as number how many names there are so far. -/
def enter (s : Reading) (p : Properties) : Reading :=
  let s :=
    match p.anchor with
    | none => s
    | some name =>
      let number := s.names.length
      { s with
        names := (name, number) :: s.names.filter (·.1 != name)
        owners := (number, s.size) :: s.owners }
  s.count

/-- Ends a node that began at a place. -/
def leave (s : Reading) (p : Properties) (place : Nat) (n : Node) : Node × Reading :=
  (n, if p.anchor.isSome then { s with nodes := (place, n) :: s.nodes } else s)

/-- A node without nodes inside. -/
def leaf (s : Reading) (p : Properties) (n : Node) : Node × Reading :=
  (s.enter p).leave p s.size n

def emptyNode (s : Reading) : Node × Reading :=
  match s.tokens with
  | [] => (.fault, s)
  | _ => (.empty, s.count)

/-- The tag of a scalar; a single exclamation mark says no more than that it is a scalar. -/
def scalarTag (tag : Option String) : Option String := tag.filter (· != "!")

def named (s : Reading) (name : String) : Node × Reading :=
  match s.names.lookup name with
  | some number => (.alias number, s.count)
  | none => (.fault, s.fail)

/-- Whether the next token is one of those before which a node is left out. -/
def atGap (s : Reading) (gaps : List Token) : Bool :=
  match s.tokens with
  | [] => false
  | t :: _ => gaps.contains t

mutual

/-- The node ahead; `block` outside brackets, `indentless` where a sequence need not be indented. -/
def node : Nat → Bool → Bool → Reading → Node × Reading
  | 0, _, _, s => (.fault, s.fail)
  | fuel + 1, block, indentless, s =>
    match s.tokens with
    | .alias name :: rest => (s.goTo rest).named name
    | _ =>
      match s.properties with
      | none => (.fault, s.fail)
      | some (p, s) =>
        match s.tokens with
        | .scalar text plain :: rest =>
          (s.goTo rest).leaf p (.scalar (scalarTag p.tag) text plain)
        | .flowSequenceStart :: rest =>
          let (items, after) := flowItems fuel true ((s.goTo rest).enter p)
          after.leave p s.size (.sequence p.tag items)
        | .flowMappingStart :: rest =>
          let (entries, after) := flowEntries fuel true ((s.goTo rest).enter p)
          after.leave p s.size (.mapping p.tag entries)
        | t :: rest =>
          if indentless && t == .blockEntry then
            let (items, after) := indentlessItems fuel (s.enter p)
            after.leave p s.size (.sequence p.tag items)
          else if block && t == .blockSequenceStart then
            let (items, after) := blockItems fuel ((s.goTo rest).enter p)
            after.leave p s.size (.sequence p.tag items)
          else if block && t == .blockMappingStart then
            let (entries, after) := blockEntries fuel ((s.goTo rest).enter p)
            after.leave p s.size (.mapping p.tag entries)
          else if p.anchor.isSome || p.tag.isSome then s.leaf p (.scalar p.tag "" true)
          else (.fault, s.fail)
        | [] => (.fault, s)

/-- The node ahead, or an empty one before certain tokens. -/
def nodeUnless : Nat → Bool → Bool → List Token → Reading → Node × Reading
  | 0, _, _, _, s => (.fault, s.fail)
  | fuel + 1, block, indentless, gaps, s =>
    if s.atGap gaps then s.emptyNode else node fuel block indentless s

/-- The value after a value sign; without the sign it is empty. -/
def valueUnless : Nat → Bool → List Token → Reading → Node × Reading
  | 0, _, _, s => (.fault, s.fail)
  | fuel + 1, block, gaps, s =>
    match s.tokens with
    | .value :: rest => nodeUnless fuel block block gaps (s.goTo rest)
    | _ => s.emptyNode

def blockItems : Nat → Reading → List Node × Reading
  | 0, s => ([.fault], s.fail)
  | fuel + 1, s =>
    match s.tokens with
    | .blockEntry :: rest =>
      let (n, s) := nodeUnless fuel true false [.blockEntry, .blockEnd] (s.goTo rest)
      let (ns, s) := blockItems fuel s
      (n :: ns, s)
    | .blockEnd :: rest => ([], (s.goTo rest).count)
    | _ => ([.fault], s.fail)

/-- The items of a sequence that is not indented deeper than the mapping around it. -/
def indentlessItems : Nat → Reading → List Node × Reading
  | 0, s => ([.fault], s.fail)
  | fuel + 1, s =>
    match s.tokens with
    | .blockEntry :: rest =>
      let (n, s) :=
        nodeUnless fuel true false [.blockEntry, .key, .value, .blockEnd] (s.goTo rest)
      let (ns, s) := indentlessItems fuel s
      (n :: ns, s)
    | [] => ([.fault], s)
    | _ => ([], s.count)

def blockEntries : Nat → Reading → List (Node × Node) × Reading
  | 0, s => ([(.fault, .fault)], s.fail)
  | fuel + 1, s =>
    match s.tokens with
    | .key :: rest =>
      let (key, s) := nodeUnless fuel true true [.key, .value, .blockEnd] (s.goTo rest)
      let (value, s) := valueUnless fuel true [.key, .value, .blockEnd] s
      let (es, s) := blockEntries fuel s
      ((key, value) :: es, s)
    | .blockEnd :: rest => ([], (s.goTo rest).count)
    | _ => ([(.fault, .fault)], s.fail)

/-- The items between brackets; `first` before any of them. -/
def flowItems : Nat → Bool → Reading → List Node × Reading
  | 0, _, s => ([.fault], s.fail)
  | fuel + 1, first, s =>
    match s.tokens with
    | .flowSequenceEnd :: rest => ([], (s.goTo rest).count)
    | .flowEntry :: rest => if first then flowItem fuel s else flowItem fuel (s.goTo rest)
    | _ => if first then flowItem fuel s else ([.fault], s.fail)

/-- The next item between brackets and those after it.  A key opens a mapping of one entry. -/
def flowItem : Nat → Reading → List Node × Reading
  | 0, s => ([.fault], s.fail)
  | fuel + 1, s =>
    match s.tokens with
    | .flowSequenceEnd :: rest => ([], (s.goTo rest).count)
    | .key :: rest =>
      let (entry, s) := pair fuel (s.goTo rest).count
      let (ns, s) := flowItems fuel false s
      (.mapping none [entry] :: ns, s)
    | _ =>
      let (n, s) := node fuel false false s
      let (ns, s) := flowItems fuel false s
      (n :: ns, s)

/-- The only entry of a mapping between brackets.  A token in place of the key is dropped. -/
def pair : Nat → Reading → (Node × Node) × Reading
  | 0, s => ((.fault, .fault), s.fail)
  | fuel + 1, s =>
    let (key, s) :=
      if s.atGap [.value, .flowEntry, .flowSequenceEnd] then
        let (n, s) := s.emptyNode
        (n, s.goTo (s.tokens.drop 1))
      else node fuel false false s
    let (value, s) := valueUnless fuel false [.flowEntry, .flowSequenceEnd] s
    match s.tokens with
    | [] => ((key, value), s)
    | _ => ((key, value), s.count)

/-- The entries between braces; `first` before any of them. -/
def flowEntries : Nat → Bool → Reading → List (Node × Node) × Reading
  | 0, _, s => ([(.fault, .fault)], s.fail)
  | fuel + 1, first, s =>
    match s.tokens with
    | .flowMappingEnd :: rest => ([], (s.goTo rest).count)
    | .flowEntry :: rest => if first then flowField fuel s else flowField fuel (s.goTo rest)
    | _ => if first then flowField fuel s else ([(.fault, .fault)], s.fail)

/-- The next entry between braces and those after it. -/
def flowField : Nat → Reading → List (Node × Node) × Reading
  | 0, s => ([(.fault, .fault)], s.fail)
  | fuel + 1, s =>
    match s.tokens with
    | .flowMappingEnd :: rest => ([], (s.goTo rest).count)
    | .key :: rest =>
      let (key, s) :=
        nodeUnless fuel false false [.value, .flowEntry, .flowMappingEnd] (s.goTo rest)
      let (value, s) := valueUnless fuel false [.flowEntry, .flowMappingEnd] s
      let (es, s) := flowEntries fuel false s
      ((key, value) :: es, s)
    | _ =>
      let (key, s) := node fuel false false s
      let (value, s) := s.emptyNode
      let (es, s) := flowEntries fuel false s
      ((key, value) :: es, s)

end

/-! ## Documents -/

/-- Whether the document named its version, and the handles it declared. -/
structure Directives where
  version : Bool
  handles : List (String × String)

/-- The directives in front of a document.  A version or a handle may be given once. -/
def directives (d : Directives) : List Token → Option (Directives × List Token)
  | .versionDirective major minor :: rest =>
    if d.version || major != 1 || !(minor == 1 || minor == 2) then none
    else directives { d with version := true } rest
  | .tagDirective front expansion :: rest =>
    if d.handles.any (·.1 == front) then none
    else directives { d with handles := (front, expansion) :: d.handles } rest
  | tokens => some (d, tokens)

/-- The handles that need no directive. -/
def standardHandles : List (String × String) := [("!", "!"), ("!!", "tag:yaml.org,2002:")]

def ofTokens (tokens : List Token) (handles : List (String × String)) : Reading :=
  ⟨tokens, handles ++ standardHandles, [], [], [], 0⟩

/-- The content of a document that was announced by a marker. -/
def content (s : Reading) : Node × Reading :=
  match s.tokens with
  | .versionDirective .. :: _ => s.emptyNode
  | .tagDirective .. :: _ => s.emptyNode
  | .documentStart :: _ => s.emptyNode
  | .documentEnd :: _ => s.emptyNode
  | .streamEnd :: _ => s.emptyNode
  | _ => node (8 * s.tokens.length + 8) true false s

def isDocumentEnd (t : Token) : Bool := t == .documentEnd

/-- The document with its root read. -/
def finish (root : Node) (s : Reading) : Document where
  root := some root
  anchored := s.owners.filterMap fun (number, place) =>
    (s.nodes.lookup place).map fun n => (number, n)
  size := s.size
  whole := !s.tokens.isEmpty
  followed := (s.tokens.dropWhile isDocumentEnd).head? != some .streamEnd

end Reading

namespace Document

/-- A document of which nothing can be read. -/
def broken : Document := ⟨some .fault, [], 0, false, false⟩

def blank : Document := ⟨none, [], 1, true, false⟩

/-- A document after its directives. -/
def announced (d : Reading.Directives) : List Token → Document
  | .documentStart :: rest =>
    let (root, s) := (Reading.ofTokens rest d.handles).content
    s.finish root
  | _ => broken

def ofTokens (tokens : List Token) : Document :=
  match tokens with
  | [] => broken
  | .streamEnd :: _ => blank
  | t :: _ =>
    match Reading.directives ⟨false, []⟩ tokens with
    | none => broken
    | some (d, rest) =>
      match t with
      | .versionDirective .. => announced d rest
      | .tagDirective .. => announced d rest
      | .documentStart => announced d rest
      | _ =>
        let s := Reading.ofTokens tokens []
        let (root, s) := s.node (8 * tokens.length + 8) true false
        s.finish root

/-- The first document of a text. -/
def ofText (text : String) : Document := ofTokens (tokensOf text.toList).1

/-- The node an alias stands for. -/
def anchoredAt (d : Document) (number : Nat) : Option Node := d.anchored.lookup number

end Document
end Yaml
end CiPipeline
