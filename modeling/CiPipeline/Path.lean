/-!
# Path — file names as they are written

A path is a text.  Joining and taking the parent work on the text alone and never look at a file
system.

* `Path.join`: a path relative to another one;
* `Path.components`: the parts that are followed when the path is looked up;
* `Path.parent?`: the path of the directory that holds the last component.
-/

namespace CiPipeline

structure Path where
  text : String
deriving DecidableEq, Repr, Inhabited

namespace Path

def isAbsolute (p : Path) : Bool := p.text.toList.head? == some '/'

/-- An absolute path replaces the base; any other is written after it. -/
def join (base path : Path) : Path :=
  if path.isAbsolute || base.text.isEmpty then path
  else if base.text.toList.getLast? == some '/' then ⟨base.text ++ path.text⟩
  else ⟨base.text ++ "/" ++ path.text⟩

/-! ## Parts -/

/-- The parts between slashes, empty ones included. -/
def split (cs : List Char) : List (List Char) :=
  match cs with
  | [] => [[]]
  | c :: rest =>
    if c = '/' then [] :: split rest
    else
      match split rest with
      | [] => [[c]]
      | part :: parts => (c :: part) :: parts

/-- The parts that are followed from the root or from the working directory. -/
def components (p : Path) : List String :=
  if p.text.isEmpty then []
  else
    let parts := (split p.text.toList).map String.ofList
    if p.isAbsolute then parts.drop 1 else parts

/-! ## Parent -/

/-- A part that adds nothing to a path. -/
def redundant (part : List Char) : Bool := part.isEmpty || part == ['.']

/-- Drops redundant parts from the end, the first part apart. -/
def trimParts : List (List Char) → List (List Char)
  | [] => []
  | first :: rest => first :: (rest.reverse.dropWhile redundant).reverse

def ofParts : List (List Char) → Path
  | [[]] => ⟨"/"⟩
  | parts => ⟨"/".intercalate (parts.map String.ofList)⟩

/-- The directory that holds the last name; the root and the empty path have none. -/
def parent? (p : Path) : Option Path :=
  if p.text.isEmpty then none
  else
    match trimParts (split p.text.toList) with
    | [] => none
    | [first] => if first.isEmpty then none else some ⟨""⟩
    | parts => some (ofParts (trimParts parts.dropLast))

end Path
end CiPipeline
