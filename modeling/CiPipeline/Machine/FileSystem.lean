import CiPipeline.IoProblem
import CiPipeline.Path

/-!
# FileSystem — files, directories and links

A file system maps locations, which are lists of names from the root, to entries.  Paths are
followed name by name; links are replaced by what they point to, up to a limit.

* `FileSystem.follow`: where the parts of a path lead;
* `FileSystem.locate`: where a path leads, seen from a working directory;
* `readBytes`, `readText`, `writeFile`, `createDirectory`, `createDirectories`, `remove`: the
  operations on paths.
-/

namespace CiPipeline

abbrev Location := List String

namespace Location

def path (l : Location) : Path := ⟨"/" ++ "/".intercalate l⟩

end Location

/-- Contents are compared byte by byte. -/
instance (priority := 2000) decidableEqBytes : DecidableEq ByteArray := ByteArray.instDecidableEq

inductive Entry where
  | file (contents : ByteArray) (executable : Bool)
  | directory
  | link (target : Path)
  /-- Reads as empty and keeps nothing. -/
  | device
  /-- One of the programs of the machine. -/
  | program (name : String)
deriving DecidableEq, Inhabited

structure FileSystem where
  entries : List (Location × Entry)
deriving DecidableEq, Inhabited

namespace FileSystem

/-! ## Entries -/

def entryIn (location : Location) : List (Location × Entry) → Option Entry
  | [] => none
  | (l, e) :: rest => if l = location then some e else entryIn location rest

/-- The root is always a directory. -/
def entry? (fs : FileSystem) (location : Location) : Option Entry :=
  if location.isEmpty then some .directory else entryIn location fs.entries

def isDirectory (fs : FileSystem) (location : Location) : Bool :=
  fs.entry? location == some .directory

/-- Files with contents, programs among them. -/
def isRegular (fs : FileSystem) (location : Location) : Bool :=
  match fs.entry? location with
  | some (.file ..) => true
  | some (.program _) => true
  | _ => false

theorem mem_of_entryIn {location : Location} {e : Entry} {entries : List (Location × Entry)}
    (h : entryIn location entries = some e) : (location, e) ∈ entries := by
  induction entries with
  | nil => cases h
  | cons first rest ih =>
      obtain ⟨l, held⟩ := first
      unfold entryIn at h
      split at h
      case isTrue same =>
        cases h
        exact same ▸ List.mem_cons_self
      case isFalse => exact List.mem_cons_of_mem _ (ih h)

theorem mem_of_isRegular {fs : FileSystem} {location : Location}
    (h : fs.isRegular location = true) : ∃ e, (location, e) ∈ fs.entries := by
  cases held : fs.entry? location with
  | none => simp [isRegular, held] at h
  | some e =>
      cases location with
      | nil =>
          -- The root is a directory and no file.
          cases held
          simp [isRegular, entry?] at h
      | cons name rest => exact ⟨e, mem_of_entryIn held⟩

def replaceIn (location : Location) (e : Entry) : List (Location × Entry) → List (Location × Entry)
  | [] => [(location, e)]
  | (l, old) :: rest => if l = location then (l, e) :: rest else (l, old) :: replaceIn location e rest

def put (fs : FileSystem) (location : Location) (e : Entry) : FileSystem :=
  ⟨replaceIn location e fs.entries⟩

/-- Removes a location and everything below it. -/
def erase (fs : FileSystem) (location : Location) : FileSystem :=
  ⟨fs.entries.filter fun entry => !location.isPrefixOf entry.1⟩

/-- The names in a directory, sorted. -/
def children (fs : FileSystem) (location : Location) : List String :=
  (fs.entries.filterMap fun entry =>
    if entry.1.dropLast = location then entry.1.getLast? else none).mergeSort (· ≤ ·)

/-! ## Following paths -/

/-- How many links may be followed for one path. -/
def linkLimit : Nat := 40

def longestName : Nat := 255

def longestPath : Nat := 4095

/-- Where the parts lead from `here`, and whether something is there.  Only the last part may be
missing. -/
def follow (fs : FileSystem) (links : Nat) (here : Location) (parts : List String) :
    Except IoProblem (Location × Bool) :=
  match parts with
  | [] => .ok (here, true)
  | part :: rest =>
    if !fs.isDirectory here then .error .notDirectory
    else if part = "" ∨ part = "." then follow fs links here rest
    else if part = ".." then follow fs links here.dropLast rest
    else if longestName < part.utf8ByteSize then .error .nameTooLong
    else
      match fs.entry? (here ++ [part]) with
      | none => if rest.isEmpty then .ok (here ++ [part], false) else .error .notFound
      | some (.link target) =>
        match links with
        | 0 => .error .tooManyLinks
        | links + 1 =>
          follow fs links (if target.isAbsolute then [] else here) (target.components ++ rest)
      | some _ => follow fs links (here ++ [part]) rest
termination_by (links, parts.length)

/-- Where a path leads, and whether something is there. -/
def locate (fs : FileSystem) (directory : Location) (p : Path) :
    Except IoProblem (Location × Bool) :=
  if p.text.toList.contains '\x00' then .error .zeroByteInName
  else if p.text.isEmpty then .error .notFound
  else if longestPath < p.text.utf8ByteSize then .error .nameTooLong
  else fs.follow linkLimit (if p.isAbsolute then [] else directory) p.components

/-- The location of something that exists. -/
def locateExisting (fs : FileSystem) (directory : Location) (p : Path) :
    Except IoProblem Location :=
  match fs.locate directory p with
  | .ok (location, true) => .ok location
  | .ok (_, false) => .error .notFound
  | .error problem => .error problem

/-- The location of a name itself, even when it is a link. -/
def locateName (fs : FileSystem) (directory : Location) (p : Path) : Except IoProblem Location :=
  match p.components.getLast? with
  | none => .error .notFound
  | some name =>
    if name = "" ∨ name = "." ∨ name = ".." then fs.locateExisting directory p
    else
      match fs.follow linkLimit (if p.isAbsolute then [] else directory) p.components.dropLast with
      | .ok (parent, true) =>
        if fs.isDirectory parent then .ok (parent ++ [name]) else .error .notDirectory
      | .ok (_, false) => .error .notFound
      | .error problem => .error problem

def entryAt (fs : FileSystem) (directory : Location) (p : Path) : Option Entry :=
  match fs.locateExisting directory p with
  | .ok location => fs.entry? location
  | .error _ => none

def present (fs : FileSystem) (directory : Location) (p : Path) : Bool :=
  (fs.entryAt directory p).isSome

def isDirectoryAt (fs : FileSystem) (directory : Location) (p : Path) : Bool :=
  fs.entryAt directory p == some .directory

def isRegularAt (fs : FileSystem) (directory : Location) (p : Path) : Bool :=
  match fs.locateExisting directory p with
  | .ok location => fs.isRegular location
  | .error _ => false

/-! ## Reading -/

/-- Programs are no text: they begin with bytes that no text contains. -/
def programBytes : ByteArray := ⟨#[0x7F, 0x45, 0x4C, 0x46, 0xFF]⟩

def readBytes (fs : FileSystem) (directory : Location) (p : Path) : Except IoProblem ByteArray :=
  match fs.locateExisting directory p with
  | .error problem => .error problem
  | .ok location =>
    match fs.entry? location with
    | some (.file contents _) => .ok contents
    | some .directory => .error .isDirectory
    | some .device => .ok .empty
    | some (.program _) => .ok programBytes
    | _ => .error .notFound

def readText (fs : FileSystem) (directory : Location) (p : Path) : Except IoProblem String :=
  match fs.readBytes directory p with
  | .error problem => .error problem
  | .ok bytes =>
    match String.fromUTF8? bytes with
    | some text => .ok text
    | none => .error .notText

/-! ## Writing -/

/-- Writes a whole file; with `append` the old contents stay in front. -/
def writeFile (fs : FileSystem) (directory : Location) (p : Path) (bytes : ByteArray)
    (append : Bool) : Except IoProblem FileSystem :=
  match fs.locate directory p with
  | .error problem => .error problem
  | .ok (location, false) => .ok (fs.put location (.file bytes false))
  | .ok (location, true) =>
    match fs.entry? location with
    | some (.file old executable) =>
      .ok (fs.put location (.file (if append then old ++ bytes else bytes) executable))
    | some .directory => .error .isDirectory
    | some .device => .ok fs
    | _ => .error .permissionDenied

def createDirectory (fs : FileSystem) (directory : Location) (p : Path) :
    Except IoProblem FileSystem :=
  match fs.locateName directory p with
  | .error problem => .error problem
  | .ok location =>
    if (fs.entry? location).isSome then .error .fileExists
    else .ok (fs.put location .directory)

/-- Creates a directory and the directories above it, as far as they are missing.  The last number
bounds how many levels are looked at. -/
def createDirectoriesFrom (fs : FileSystem) (directory : Location) (p : Path) :
    Nat → Except IoProblem FileSystem
  | 0 => .error .nameTooLong
  | levels + 1 =>
    if p.text.isEmpty then .ok fs
    else
      match fs.createDirectory directory p with
      | .ok fs => .ok fs
      | .error .notFound =>
        match p.parent? with
        | none => .error .notFound
        | some parent =>
          match createDirectoriesFrom fs directory parent levels with
          | .error problem => .error problem
          | .ok fs =>
            match fs.createDirectory directory p with
            | .ok fs => .ok fs
            | .error problem =>
              if fs.isDirectoryAt directory p then .ok fs else .error problem
      | .error problem => if fs.isDirectoryAt directory p then .ok fs else .error problem

def createDirectories (fs : FileSystem) (directory : Location) (p : Path) :
    Except IoProblem FileSystem :=
  fs.createDirectoriesFrom directory p (p.text.length + 1)

/-- Removes a name with everything below it. -/
def remove (fs : FileSystem) (directory : Location) (p : Path) : Except IoProblem FileSystem :=
  match fs.locateName directory p with
  | .error problem => .error problem
  | .ok location =>
    if (fs.entry? location).isSome then .ok (fs.erase location) else .error .notFound

end FileSystem
end CiPipeline
