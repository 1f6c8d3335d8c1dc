import CiPipeline.Machine.FileSystem
import CiPipeline.Text.Runs
import CiPipeline.Yaml.Decode

/-!
# Config — settings of the command line

The settings are a YAML mapping.  Settings that are left out have defaults and names that are no
settings are passed over.  A setting is a text: whatever a scalar denotes, its text is taken.

* `Config`: the settings and their defaults;
* `ConfigError`: why they cannot be read;
* `Config.ofText`: the settings in a text;
* `Config.load`, `Config.discover`: the settings in a file.
-/

namespace CiPipeline

structure Config where
  /-- Where pipelines run; the working directory when absent. -/
  baseDir : Option Path
  logLevel : String
  /-- The provider of exports that name none. -/
  defaultProvider : String
  /-- The definition file of commands that name none. -/
  definition : Path
deriving DecidableEq, Repr

inductive ConfigError where
  | read (path : Path) (problem : IoProblem)
  | parse (path : Path) (reason : String)
deriving DecidableEq, Repr

namespace ConfigError

def message : ConfigError → String
  | read path problem => "Failed to read config " ++ path.text ++ ": " ++ problem.message
  | parse path reason => "Invalid config " ++ path.text ++ ": " ++ reason

end ConfigError

namespace Config

open Yaml

instance : Inhabited Config := ⟨⟨none, "info", "travis", ⟨"pipelyne.yml"⟩⟩⟩

/-! ## Settings in a document -/

/-- The text of a scalar. -/
def nodeText (place : Place) (expected : String) : Node → Except DecodeError String
  | .scalar _ text _ => .ok text
  | .sequence .. => .error (place.error (.wrongType .list expected))
  | .mapping .. => .error (place.error (.wrongType .record expected))
  | _ => .error .malformed

/-- The text of a scalar that may be null. -/
def nodeText? (place : Place) (expected : String) (n : Node) :
    Except DecodeError (Option String) :=
  match n with
  | .scalar tag text true =>
    match tag with
    | none => .ok (if text.isEmpty || isNullWord text then none else some text)
    | some name =>
      if name = StandardTag.null then
        if isNullWord text then .ok none else .error (.of (misfit text "null"))
      else .ok (some text)
  | n => (nodeText place expected n).map some

inductive Setting where
  | baseDir
  | logLevel
  | defaultProvider
  | definition
deriving DecidableEq, Repr

namespace Setting

def name : Setting → String
  | baseDir => "baseDir"
  | logLevel => "logLevel"
  | defaultProvider => "defaultProvider"
  | definition => "definition"

def all : List Setting := [baseDir, logLevel, defaultProvider, definition]

def ofName? (name : String) : Option Setting := all.find? (·.name = name)

end Setting

/-- The settings with one of them taken from a node. -/
def assign (c : Config) (setting : Setting) (place : Place) (n : Node) :
    Except DecodeError Config :=
  match setting with
  | .baseDir => do
    let text ← nodeText? place "path string" n
    .ok { c with baseDir := text.map Path.mk }
  | .logLevel => do .ok { c with logLevel := ← nodeText place "a string" n }
  | .defaultProvider => do .ok { c with defaultProvider := ← nodeText place "a string" n }
  | .definition => do .ok { c with definition := ⟨← nodeText place "path string" n⟩ }

/-- The node itself, or the node it stands for. -/
def target (d : Document) (n : Node) : Node := d.bounded (d.follow n)

/-- The settings of the entries, after those that were assigned already. -/
def assignAll (d : Document) (assigned : List Setting) (c : Config) :
    List (Node × Node) → Except DecodeError Config
  | [] => .ok c
  | (key, value) :: rest => do
    let name ← nodeText .root "field identifier" (target d key)
    match Setting.ofName? name with
    | some setting =>
      if assigned.contains setting then .error (.of (.duplicateField name))
      else
        let c ← c.assign setting (Document.valuePlace .root key) (target d value)
        assignAll d (setting :: assigned) c rest
    | none => if value.isWhole then assignAll d assigned c rest else .error .malformed

def ofDocument (d : Document) : Except DecodeError Config :=
  let unfit (found : Found) : Except DecodeError Config :=
    .error (.of (.wrongType found "struct Config"))
  match d.root with
  | none => .ok default
  | some (.scalar tag text plain) =>
    if plain && text.isEmpty then .ok default
    else
      match scalarFound tag text plain with
      | .ok found => unfit found
      | .error problem => .error (.of problem)
  | some (.sequence ..) => unfit .list
  | some (.mapping _ entries) => assignAll d [] default entries
  | some _ => .error .malformed

/-- A blank text says nothing, whatever its blanks are. -/
def ofText (text : String) : Except DecodeError Config :=
  if Text.isBlank text.toList then .ok default else Document.decode ofDocument text

/-! ## Settings in a file -/

def load (fs : FileSystem) (directory : Location) (path : Path) : Except ConfigError Config :=
  match fs.readText directory path with
  | .error problem => .error (.read path problem)
  | .ok text =>
    match ofText text with
    | .ok c => .ok c
    | .error e => .error (.parse path (e.message .yaml))

/-- The name under which settings are looked for. -/
def fileName : Path := ⟨".pipelyne.yml"⟩

/-- The settings in a directory, or the defaults when it has no file of them. -/
def discover (fs : FileSystem) (directory : Location) (place : Path) : Except ConfigError Config :=
  let path := place.join fileName
  if fs.isRegularAt directory path then load fs directory path else .ok default

end Config
end CiPipeline
