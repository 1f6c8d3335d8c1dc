import CiPipeline.Dump.Format
import CiPipeline.Export.Provider

/-!
# Args — the arguments of the command line

Arguments are read from left to right: options with one or two dashes, the name of a command, and
the operands of the command.  Two options belong to every command and may stand in front of it too.

* `Invocation`: what is asked for;
* `Stop`: why nothing is asked for;
* `Invocation.ofArgs`: reads the arguments.
-/

namespace CiPipeline
namespace CommandLine

inductive Shell where
  | bash
  | zsh
  | fish
  | powerShell
deriving DecidableEq, Repr

namespace Shell

def name : Shell → String
  | bash => "bash"
  | zsh => "zsh"
  | fish => "fish"
  | powerShell => "power-shell"

def all : List Shell := [bash, zsh, fish, powerShell]

def ofName? (s : String) : Option Shell := all.find? (·.name = s)

end Shell

inductive Subcommand where
  | run (file baseDir : Option Path)
  | «export» (file : Option Path) (provider : Option Provider) (output : Option Path)
  | «show» (file : Option Path) (format : DumpFormat)
  | completions (shell : Shell) (output : Option Path)
deriving DecidableEq, Repr

structure Invocation where
  config : Option Path
  verbose : Bool
  subcommand : Subcommand
deriving DecidableEq, Repr

/-- Why reading stops before there is an invocation. -/
inductive Stop where
  | help
  | version
  | misuse
deriving DecidableEq, Repr

/-! ## Options -/

structure OptionSpec where
  name : String
  letter : Option Char
  /-- The test its value has to pass, when it has one. -/
  value : Option (String → Bool)

namespace OptionSpec

/-- File names must not be empty. -/
def isFileName (s : String) : Bool := !s.isEmpty

def config : OptionSpec := ⟨"config", none, some isFileName⟩

def verbose : OptionSpec := ⟨"verbose", some 'v', none⟩

def help : OptionSpec := ⟨"help", some 'h', none⟩

def version : OptionSpec := ⟨"version", some 'V', none⟩

def baseDir : OptionSpec := ⟨"base-dir", some 'b', some isFileName⟩

def provider : OptionSpec := ⟨"provider", some 'p', some fun s => (Provider.ofId s).isOk⟩

def output : OptionSpec := ⟨"output", some 'o', some isFileName⟩

def format : OptionSpec := ⟨"format", some 'f', some fun s => (DumpFormat.ofName s).isOk⟩

/-- The options of every command. -/
def shared : List OptionSpec := [config, verbose, help]

end OptionSpec

/-- What was read so far: the options with their values, and the operands. -/
structure Gathered where
  options : List (String × String)
  operands : List String

namespace Gathered

def start : Gathered := ⟨[], []⟩

def value? (g : Gathered) (spec : OptionSpec) : Option String := g.options.lookup spec.name

def path? (g : Gathered) (spec : OptionSpec) : Option Path := (g.value? spec).map Path.mk

/-- One more option; each may be given once. -/
def add (g : Gathered) (spec : OptionSpec) (value : String) : Except Stop Gathered :=
  if spec.name = OptionSpec.help.name then .error .help
  else if spec.name = OptionSpec.version.name then .error .version
  else if (g.value? spec).isSome then .error .misuse
  else if spec.value.all fun test => test value then
    .ok { g with options := (spec.name, value) :: g.options }
  else .error .misuse

end Gathered

/-- An argument that is no value: it begins with a dash and goes on. -/
def isDashed (arg : String) : Bool :=
  match arg.toList with
  | '-' :: _ :: _ => true
  | _ => false

/-- The value of an option that stands in the next argument. -/
def nextValue : List String → Except Stop (String × List String)
  | [] => .error .misuse
  | arg :: rest => if isDashed arg then .error .misuse else .ok (arg, rest)

/-- An option with two dashes, its value after an equals sign or in the next argument. -/
def readLong (specs : List OptionSpec) (g : Gathered) (text : List Char) (rest : List String) :
    Except Stop (Gathered × List String) := do
  let name := String.ofList (text.takeWhile (· != '='))
  let inline? : Option String :=
    match text.dropWhile (· != '=') with
    | _ :: value => some (String.ofList value)
    | [] => none
  match specs.find? (·.name = name) with
  | none => .error .misuse
  | some spec =>
    match spec.value.isSome, inline? with
    | false, none => do .ok (← g.add spec "", rest)
    | false, some _ => .error .misuse
    | true, some value => do .ok (← g.add spec value, rest)
    | true, none => do
      let (value, rest) ← nextValue rest
      .ok (← g.add spec value, rest)

/-- Letters after one dash; the value of an option is what follows its letter, if anything does. -/
def readLetters (specs : List OptionSpec) (g : Gathered) (rest : List String) :
    List Char → Except Stop (Gathered × List String)
  | [] => .ok (g, rest)
  | letter :: letters =>
    match specs.find? (·.letter = some letter) with
    | none => .error .misuse
    | some spec =>
      if spec.value.isNone then do
        readLetters specs (← g.add spec "") rest letters
      else
        match letters with
        | [] => do
          let (value, rest) ← nextValue rest
          .ok (← g.add spec value, rest)
        | '=' :: value => do .ok (← g.add spec (String.ofList value), rest)
        | value => do .ok (← g.add spec (String.ofList value), rest)

/-- What the operands of a command may be. -/
structure OperandSpec where
  valid : String → Bool
  atMost : Nat

def addOperand (spec : OperandSpec) (g : Gathered) (arg : String) : Except Stop Gathered :=
  if g.operands.length < spec.atMost && spec.valid arg then
    .ok { g with operands := g.operands ++ [arg] }
  else .error .misuse

/-- The options and operands of a command.  The number bounds how many arguments are read. -/
def readArgs (specs : List OptionSpec) (operand : OperandSpec) :
    Nat → Gathered → List String → Except Stop Gathered
  | 0, g, _ => .ok g
  | _ + 1, g, [] => .ok g
  | fuel + 1, g, arg :: rest =>
    match arg.toList with
    | ['-', '-'] => rest.foldlM (addOperand operand) g
    | '-' :: '-' :: text => do
      let (g, rest) ← readLong specs g text rest
      readArgs specs operand fuel g rest
    | '-' :: letter :: letters => do
      let (g, rest) ← readLetters specs g rest (letter :: letters)
      readArgs specs operand fuel g rest
    | _ => do readArgs specs operand fuel (← addOperand operand g arg) rest

/-! ## Commands -/

def fileOperand : OperandSpec := ⟨OptionSpec.isFileName, 1⟩

def shellOperand : OperandSpec := ⟨fun s => (Shell.ofName? s).isSome, 1⟩

def readCommand (specs : List OptionSpec) (operand : OperandSpec) (args : List String) :
    Except Stop Gathered :=
  readArgs (OptionSpec.shared ++ specs) operand args.length .start args

/-- The names of the commands. -/
def commandNames : List String := ["run", "export", "show", "completions", "help"]

/-- Help about a command, or about all of them. -/
def helpCommand : List String → Stop
  | [] => .help
  | [name] => if commandNames.contains name then .help else .misuse
  | _ => .misuse

/-- What a command was asked to do, from its options and operands. -/
def subcommandOf (name : String) (args : List String) : Except Stop (Gathered × Subcommand) :=
  match name with
  | "run" => do
    let g ← readCommand [.baseDir] fileOperand args
    .ok (g, .run (g.operands.head?.map Path.mk) (g.path? .baseDir))
  | "export" => do
    let g ← readCommand [.provider, .output] fileOperand args
    let provider := (g.value? .provider).bind fun s => (Provider.ofId s).toOption
    .ok (g, .export (g.operands.head?.map Path.mk) provider (g.path? .output))
  | "show" => do
    let g ← readCommand [.format] fileOperand args
    let format := (g.value? .format).bind fun s => (DumpFormat.ofName s).toOption
    .ok (g, .show (g.operands.head?.map Path.mk) (format.getD default))
  | "completions" => do
    let g ← readCommand [.output] shellOperand args
    match g.operands.head?.bind Shell.ofName? with
    | some shell => .ok (g, .completions shell (g.path? .output))
    | none => .error .misuse
  | "help" => .error (helpCommand args)
  | _ => .error .misuse

/-- The invocation of a command, after the options in front of it. -/
def invocationOf (front : Gathered) (name : String) (args : List String) :
    Except Stop Invocation := do
  let (g, subcommand) ← subcommandOf name args
  let config := (g.path? .config).or (front.path? .config)
  let verbose := (g.value? .verbose).isSome || (front.value? .verbose).isSome
  .ok ⟨config, verbose, subcommand⟩

/-- The options in front of the command, and the command with its arguments. -/
def readFront : Nat → Gathered → List String → Except Stop Invocation
  | 0, _, _ => .error .misuse
  | _ + 1, _, [] => .error .misuse
  | fuel + 1, g, arg :: rest =>
    let specs := OptionSpec.version :: OptionSpec.shared
    match arg.toList with
    | ['-', '-'] => .error .misuse
    | '-' :: '-' :: text => do
      let (g, rest) ← readLong specs g text rest
      readFront fuel g rest
    | '-' :: letter :: letters => do
      let (g, rest) ← readLetters specs g rest (letter :: letters)
      readFront fuel g rest
    | _ => invocationOf g arg rest

namespace Invocation

def ofArgs (args : List String) : Except Stop Invocation :=
  readFront args.length .start args

end Invocation
end CommandLine
end CiPipeline
