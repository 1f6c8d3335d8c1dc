import CiPipeline.Machine.Programs
import CiPipeline.Machine.ShellScript
import CiPipeline.Run.Environment

/-!
# Launch — starting programs

A program is looked up by name or by path and runs to its end.  The shell runs scripts, which start
programs again.

* `Launch.inDirectory`: starts a program in a directory;
* `World.environment`: the machine as an environment for pipelines.
-/

namespace CiPipeline
namespace Launch

/-! ## The shell -/

structure Shell where
  /-- The name of the script and its arguments. -/
  args : List String
  assigned : List (String × String)
  status : Int
  world : World

/-- Why a script goes no further. -/
inductive Halt where
  | exit (code : Int)
  | signal

/-- The process id of every shell. -/
def shellId : String := "4096"

namespace Shell

def value (sh : Shell) (name : String) : String :=
  match name with
  | "?" => toString sh.status
  | "#" => toString (sh.args.length - 1)
  | "$" => shellId
  | "@" => " ".intercalate (sh.args.drop 1)
  | "*" => " ".intercalate (sh.args.drop 1)
  | name =>
    match name.toNat? with
    | some n => (sh.args[n]?).getD ""
    | none => (sh.assigned.lookup name).getD ""

def assign (sh : Shell) (name value : String) : Shell :=
  { sh with assigned := (name, value) :: sh.assigned }

/-- Words under construction: the finished ones, and the one that is open, if any. -/
structure Fields where
  done : List (List Char)
  opened : Option (List Char)

namespace Fields

def add (f : Fields) (cs : List Char) : Fields := ⟨f.done, some (f.opened.getD [] ++ cs)⟩

def close (f : Fields) : Fields :=
  match f.opened with
  | some cs => ⟨f.done ++ [cs], none⟩
  | none => f

/-- Adds a value that is split at blanks. -/
def addSplit (f : Fields) (cs : List Char) : Fields :=
  cs.foldl (fun f c => if c = ' ' ∨ c = '\t' ∨ c = '\n' then f.close else f.add [c]) f

end Fields

/-- The words a word expands to. -/
def expand (sh : Shell) (w : ShellWord) : List String :=
  let start : Fields := ⟨[], if w.quoted then some [] else none⟩
  let fields := w.pieces.foldl (fun (f : Fields) piece =>
    match piece with
    | .literal cs => f.add cs
    | .parameter name quoted =>
      let text := (sh.value (String.ofList name)).toList
      if quoted then f.add text else f.addSplit text) start
  fields.close.done.map String.ofList

/-- The name and value of a word that is an assignment. -/
def assignment? (sh : Shell) (w : ShellWord) : Option (String × String) :=
  match w.pieces with
  | .literal cs :: rest =>
    let name := cs.takeWhile ShellScript.isNameChar
    match name, cs.dropWhile ShellScript.isNameChar with
    | c :: _, '=' :: value =>
      if ShellScript.isNameStart c then
        some (String.ofList name,
          " ".intercalate (expand sh ⟨.literal value :: rest, true⟩))
      else none
    | _, _ => none
  | _ => none

end Shell

/-! ## Redirections -/

/-- Where the output of a command goes. -/
inductive Sink where
  | stdout
  | discarded
  | file (path : Path)

/-- Opens the targets from left to right; the sinks of the standard output and error. -/
def openSinks (sh : Shell) (redirections : List Redirection) :
    Option (Sink × Shell) :=
  let step (state : Option (Sink × Sink × Shell)) (r : Redirection) : Option (Sink × Sink × Shell) := do
    let (out, err, sh) ← state
    match r with
    | .duplicate 1 2 => some (err, err, sh)
    | .duplicate 2 1 => some (out, out, sh)
    | .duplicate _ _ => some (out, err, sh)
    | .file descriptor append target =>
      match sh.expand target with
      | [name] =>
        let opened :=
          if append && sh.world.present ⟨name⟩ then
            sh.world.files.writeFile sh.world.directory ⟨name⟩ .empty true
          else sh.world.files.writeFile sh.world.directory ⟨name⟩ .empty false
        match opened with
        | .error _ => none
        | .ok files =>
          let sh := { sh with world := { sh.world with files := files } }
          if descriptor = 1 then some (.file ⟨name⟩, err, sh)
          else if descriptor = 2 then some (out, .file ⟨name⟩, sh)
          else some (out, err, sh)
      | _ => none
  match redirections.foldl step (some (Sink.stdout, Sink.discarded, sh)) with
  | some (out, _, sh) => some (out, sh)
  | none => none

/-- Sends what was written since `before` to a sink. -/
def deliver (sink : Sink) (before : ByteArray) (w : World) : World :=
  let written := w.stdout
  match sink with
  | .stdout => { w with stdout := before ++ written }
  | .discarded => { w with stdout := before }
  | .file path =>
    match w.files.writeFile w.directory path written true with
    | .ok files => { w with files := files, stdout := before }
    | .error _ => { w with stdout := before }

/-! ## Commands of the shell -/

def exitCode (status : Int) (args : List String) : Int :=
  match args with
  | [] => status
  | arg :: _ =>
    match arg.toNat? with
    | some n => n % 256
    | none => 2

/-- Whether a list of arguments sends a deadly signal to the shell itself. -/
def killsItself (args : List String) : Bool :=
  match args with
  | [target] => target == shellId
  | ["-0", _] => false
  | [signal, target] => signal.toList.head? == some '-' && target == shellId
  | ["-s", _, target] => target == shellId
  | _ => false

/-- Commands that the shell carries out itself. -/
def builtin (sh : Shell) (name : String) (args : List String) : Option (Except Halt Shell) :=
  let result (r : Int × World) : Option (Except Halt Shell) :=
    some (.ok { sh with status := r.1, world := r.2 })
  match name with
  | ":" => result (0, sh.world)
  | "true" => result (0, sh.world)
  | "false" => result (1, sh.world)
  | "exit" => some (.error (.exit (exitCode sh.status args)))
  | "kill" =>
    if killsItself args then some (.error .signal)
    else if args.head? = some "-0" ∧ args.getLast? = some shellId then result (0, sh.world)
    else result (1, sh.world)
  | "read" =>
    some (.ok { args.foldl (fun sh name => sh.assign name "") sh with status := 1 })
  | "cd" =>
    match sh.world.files.locateExisting sh.world.directory ⟨args.head?.getD "/"⟩ with
    | .ok location =>
      if sh.world.files.isDirectory location then
        result (0, { sh.world with directory := location })
      else result (2, sh.world)
    | .error _ => result (2, sh.world)
  | "echo" =>
    match args with
    | "-n" :: args => result (Programs.printf ["%b", " ".intercalate args] sh.world)
    | args => result (Programs.printf ["%b\\n", " ".intercalate args] sh.world)
  | "printf" => result (Programs.printf args sh.world)
  | "pwd" => result (Programs.pwd sh.world)
  | "test" => result (Programs.test args sh.world)
  | "[" => result (Programs.bracket args sh.world)
  | _ => none

/-! ## Programs -/

/-- The program a name stands for. -/
inductive Executable where
  | program (name : String)
  /-- A script, the program that reads it, and the arguments before the path of the script. -/
  | script (interpreter : Path) (before : List String)

/-- The interpreter named in the first line of a script. -/
def interpreter? (contents : ByteArray) : Option (Path × List String) :=
  let text := (String.fromUTF8? contents).getD ""
  match (text.toList.takeWhile (· != '\n')) with
  | '#' :: '!' :: line =>
    let line := line.dropWhile fun c => c = ' ' || c = '\t'
    let name := line.takeWhile fun c => c != ' ' && c != '\t'
    let rest := (line.dropWhile fun c => c != ' ' && c != '\t').dropWhile
      fun c => c = ' ' || c = '\t'
    let rest := (rest.reverse.dropWhile fun c => c = ' ' || c = '\t').reverse
    some (⟨String.ofList name⟩, if rest.isEmpty then [] else [String.ofList rest])
  | _ => none

/-- The program at a path. -/
def executableAt (w : World) (p : Path) : Except IoProblem Executable := do
  let location ← w.files.locateExisting w.directory p
  match w.files.entry? location with
  | some (.program name) => .ok (.program name)
  | some (.file contents true) =>
    match interpreter? contents with
    | some (interpreter, before) => .ok (.script interpreter before)
    | none => .error .notExecutable
  | _ => .error .permissionDenied

/-- A name with a slash is a path; any other is looked up in the directories of programs. -/
def find (w : World) (program : String) : Except IoProblem Executable :=
  if program.toList.contains '/' then executableAt w ⟨program⟩
  else if program.isEmpty then .error .notFound
  else
    match World.searchPath.findSome? fun directory => w.files.entry? (directory ++ [program]) with
    | some (.program name) => .ok (.program name)
    | _ => .error .notFound

def isShell (name : String) : Bool := name == "sh" || name == "dash" || name == "bash"

/-- How deep programs may start programs. -/
def depthLimit : Nat := 64

/-- How a program is started: its name, its arguments, and the world it starts in. -/
abbrev Starter := String → List String → World → Except IoProblem (Exit × World)

/-! ### Scripts -/

/-- The exit code the shell gives a program that it started. -/
def statusOf : Except IoProblem (Exit × World) → World → Int × World
  | .ok (.code code, w), _ => (code, w)
  | .ok (.signal, w), _ => (137, w)
  | .error .notFound, w => (127, w)
  | .error _, w => (126, w)

/-- One command with its words expanded and its output delivered. -/
def runWords (start : Starter) (sh : Shell) (name : String) (args : List String) :
    Shell × Option Halt :=
  match builtin sh name args with
  | some (.ok sh) => (sh, none)
  | some (.error halt) => (sh, some halt)
  | none =>
    let (status, w) := statusOf (start name args sh.world) sh.world
    ({ sh with status := status, world := { w with directory := sh.world.directory } }, none)

def runSimple (start : Starter) (c : SimpleCommand) (sh : Shell) : Shell × Option Halt :=
  match openSinks sh c.redirections with
  | none => ({ sh with status := 2 }, none)
  | some (sink, sh) =>
    match c.words.mapM sh.assignment? with
    | some assignments =>
      ({ assignments.foldl (fun sh a => sh.assign a.1 a.2) sh with status := 0 }, none)
    | none =>
      match c.words.flatMap sh.expand with
      | [] => ({ sh with status := 0 }, none)
      | name :: args =>
        let before := sh.world.stdout
        let (sh, halt) :=
          runWords start { sh with world := { sh.world with stdout := .empty } } name args
        ({ sh with world := deliver sink before sh.world }, halt)

/-- The commands of a script from left to right, and why the script ended early, if it did. -/
def runCommands (start : Starter) : ShellScript → Shell → Shell × Option Halt
  | [], sh => (sh, none)
  | c :: rest, sh =>
    let wanted :=
      match c.connection with
      | .always => true
      | .afterSuccess => sh.status == 0
      | .afterFailure => sh.status != 0
    if wanted then
      match runSimple start c sh with
      | (sh, some halt) => (sh, some halt)
      | (sh, none) => runCommands start rest sh
    else runCommands start rest sh

def runText (start : Starter) (text : String) (args : List String) (w : World) : Exit × World :=
  match ShellScript.read text with
  | none => (.code 2, w)
  | some script =>
    match runCommands start script ⟨args, [], 0, w⟩ with
    | (sh, some .signal) => (.signal, sh.world)
    | (sh, some (.exit code)) => (.code code, sh.world)
    | (sh, none) => (.code sh.status, sh.world)

/-- The shell with its arguments: a text after `-c`, or a file, or nothing to read. -/
def runShell (start : Starter) (args : List String) (w : World) : Exit × World :=
  match args with
  | [] => (.code 0, w)
  | ["-c"] => (.code 2, w)
  | "-c" :: text :: args => runText start text (if args.isEmpty then ["sh"] else args) w
  | file :: args =>
    match w.readText ⟨file⟩ with
    | .ok text => runText start text (file :: args) w
    | .error .notFound => (.code 127, w)
    | .error _ => (.code 2, w)

/-! ### Starting -/

/-- A path to an interpreter, which is never looked up by name. -/
def interpreterName (p : Path) : String :=
  if p.text.toList.contains '/' then p.text else "./" ++ p.text

/-- Starts a program in the directory of the world; programs start programs up to a depth. -/
def start : Nat → Starter
  | 0, _, _, _ => .error (.other "Resource temporarily unavailable (os error 11)")
  | depth + 1, program, args, w =>
    match find w program with
    | .error problem => .error problem
    | .ok (.program name) =>
      if isShell name then .ok (runShell (start depth) args w)
      else
        let (code, w) := Programs.run name args w
        .ok (.code code, w)
    | .ok (.script interpreter before) =>
      start depth (interpreterName interpreter) (before ++ program :: args) w

def holdsZero (s : String) : Bool := s.toList.contains '\x00'

/-- Starts a program in a directory and waits for its end; the caller stays where it is. -/
def inDirectory (program : String) (args : List String) (directory : Path) (w : World) :
    Except IoProblem Exit × World :=
  if holdsZero program || args.any holdsZero || holdsZero directory.text then (.error .zeroByte, w)
  else
    match w.files.locateExisting w.directory directory with
    | .error problem => (.error problem, w)
    | .ok location =>
      if w.files.isDirectory location then
        match start depthLimit program args { w with directory := location } with
        | .ok (exit, after) => (.ok exit, { after with directory := w.directory })
        | .error problem => (.error problem, w)
      else (.error .notDirectory, w)

end Launch

/-! ## The machine as an environment -/

namespace World

def environment : Environment World where
  spawn := Launch.inDirectory
  present := fun p w => w.present p
  readText := fun p w => w.readText p
  printLine := fun line w => (.ok (), w.writeLine line)

end World
end CiPipeline
