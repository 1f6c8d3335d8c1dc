import CiPipeline.Machine.World

/-!
# Programs — the programs of the machine

Each program takes its arguments and the world it starts in, and ends with an exit code and the
world it leaves.  The standard input is empty, and what goes to the standard error is not kept.

* `Programs.run`: a program by name, the shell apart.
-/

namespace CiPipeline
namespace Programs

abbrev Effect := World → Int × World

/-! ## Output -/

def octalDigit? (c : Char) : Option Nat :=
  if '0' ≤ c ∧ c ≤ '7' then some (c.toNat - '0'.toNat) else none

/-- The number of up to three octal digits, and the text after them. -/
def octal (value : Nat) : Nat → List Char → Nat × List Char
  | 0, cs => (value, cs)
  | _ + 1, [] => (value, [])
  | count + 1, c :: cs =>
    match octalDigit? c with
    | some d => octal (8 * value + d) count cs
    | none => (value, c :: cs)

/-- The character a letter after a backslash stands for. -/
def escapeLetter (c : Char) : Option Char :=
  match c with
  | 'a' => some '\x07'
  | 'b' => some '\x08'
  | 'f' => some '\x0c'
  | 'n' => some '\n'
  | 'r' => some '\r'
  | 't' => some '\t'
  | 'v' => some '\x0b'
  | '\\' => some '\\'
  | _ => none

/-- A text with its escapes carried out; an escape that is none stays as it is. -/
def unescape : List Char → List Char
  | '\\' :: '0' :: a :: b :: c :: rest =>
    match octalDigit? a, octalDigit? b, octalDigit? c with
    | some x, some y, some z => Char.ofNat (64 * x + 8 * y + z) :: unescape rest
    | _, _, _ => '\\' :: '0' :: unescape (a :: b :: c :: rest)
  | '\\' :: c :: rest =>
    match escapeLetter c with
    | some d => d :: unescape rest
    | none => '\\' :: c :: unescape rest
  | c :: rest => c :: unescape rest
  | [] => []

def echo (args : List String) : Effect := fun w =>
  match args with
  | "-n" :: args => (0, w.write (" ".intercalate args))
  | args => (0, w.writeLine (" ".intercalate args))

/-- What one pass over a format prints, and the arguments it leaves. -/
def formatOnce : List Char → List String → List Char × List String
  | '%' :: '%' :: rest, args =>
    let (out, args) := formatOnce rest args
    ('%' :: out, args)
  | '%' :: c :: rest, args =>
    let arg := args.head?.getD ""
    let shown :=
      if c = 's' then arg.toList
      else if c = 'b' then unescape arg.toList
      else if c = 'c' then arg.toList.take 1
      else if c = 'd' ∨ c = 'i' then (toString (arg.toInt?.getD 0)).toList
      else ['%', c]
    let (out, args) := formatOnce rest (args.drop 1)
    (shown ++ out, args)
  | c :: rest, args =>
    let (out, args) := formatOnce rest args
    (c :: out, args)
  | [], args => ([], args)

/-- The format is used again while arguments are left and it takes some. -/
def formatAll (format : List Char) : Nat → List String → List Char
  | 0, _ => []
  | rounds + 1, args =>
    let (out, left) := formatOnce format args
    if left.isEmpty ∨ left.length = args.length then out else out ++ formatAll format rounds left

def printf (args : List String) : Effect := fun w =>
  match args with
  | [] => (2, w)
  | format :: args =>
    (0, w.write (String.ofList (formatAll (unescape format.toList) (args.length + 1) args)))

/-! ## Files -/

def cat (args : List String) : Effect := fun w =>
  args.foldl (fun (code, w) arg =>
    if arg = "-" then (code, w)
    else
      match w.files.readBytes w.directory ⟨arg⟩ with
      | .ok bytes => (code, w.writeBytes bytes)
      | .error _ => (1, w)) (0, w)

def pwd : Effect := fun w => (0, w.writeLine w.directory.path.text)

/-- Applies an operation to each path and remembers whether one failed. -/
def forEach (operation : FileSystem → Location → Path → Except IoProblem FileSystem)
    (args : List String) : Effect := fun w =>
  args.foldl (fun (code, w) arg =>
    match operation w.files w.directory ⟨arg⟩ with
    | .ok files => (code, { w with files := files })
    | .error _ => (1, w)) (0, w)

/-- Leading options and the arguments after them. -/
def options (args : List String) : List Char × List String :=
  let isOption (arg : String) := arg.length > 1 && arg.toList.head? == some '-'
  ((args.takeWhile isOption).flatMap fun arg => arg.toList.drop 1, args.dropWhile isOption)

def touchFile (fs : FileSystem) (directory : Location) (p : Path) : Except IoProblem FileSystem :=
  if fs.present directory p then .ok fs else fs.writeFile directory p .empty false

def mkdir (args : List String) : Effect :=
  let (flags, args) := options args
  forEach (if flags.contains 'p' then FileSystem.createDirectories else FileSystem.createDirectory)
    args

def removeFile (recursive force : Bool) (fs : FileSystem) (directory : Location) (p : Path) :
    Except IoProblem FileSystem :=
  match fs.locateName directory p with
  | .ok location =>
    if fs.isDirectory location && !recursive then .error .isDirectory
    else
      match fs.remove directory p with
      | .ok fs => .ok fs
      | .error problem => if force then .ok fs else .error problem
  | .error problem => if force then .ok fs else .error problem

def rm (args : List String) : Effect :=
  let (flags, args) := options args
  forEach (removeFile (flags.contains 'r' || flags.contains 'R') (flags.contains 'f')) args

def removeDirectory (fs : FileSystem) (directory : Location) (p : Path) :
    Except IoProblem FileSystem :=
  match fs.locateName directory p with
  | .ok location =>
    if !fs.isDirectory location then .error .notDirectory
    else if !(fs.children location).isEmpty then .error .directoryNotEmpty
    else fs.remove directory p
  | .error problem => .error problem

/-- Where a file goes that is copied to a path: into it, when it is a directory. -/
def destination (w : World) (source target : Path) : Path :=
  if w.files.isDirectoryAt w.directory target then
    target.join ⟨(source.components.getLast?).getD ""⟩
  else target

def copyFile (w : World) (source target : Path) : Except IoProblem World := do
  let bytes ← w.files.readBytes w.directory source
  let files ← w.files.writeFile w.directory (destination w source target) bytes false
  .ok { w with files := files }

def cp (args : List String) : Effect := fun w =>
  match args with
  | [source, target] =>
    match copyFile w ⟨source⟩ ⟨target⟩ with
    | .ok w => (0, w)
    | .error _ => (1, w)
  | _ => (1, w)

def mv (args : List String) : Effect := fun w =>
  match args with
  | [source, target] =>
    match copyFile w ⟨source⟩ ⟨target⟩ with
    | .ok w => forEach FileSystem.remove [source] w
    | .error _ => (1, w)
  | _ => (1, w)

def ls (args : List String) : Effect := fun w =>
  let args := (options args).2
  let list (w : World) (arg : String) : Int × World :=
    match w.files.locateExisting w.directory ⟨arg⟩ with
    | .error _ => (2, w)
    | .ok location =>
      if w.files.isDirectory location then
        let names := (w.files.children location).filter fun name => name.toList.head? != some '.'
        (0, names.foldl World.writeLine w)
      else (0, w.writeLine arg)
  match args with
  | [] => list w "."
  | [arg] => list w arg
  | args =>
    args.foldl (fun (code, w) arg =>
      let (c, w) := list w arg
      (max code c, w)) (0, w)

/-! ## Tests -/

/-- Whether an expression holds; nothing when it is no expression. -/
def holds? (w : World) : List String → Option Bool
  | [] => some false
  | ["!", a] => some (a.isEmpty)
  | [a] => some (!a.isEmpty)
  | ["-n", a] => some (!a.isEmpty)
  | ["-z", a] => some a.isEmpty
  | ["-e", a] => some (w.present ⟨a⟩)
  | ["-f", a] => some (w.files.isRegularAt w.directory ⟨a⟩)
  | ["-d", a] => some (w.files.isDirectoryAt w.directory ⟨a⟩)
  | ["-r", a] => some (w.present ⟨a⟩)
  | ["-s", a] =>
    match w.files.readBytes w.directory ⟨a⟩ with
    | .ok bytes => some (bytes.size != 0)
    | .error _ => some false
  | ["-x", a] =>
    match w.files.entryAt w.directory ⟨a⟩ with
    | some (.file _ executable) => some executable
    | some .device => some false
    | some _ => some true
    | none => some false
  | [a, "=", b] => some (a == b)
  | [a, "!=", b] => some (a != b)
  | [a, "-eq", b] => do some ((← a.toInt?) == (← b.toInt?))
  | [a, "-ne", b] => do some ((← a.toInt?) != (← b.toInt?))
  | [a, "-lt", b] => do some ((← a.toInt?) < (← b.toInt?))
  | [a, "-gt", b] => do some ((← a.toInt?) > (← b.toInt?))
  | "!" :: rest => (holds? w rest).map not
  | _ => none

def test (args : List String) : Effect := fun w =>
  match holds? w args with
  | some true => (0, w)
  | some false => (1, w)
  | none => (2, w)

def bracket (args : List String) : Effect := fun w =>
  if args.getLast? = some "]" then test args.dropLast w else (2, w)

/-! ## By name -/

/-- A program other than the shell. -/
def run (name : String) (args : List String) : Effect :=
  match name with
  | "false" => fun w => (1, w)
  | "[" => bracket args
  | "cat" => cat args
  | "cp" => cp args
  | "echo" => echo args
  | "ls" => ls args
  | "mkdir" => mkdir args
  | "mv" => mv args
  | "printf" => printf args
  | "pwd" => pwd
  | "rm" => rm args
  | "rmdir" => forEach removeDirectory args
  | "test" => test args
  | "touch" => forEach touchFile args
  | _ => fun w => (0, w)

end Programs
end CiPipeline
