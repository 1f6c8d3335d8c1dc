import CiPipeline.Machine.FileSystem

/-!
# World — the state of the machine a pipeline runs on

* `World`: the files, the working directory and what was written to the standard output;
* `World.write`, `World.writeLine`: output;
* `World.standardFiles`: the programs and devices every machine has.
-/

namespace CiPipeline

structure World where
  files : FileSystem
  directory : Location
  stdout : ByteArray
deriving DecidableEq, Inhabited

namespace World

def write (w : World) (text : String) : World := { w with stdout := w.stdout ++ text.toUTF8 }

def writeLine (w : World) (line : String) : World := w.write (line ++ "\n")

def writeBytes (w : World) (bytes : ByteArray) : World := { w with stdout := w.stdout ++ bytes }

def present (w : World) (p : Path) : Bool := w.files.present w.directory p

def readText (w : World) (p : Path) : Except IoProblem String := w.files.readText w.directory p

/-! ## Standard files -/

/-- The programs of the machine, by name. -/
def programNames : List String :=
  ["[", "bash", "cat", "cp", "dash", "echo", "false", "ls", "mkdir", "mv", "printf", "pwd", "rm",
    "rmdir", "sh", "sleep", "test", "touch", "true"]

def standardFiles : FileSystem :=
  ⟨[(["bin"], .directory), (["dev"], .directory), (["dev", "null"], .device), (["tmp"], .directory),
      (["usr"], .directory), (["usr", "bin"], .directory)]
    ++ programNames.map (fun name => (["bin", name], .program name))
    ++ programNames.map (fun name => (["usr", "bin", name], .program name))⟩

/-- The directories in which programs are looked up by name. -/
def searchPath : List Location := [["usr", "bin"], ["bin"]]

end World
end CiPipeline
