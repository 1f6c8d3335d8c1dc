import CiPipeline.CommandLine.Basic
import CiPipeline.Machine.Changes

/-!
# Main — the program

The program takes the files below its working directory as its machine, runs the command line on
it, and leaves behind what that did: its output, its files and its exit code.

* `entriesBelow`: the files below a directory;
* `leave`: the changes of a run;
* `main`: the program.
-/

namespace CiPipeline
namespace Host

/-- How many levels of directories are looked at. -/
def depthLimit : Nat := 12

/-- A file that names its interpreter can be started. -/
def namesInterpreter (contents : ByteArray) : Bool :=
  contents.toList.take 2 == "#!".toUTF8.toList

/-- The entries at and below an item of a directory; what cannot be read is left out. -/
def entriesBelow : Nat → Location → IO.FS.DirEntry → IO (List (Location × Entry))
  | 0, _, _ => pure []
  | depth + 1, directory, item => do
    let location := directory ++ [item.fileName]
    try
      if ← item.path.isDir then
        let below ← (← item.path.readDir).toList.mapM (entriesBelow depth location)
        pure ((location, .directory) :: below.flatten)
      else
        let contents ← IO.FS.readBinFile item.path
        pure [(location, .file contents (namesInterpreter contents))]
    catch _ => pure []

/-- The directories on the way to a location. -/
def directoriesTo (location : Location) : List (Location × Entry) :=
  (List.range location.length).map fun n => (location.take (n + 1), .directory)

/-- The machine seen from the working directory. -/
def currentWorld : IO World := do
  let here ← IO.currentDir
  let location : Location := (here.toString.splitOn "/").filter (!·.isEmpty)
  let below ← (← here.readDir).toList.mapM (entriesBelow depthLimit location)
  let entries := directoriesTo location ++ below.flatten
  pure ⟨entries.foldl (fun files e => files.put e.1 e.2) World.standardFiles, location, .empty⟩

/-- Carries out a new or changed entry. -/
def leaveEntry : Location × Entry → IO Unit
  | (location, .directory) => IO.FS.createDirAll location.path.text
  | (location, .file contents _) => IO.FS.writeBinFile location.path.text contents
  | _ => pure ()

/-- Removes a file, or a directory that holds nothing. -/
def removeAt (location : Location) : IO Unit := do
  try IO.FS.removeFile location.path.text
  catch _ => try IO.FS.removeDir location.path.text catch _ => pure ()

/-- Carries out what changed; what a directory held goes before the directory. -/
def leave (before after : FileSystem) : IO Unit := do
  (FileSystem.missingSince before after).reverse.forM removeAt
  (FileSystem.changedSince before after).forM leaveEntry

/-- What a run reports when it does not succeed. -/
def report (outcome : CommandLine.Outcome) : IO Unit :=
  match outcome.error with
  | some reason => IO.eprintln ("Error: " ++ reason)
  | none => if outcome.code = 2 then IO.eprint CommandLine.usageText else pure ()

/-- All identifiers come from one random number. -/
def surroundings : IO CommandLine.Surroundings := do
  let seed ← IO.rand 0 (Nat.pow 2 122 - 1)
  pure ⟨← IO.getEnv "RUST_LOG", ← IO.getEnv "PIPELYNE_DEBUG", seed, .ofSeed seed⟩

end Host
end CiPipeline

open CiPipeline in
def main (args : List String) : IO UInt32 := do
  let world ← Host.currentWorld
  let outcome := CommandLine.run (← Host.surroundings) args world
  (← IO.getStdout).write outcome.world.stdout
  Host.report outcome
  Host.leave world.files outcome.world.files
  pure (UInt32.ofNat outcome.code)
