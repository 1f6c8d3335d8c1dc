import CiPipeline.Machine.FileSystem

/-!
# Layout — where files are, whatever they hold

Paths are followed through directories and links alone.  What the files on a machine hold has no
part in it, so two machines with the same layout send every path to the same place; and what is
found in a file depends on the place only, and not on the path that leads there.

* `Entry.Matches`, `FileSystem.SameLayout`: the machines differ in the contents of files only;
* `FileSystem.follow_congr`, `FileSystem.locateExisting_congr`: paths lead to the same places;
* `FileSystem.readText_congr`: paths to one place give one text.
-/

namespace CiPipeline

/-- What may stand at one place of two machines that differ in the contents of files only. -/
inductive Entry.Matches : Option Entry → Option Entry → Prop
  | same (e : Option Entry) : Matches e e
  | file (contents contents' : ByteArray) (executable : Bool) :
      Matches (some (.file contents executable)) (some (.file contents' executable))

namespace FileSystem

def SameLayout (fs fs' : FileSystem) : Prop :=
  ∀ location, Entry.Matches (fs.entry? location) (fs'.entry? location)

section

variable {fs fs' : FileSystem} (same : fs.SameLayout fs')

include same

theorem isDirectory_congr (location : Location) :
    fs'.isDirectory location = fs.isDirectory location := by
  have there := same location
  unfold isDirectory
  generalize fs.entry? location = e at there ⊢
  generalize fs'.entry? location = e' at there ⊢
  cases there with
  | same => rfl
  | file => rfl

theorem isRegular_congr (location : Location) :
    fs'.isRegular location = fs.isRegular location := by
  have there := same location
  unfold isRegular
  generalize fs.entry? location = e at there ⊢
  generalize fs'.entry? location = e' at there ⊢
  cases there with
  | same => rfl
  | file => rfl

/-- The recursion is that of following a path: fewer parts are left, or fewer links may be followed. -/
theorem follow_congr (links : Nat) (here : Location) (parts : List String) :
    fs'.follow links here parts = fs.follow links here parts := by
  cases parts with
  | nil => rw [follow, follow]
  | cons part rest =>
      have onward : ∀ here, fs'.follow links here rest = fs.follow links here rest :=
        fun here => follow_congr links here rest
      have there := same (here ++ [part])
      rw [follow, follow, isDirectory_congr same]
      simp only [onward]
      generalize fs.entry? (here ++ [part]) = e at there ⊢
      generalize fs'.entry? (here ++ [part]) = e' at there ⊢
      cases there with
      | file => rfl
      | same =>
          -- Both machines have the same entry here, and a link goes on with one link less.
          cases links with
          | zero => rfl
          | succ fewer =>
              have beyond : ∀ here parts, fs'.follow fewer here parts = fs.follow fewer here parts :=
                fun here parts => follow_congr fewer here parts
              simp only [beyond]
termination_by (links, parts.length)

theorem locate_congr (directory : Location) (p : Path) :
    fs'.locate directory p = fs.locate directory p := by
  simp only [locate, follow_congr same]

theorem locateExisting_congr (directory : Location) (p : Path) :
    fs'.locateExisting directory p = fs.locateExisting directory p := by
  simp only [locateExisting, locate_congr same]

end

/-- What is read depends on the place alone. -/
theorem readText_congr {fs : FileSystem} {directory : Location} {p q : Path}
    (same : fs.locateExisting directory p = fs.locateExisting directory q) :
    fs.readText directory p = fs.readText directory q := by
  simp only [readText, readBytes, same]

end FileSystem
end CiPipeline
