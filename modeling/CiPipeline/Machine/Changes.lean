import CiPipeline.Machine.FileSystem

/-!
# Changes — what became of a file system

* `FileSystem.changedSince`: the entries that are new or other than before;
* `FileSystem.missingSince`: the locations at which nothing is left.
-/

namespace CiPipeline
namespace FileSystem

/-- New and changed entries, each directory before what it holds. -/
def changedSince (before after : FileSystem) : List (Location × Entry) :=
  after.entries.filter fun e => before.entry? e.1 != some e.2

def missingSince (before after : FileSystem) : List Location :=
  (before.entries.map (·.1)).filter fun location => (after.entry? location).isNone

end FileSystem
end CiPipeline
