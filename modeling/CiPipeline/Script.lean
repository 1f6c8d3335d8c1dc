import CiPipeline.Text.Runs

/-!
# Script — splitting a script into words

A script is split at white space into a program and its arguments.  Quotes and backslashes have no
meaning: they are part of the words.

* `Script.words`: the words of a script;
* `Script.split`: the program, empty for a blank script, and the arguments.
-/

namespace CiPipeline
namespace Script

def words (script : String) : List String := (Text.words script.toList).map String.ofList

def split (script : String) : String × List String :=
  match words script with
  | [] => ("", [])
  | program :: args => (program, args)

end Script
end CiPipeline
