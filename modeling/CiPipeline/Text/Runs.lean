/-!
# Runs — maximal runs of a class of characters

A text is read as an alternation of runs of characters that belong to a class and runs that do
not.  This file defines:

* `Text.Blank`: the white space of Unicode;
* `Text.runs keep s`: the maximal runs of characters of `s` that satisfy `keep`, in order;
* `Text.words`: the runs of characters that are not white space;
* `Text.isBlank`: texts that consist of white space alone.

The lemmas say how `runs` reads a text character by character.
-/

namespace CiPipeline
namespace Text

/-! ## White space -/

/-- The code points with the Unicode property `White_Space`, as inclusive ranges. -/
def blankRanges : List (Nat × Nat) :=
  [(0x9, 0xD), (0x20, 0x20), (0x85, 0x85), (0xA0, 0xA0), (0x1680, 0x1680), (0x2000, 0x200A),
    (0x2028, 0x2029), (0x202F, 0x202F), (0x205F, 0x205F), (0x3000, 0x3000)]

/-- Membership of a character in a list of inclusive ranges of code points. -/
def inRanges (ranges : List (Nat × Nat)) (c : Char) : Bool :=
  ranges.any fun range => range.1 ≤ c.toNat && c.toNat ≤ range.2

def isBlankChar (c : Char) : Bool := inRanges blankRanges c

def isBlank (s : List Char) : Bool := s.all isBlankChar

/-! ## Runs -/

def runs (keep : Char → Bool) : List Char → List (List Char)
  | [] => []
  | c :: cs =>
    if keep c then
      match runs keep cs with
      | [] => [[c]]
      | w :: ws => if cs.head?.any keep then (c :: w) :: ws else [c] :: w :: ws
    else
      runs keep cs

def words (s : List Char) : List (List Char) := runs (fun c => !isBlankChar c) s

@[simp] theorem runs_nil (keep : Char → Bool) : runs keep [] = [] := rfl

theorem runs_cons_of_not {keep : Char → Bool} {c : Char} (h : keep c = false) (cs : List Char) :
    runs keep (c :: cs) = runs keep cs := by
  simp [runs, h]

end Text
end CiPipeline
