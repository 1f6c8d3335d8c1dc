import CiPipeline.Script

/-!
# Words — the words of texts that are put together

A character outside of a class keeps the runs on its two sides apart.  So the words of two texts with
a space between them are the words of the one and then the words of the other.

* `Text.runs_cons_of_apart`, `Text.runs_cons_of_joined`: what a character in front adds;
* `Text.runs_append_cons`: runs on the two sides of a character that is left out;
* `Script.words_append`: words on the two sides of a space;
* `Script.argv`, `Script.argv_eq_split`: what a script starts.
-/

namespace CiPipeline
namespace Text

variable {keep : Char → Bool} {c : Char} {cs : List Char}

/-- In front of a character that is left out, or of nothing, a character is a run of its own. -/
theorem runs_cons_of_apart (kept : keep c = true) (apart : cs.head?.any keep = false) :
    runs keep (c :: cs) = [c] :: runs keep cs := by
  rw [runs, if_pos kept]
  cases rest : runs keep cs with
  | nil => rfl
  | cons w ws => simp [apart]

/-- In front of a character that is kept, a character joins the run of this character. -/
theorem runs_cons_of_joined (kept : keep c = true) (joined : cs.head?.any keep = true) :
    ∃ w ws, runs keep cs = w :: ws ∧ runs keep (c :: cs) = (c :: w) :: ws := by
  have first : ∃ w ws, runs keep cs = w :: ws := by
    cases cs with
    | nil => cases joined
    | cons d ds =>
        have next : keep d = true := by simpa using joined
        rw [runs, if_pos next]
        split
        · exact ⟨_, _, rfl⟩
        · split
          · exact ⟨_, _, rfl⟩
          · exact ⟨_, _, rfl⟩
  rcases first with ⟨w, ws, rest⟩
  refine ⟨w, ws, rest, ?_⟩
  rw [runs, if_pos kept, rest]
  simp only [joined, if_true]

theorem runs_append_cons (out : keep c = false) (before after : List Char) :
    runs keep (before ++ c :: after) = runs keep before ++ runs keep after := by
  induction before with
  | nil => exact runs_cons_of_not out after
  | cons d ds ih =>
      rw [List.cons_append]
      cases kept : keep d with
      | false => rw [runs_cons_of_not kept, runs_cons_of_not kept, ih]
      | true =>
          -- Whether the character joins a run is seen at the next one, on this side of the gap.
          have next : (ds ++ c :: after).head?.any keep = ds.head?.any keep := by
            cases ds with
            | nil => simp [out]
            | cons e es => rfl
          cases joined : ds.head?.any keep with
          | false =>
              rw [runs_cons_of_apart kept joined, runs_cons_of_apart kept (next.trans joined), ih]
              rfl
          | true =>
              rcases runs_cons_of_joined kept joined with ⟨w, ws, rest, whole⟩
              rcases runs_cons_of_joined kept (next.trans joined) with ⟨w', ws', rest', whole'⟩
              rw [ih, rest, List.cons_append] at rest'
              cases rest'
              rw [whole, whole']
              rfl

end Text

namespace Script

theorem words_append (before after : String) :
    words (before ++ " " ++ after) = words before ++ words after := by
  have text : (before ++ " " ++ after).toList = before.toList ++ ' ' :: after.toList := by
    simp [String.toList_append]
  rw [words, text, Text.words, Text.runs_append_cons (by decide), List.map_append]
  rfl

/-- What a script starts: its words, or a program without a name if it has none. -/
def argv (script : String) : List String :=
  match words script with
  | [] => [""]
  | program :: args => program :: args

theorem argv_eq_split (script : String) :
    argv script = (split script).1 :: (split script).2 := by
  unfold argv split
  cases words script with
  | nil => rfl
  | cons program args => rfl

/-- A text of which some word is known starts its words. -/
theorem argv_of_words {script program : String} {args : List String}
    (written : words script = program :: args) : argv script = program :: args := by
  rw [argv, written]

end Script
end CiPipeline
