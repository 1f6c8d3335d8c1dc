import CiPipeline.Proofs.Text.Words

/-!
# MaximalRuns — what the runs of a text are

A text is taken apart into runs of characters of a class and the gaps around them.  A run is maximal:
no character of the class stands next to it.  Each text has exactly one such list of runs.

* `Text.MaximalRuns keep s ws`: the maximal runs of `s` are `ws`;
* `Text.maximalRuns_iff`: they are what `runs` finds;
* `Text.MaximalRuns.solid`, `Text.MaximalRuns.eq_nil_iff`: what runs are made of.
-/

namespace CiPipeline
namespace Text

/-- From left to right: a gap without characters of the class, a run that is not empty, and the rest,
which does not go on with a character of the class.  Behind the last run there is only a gap. -/
inductive MaximalRuns (keep : Char → Bool) : List Char → List (List Char) → Prop
  | gap {g : List Char} (out : ∀ c ∈ g, keep c = false) : MaximalRuns keep g []
  | run {g w rest : List Char} {ws : List (List Char)} (out : ∀ c ∈ g, keep c = false)
      (nonempty : w ≠ []) (kept : ∀ c ∈ w, keep c = true) (ends : rest.head?.any keep = false)
      (onward : MaximalRuns keep rest ws) : MaximalRuns keep (g ++ (w ++ rest)) (w :: ws)

variable {keep : Char → Bool} {s : List Char} {ws : List (List Char)}

/-! ## Finding the runs -/

theorem runs_gap_append {gap : List Char} (out : ∀ c ∈ gap, keep c = false) (rest : List Char) :
    runs keep (gap ++ rest) = runs keep rest := by
  induction gap with
  | nil => rfl
  | cons c cs ih =>
      rw [List.cons_append, runs_cons_of_not (out c List.mem_cons_self)]
      exact ih fun d mem => out d (List.mem_cons_of_mem _ mem)

theorem runs_word_append {w rest : List Char} (nonempty : w ≠ []) (kept : ∀ c ∈ w, keep c = true)
    (ends : rest.head?.any keep = false) : runs keep (w ++ rest) = w :: runs keep rest := by
  induction w with
  | nil => exact absurd rfl nonempty
  | cons c cs ih =>
      have first : keep c = true := kept c List.mem_cons_self
      cases cs with
      | nil => exact runs_cons_of_apart first ends
      | cons d ds =>
          have onward := ih (by simp) fun e mem => kept e (List.mem_cons_of_mem _ mem)
          have joined : ((d :: ds) ++ rest).head?.any keep = true := kept d (by simp)
          rcases runs_cons_of_joined first joined with ⟨v, vs, found, whole⟩
          rw [onward] at found
          cases found
          exact whole

theorem maximalRuns_runs (keep : Char → Bool) (s : List Char) :
    MaximalRuns keep s (runs keep s) := by
  induction s with
  | nil => exact .gap (by simp)
  | cons c cs ih =>
      cases kept : keep c with
      | false =>
          -- The character widens the gap in front.
          rw [runs_cons_of_not kept]
          generalize runs keep cs = found at ih
          cases ih with
          | gap out => exact .gap (by simpa [kept] using out)
          | @run gap w rest ws out nonempty word ends onward =>
              exact .run (g := c :: gap) (by simpa [kept] using out) nonempty word ends onward
      | true =>
          cases joined : cs.head?.any keep with
          | false =>
              rw [runs_cons_of_apart kept joined]
              exact .run (g := []) (w := [c]) (by simp) (by simp) (by simp [kept]) joined ih
          | true =>
              -- The character belongs to the first run, in front of which there is no gap.
              rcases runs_cons_of_joined kept joined with ⟨w, ws, found, whole⟩
              rw [found] at ih
              rw [whole]
              cases ih with
              | @run gap w rest ws out nonempty word ends onward =>
                  cases gap with
                  | nil =>
                      exact .run (g := []) (w := c :: w) (by simp) (by simp)
                        (by simpa [kept] using word) ends onward
                  | cons d ds =>
                      have blank := out d List.mem_cons_self
                      simp [blank] at joined

/-- A text has one list of maximal runs. -/
theorem maximalRuns_iff : MaximalRuns keep s ws ↔ runs keep s = ws := by
  constructor
  · intro split
    induction split with
    | @gap gap out => simpa using runs_gap_append out []
    | run out nonempty kept ends _ ih =>
        rw [runs_gap_append out, runs_word_append nonempty kept ends, ih]
  · rintro rfl
    exact maximalRuns_runs keep s

/-! ## What runs are made of -/

namespace MaximalRuns

theorem solid (split : MaximalRuns keep s ws) :
    ∀ w ∈ ws, w ≠ [] ∧ ∀ c ∈ w, keep c = true := by
  induction split with
  | gap _ => simp
  | run _ nonempty kept _ _ ih => exact List.forall_mem_cons.2 ⟨⟨nonempty, kept⟩, ih⟩

/-- Without a character of the class there are no runs. -/
theorem eq_nil_iff (split : MaximalRuns keep s ws) : ws = [] ↔ ∀ c ∈ s, keep c = false := by
  cases split with
  | gap out => simpa using out
  | @run gap w rest ws out nonempty kept ends onward =>
      rcases List.exists_mem_of_ne_nil w nonempty with ⟨c, mem⟩
      have inside : c ∈ gap ++ (w ++ rest) := by simp [mem]
      have here : keep c = true := kept c mem
      exact iff_of_false (by simp) fun absent => by simp [absent c inside] at here

end MaximalRuns
end Text
end CiPipeline
