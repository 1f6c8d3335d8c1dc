import CiPipeline.Proofs.Text.MaximalRuns

/-!
# Spacing — words and the gaps between them

A text is written as words with gaps around them.  Between two words there has to be a gap, and that is
all that the words have to do with the gaps: whichever gaps are chosen, the same words are found again.

* `Text.Spaced`: a text as words and gaps;
* `Text.spaced_iff`: the words are the runs of the text;
* `Text.flatten_runs`, `Text.runs_append_gap`, `Text.runs_intercalate`: runs that are put together;
* `script_splitting`: the words of a script.
-/

namespace CiPipeline
namespace Text

variable {keep : Char → Bool}

/-! ## Words and gaps -/

/-- The text is a gap `lead` and then the words, each with its gap behind it.  Only the last gap may be
empty. -/
structure Spaced (keep : Char → Bool) (s : List Char) (ws : List (List Char)) (lead : List Char)
    (gaps : List (List Char)) : Prop where
  length : gaps.length = ws.length
  text : s = lead ++ (List.zipWith (· ++ ·) ws gaps).flatten
  words : ∀ w ∈ ws, w ≠ [] ∧ ∀ c ∈ w, keep c = true
  blank : ∀ g ∈ lead :: gaps, ∀ c ∈ g, keep c = false
  apart : ∀ g ∈ gaps.dropLast, g ≠ []

variable {s : List Char} {ws : List (List Char)}

theorem MaximalRuns.spaced (split : MaximalRuns keep s ws) :
    ∃ lead gaps, Spaced keep s ws lead gaps := by
  induction split with
  | @gap g out => exact ⟨g, [], rfl, by simp, by simp, by simpa using out, by simp⟩
  | @run g w rest ws out nonempty kept ends onward ih =>
      rcases ih with ⟨lead, gaps, spaced⟩
      -- What stood in front of the rest is now the gap behind the word.
      refine ⟨g, lead :: gaps, ?_, ?_, ?_, ?_, ?_⟩
      · exact congrArg Nat.succ spaced.length
      · rw [List.zipWith_cons_cons, List.flatten_cons, List.append_assoc, ← spaced.text]
      · exact List.forall_mem_cons.2 ⟨⟨nonempty, kept⟩, spaced.words⟩
      · exact List.forall_mem_cons.2 ⟨out, spaced.blank⟩
      · intro gap mem
        cases gaps with
        | nil => cases mem
        | cons next others =>
            rcases List.mem_cons.1 mem with rfl | mem
            · -- A word follows, so the rest would begin with a character of the class.
              rintro rfl
              cases ws with
              | nil => cases spaced.length
              | cons v vs =>
                  rcases spaced.words v List.mem_cons_self with ⟨filled, chars⟩
                  rcases List.exists_cons_of_ne_nil filled with ⟨c, cs, rfl⟩
                  have first : keep c = true := chars c List.mem_cons_self
                  rw [spaced.text] at ends
                  simp [first] at ends
            · exact spaced.apart gap mem

/-- The gap behind a word, or the end of the text, is where the word ends. -/
theorem Spaced.ends {w g lead : List Char} {gaps : List (List Char)}
    (spaced : Spaced keep s (w :: ws) lead (g :: gaps)) :
    (g ++ (List.zipWith (· ++ ·) ws gaps).flatten).head?.any keep = false := by
  cases g with
  | cons c cs =>
      have out : ∀ d ∈ c :: cs, keep d = false := spaced.blank _ (by simp)
      simp [out c List.mem_cons_self]
  | nil =>
      cases gaps with
      | nil => simp
      | cons next others => exact absurd rfl (spaced.apart [] List.mem_cons_self)

theorem Spaced.rest {w g lead : List Char} {gaps : List (List Char)}
    (spaced : Spaced keep s (w :: ws) lead (g :: gaps)) :
    Spaced keep (g ++ (List.zipWith (· ++ ·) ws gaps).flatten) ws g gaps where
  length := Nat.succ.inj spaced.length
  text := rfl
  words := (List.forall_mem_cons.1 spaced.words).2
  blank := (List.forall_mem_cons.1 spaced.blank).2
  apart := by
    intro gap mem
    cases gaps with
    | nil => cases mem
    | cons next others => exact spaced.apart gap (List.mem_cons_of_mem _ mem)

theorem Spaced.maximalRuns {lead : List Char} {gaps : List (List Char)}
    (spaced : Spaced keep s ws lead gaps) : MaximalRuns keep s ws := by
  induction ws generalizing s lead gaps with
  | nil =>
      have text := spaced.text
      rw [List.zipWith_nil_left, List.flatten_nil, List.append_nil] at text
      rw [text]
      exact .gap (spaced.blank lead List.mem_cons_self)
  | cons w ws ih =>
      cases gaps with
      | nil => cases spaced.length
      | cons g gaps =>
          rcases spaced.words w List.mem_cons_self with ⟨nonempty, kept⟩
          have text := spaced.text
          rw [List.zipWith_cons_cons, List.flatten_cons, List.append_assoc] at text
          rw [text]
          exact .run (spaced.blank lead List.mem_cons_self) nonempty kept spaced.ends
            (ih spaced.rest)

/-- A text is made of these words and of some gaps if and only if these are its runs. -/
theorem spaced_iff : (∃ lead gaps, Spaced keep s ws lead gaps) ↔ runs keep s = ws := by
  rw [← maximalRuns_iff]
  constructor
  · rintro ⟨lead, gaps, spaced⟩
    exact spaced.maximalRuns
  · exact MaximalRuns.spaced

/-! ## Runs that are put together -/

theorem MaximalRuns.flatten_eq (split : MaximalRuns keep s ws) : ws.flatten = s.filter keep := by
  induction split with
  | gap out => simpa using out
  | @run g w rest ws out nonempty kept ends onward ih =>
      have none : g.filter keep = [] := by simpa using out
      have all : w.filter keep = w := List.filter_eq_self.2 kept
      rw [List.flatten_cons, ih, List.filter_append, List.filter_append, none, all]
      rfl

theorem runs_append_gap {gap : List Char} (out : ∀ c ∈ gap, keep c = false) (nonempty : gap ≠ [])
    (before after : List Char) :
    runs keep (before ++ gap ++ after) = runs keep before ++ runs keep after := by
  rcases List.exists_cons_of_ne_nil nonempty with ⟨c, cs, rfl⟩
  rcases List.forall_mem_cons.1 out with ⟨first, others⟩
  rw [List.append_assoc, List.cons_append, runs_append_cons first, runs_gap_append others]

/-- Words between which there are gaps are found again. -/
theorem runs_intercalate {gap : List Char} (out : ∀ c ∈ gap, keep c = false) (nonempty : gap ≠ [])
    (words : ∀ w ∈ ws, w ≠ [] ∧ ∀ c ∈ w, keep c = true) :
    runs keep (gap.intercalate ws) = ws := by
  induction ws with
  | nil => rfl
  | cons w ws ih =>
      rcases List.forall_mem_cons.1 words with ⟨⟨filled, kept⟩, others⟩
      have alone : runs keep w = [w] := by
        have word : runs keep (w ++ []) = [w] := runs_word_append filled kept rfl
        rwa [List.append_nil] at word
      cases ws with
      | nil => rw [List.intercalate_singleton, alone]
      | cons v vs =>
          rw [List.intercalate_cons_cons, runs_append_gap out nonempty, alone, ih others]
          rfl

end Text

namespace Script

/-- Whether a character belongs to the words of scripts. -/
abbrev isSolid (c : Char) : Bool := !Text.isBlankChar c

/-- The list that a split script stands for.  An empty program is no word: it is there because the
script is blank. -/
def parts (pair : String × List String) : List String :=
  if pair.1 = "" then [] else pair.1 :: pair.2

theorem toList_words (script : String) :
    (words script).map String.toList = Text.runs isSolid script.toList := by
  rw [words, List.map_map]
  exact List.map_id'' (fun w => String.toList_ofList) _

theorem words_eq_iff {script : String} {ws : List String} :
    words script = ws ↔ Text.runs isSolid script.toList = ws.map String.toList := by
  rw [← toList_words]
  exact (List.map_inj_right fun _ _ => String.toList_inj.1).symm

theorem ne_empty_of_mem_words {script word : String} (mem : word ∈ words script) : word ≠ "" := by
  have listed : word.toList ∈ Text.runs isSolid script.toList := by
    rw [← toList_words]
    exact List.mem_map_of_mem mem
  rintro rfl
  exact ((Text.maximalRuns_runs isSolid script.toList).solid _ listed).1 rfl

theorem parts_split (script : String) : parts (split script) = words script := by
  unfold parts split
  cases found : words script with
  | nil => rfl
  | cons program args =>
      have named : program ≠ "" := ne_empty_of_mem_words (found ▸ List.mem_cons_self)
      exact if_neg named

theorem split_congr {script other : String} (same : words script = words other) :
    split script = split other := by
  rw [split, same, split]

theorem words_eq_nil_iff (script : String) :
    words script = [] ↔ Text.isBlank script.toList = true := by
  rw [words_eq_iff, List.map_nil, (Text.maximalRuns_runs isSolid script.toList).eq_nil_iff,
    Text.isBlank, List.all_eq_true]
  simp

theorem split_eq_empty_iff (script : String) :
    split script = ("", []) ↔ Text.isBlank script.toList = true := by
  rw [← words_eq_nil_iff, ← parts_split]
  constructor
  · intro empty
    rw [empty]
    rfl
  · rw [parts_split]
    intro none
    rw [split, none]

section Gap

variable {gap : String} (nonempty : gap ≠ "") (blank : Text.isBlank gap.toList = true)
include nonempty blank

theorem words_append_gap (before after : String) :
    words (before ++ gap ++ after) = words before ++ words after := by
  have out : ∀ c ∈ gap.toList, isSolid c = false := by simpa [Text.isBlank] using blank
  rw [words_eq_iff, List.map_append, toList_words, toList_words, String.toList_append,
    String.toList_append, Text.runs_append_gap out (mt String.toList_eq_nil_iff.1 nonempty)]

theorem words_intercalate_words (script : String) :
    words (gap.intercalate (words script)) = words script := by
  have out : ∀ c ∈ gap.toList, isSolid c = false := by simpa [Text.isBlank] using blank
  rw [words_eq_iff, String.toList_intercalate, toList_words]
  exact Text.runs_intercalate out (mt String.toList_eq_nil_iff.1 nonempty)
    (Text.maximalRuns_runs isSolid script.toList).solid

end Gap
end Script

/-- A script is split into its maximal runs of characters that are no white space.  They are the only
words from which it is made by putting gaps around them, with some white space between any two; together
they are the script without its white space.  So they are found again whatever white space they are
joined by, and scripts with white space between them have the words of the one and then those of the
other: quotes and backslashes do not hold words together. -/
theorem script_splitting (script : String) :
    (Script.split script = ("", []) ↔ Text.isBlank script.toList = true) ∧
    Text.MaximalRuns Script.isSolid script.toList
      ((Script.parts (Script.split script)).map String.toList) ∧
    (∀ ws : List String, Script.parts (Script.split script) = ws ↔
      ∃ lead gaps, Text.Spaced Script.isSolid script.toList (ws.map String.toList) lead gaps) ∧
    (String.join (Script.parts (Script.split script))).toList =
      script.toList.filter Script.isSolid ∧
    ∀ gap : String, gap ≠ "" → Text.isBlank gap.toList = true →
      Script.split (gap.intercalate (Script.parts (Script.split script))) = Script.split script ∧
      ∀ after : String, Script.parts (Script.split (script ++ gap ++ after)) =
        Script.parts (Script.split script) ++ Script.parts (Script.split after) := by
  simp only [Script.parts_split]
  have found := Text.maximalRuns_runs Script.isSolid script.toList
  refine ⟨Script.split_eq_empty_iff script, ?_, fun ws => ?_, ?_, fun gap nonempty blank => ⟨?_, ?_⟩⟩
  · rw [Script.toList_words]
    exact found
  · rw [Text.spaced_iff, Script.words_eq_iff]
  · rw [String.toList_join, List.flatMap_def, Script.toList_words]
    exact found.flatten_eq
  · exact Script.split_congr (Script.words_intercalate_words nonempty blank script)
  · exact Script.words_append_gap nonempty blank script

/-- The quotes are on the two sides of an ideographic space and a tab. -/
theorem script_splitting_quoted :
    "\u3000\t" ≠ "" ∧ Text.isBlank "\u3000\t".toList = true ∧
      Script.parts (Script.split ("echo \"a" ++ "\u3000\t" ++ "b\"")) =
        Script.parts (Script.split "echo \"a") ++ Script.parts (Script.split "b\"") ∧
      Script.split "echo \"a\u3000\tb\"" = ("echo", ["\"a", "b\""]) := by
  have nonempty : "\u3000\t" ≠ "" := by decide
  have blank : Text.isBlank "\u3000\t".toList = true := by decide
  have apart := (script_splitting "echo \"a").2.2.2.2 "\u3000\t" nonempty blank
  exact ⟨nonempty, blank, apart.2 "b\"", by decide⟩

end CiPipeline
