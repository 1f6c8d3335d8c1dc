import Mathlib.Data.List.Chain
import Mathlib.Data.List.DropRight
import CiPipeline.Proofs.Text.MaximalRuns
import CiPipeline.Slug

/-!
# NormalForm — the form of slugs

A slug is made by replacing and trimming.  What comes out are the words of the lowercase, joined by
single hyphens.

* `Slug.collapse_cons_separator`: a replaced text has at most one hyphen in front;
* `Slug.trim_collapse`: replacing and trimming is joining the maximal runs;
* `Slug.Normal`: the form of a slug, and `Slug.Normal.ofChars_eq`: nothing is done to it;
* `slug_normal_form`: slugs of names.
-/

namespace CiPipeline
namespace Slug

open Text

/-- Whether a character is a hyphen. -/
abbrev isHyphen (c : Char) : Bool := c == '-'

theorem isWordChar_hyphen : isWordChar '-' = false := by decide +kernel

theorem isHyphen_of_isWordChar {c : Char} (word : isWordChar c = true) : isHyphen c = false := by
  have other : c ≠ '-' := by
    rintro rfl
    cases word.symm.trans isWordChar_hyphen
  simpa using other

/-! ## Replacing -/

theorem collapse_cons_word {c : Char} (word : isWordChar c = true) (cs : List Char) :
    collapse (c :: cs) = c :: collapse cs := by
  rw [collapse, if_pos word]

theorem collapse_word_append {w : List Char} (word : ∀ c ∈ w, isWordChar c = true)
    (rest : List Char) : collapse (w ++ rest) = w ++ collapse rest := by
  induction w with
  | nil => rfl
  | cons c cs ih =>
      rw [List.cons_append, collapse_cons_word (word c List.mem_cons_self),
        ih fun d mem => word d (List.mem_cons_of_mem _ mem)]
      rfl

theorem dropWhile_of_not {c : Char} (other : isHyphen c = false) (cs : List Char) :
    (c :: cs).dropWhile isHyphen = c :: cs := by
  rw [List.dropWhile_cons, if_neg (by simp [other])]

/-- A separator becomes a hyphen, and those that the text goes on with become the same one. -/
theorem collapse_cons_separator {c : Char} (out : isWordChar c = false) (cs : List Char) :
    collapse (c :: cs) = '-' :: (collapse cs).dropWhile isHyphen := by
  induction cs generalizing c with
  | nil => simp [collapse, out]
  | cons d ds ih =>
      rw [collapse, if_neg (by simp [out])]
      cases word : isWordChar d with
      | true =>
          have other := isHyphen_of_isWordChar word
          rw [collapse_cons_word word, dropWhile_of_not other]
          split
          · -- A word does not begin with a hyphen.
            rename_i same
            cases same
            cases other
          · rfl
      | false =>
          -- The hyphen is there already.
          rw [ih word, List.dropWhile_cons, if_pos (by decide), List.dropWhile_idempotent]
          rfl

theorem dropWhile_collapse_gap {g : List Char} (out : ∀ c ∈ g, isWordChar c = false)
    (rest : List Char) :
    (collapse (g ++ rest)).dropWhile isHyphen = (collapse rest).dropWhile isHyphen := by
  induction g with
  | nil => rfl
  | cons c cs ih =>
      rw [List.cons_append, collapse_cons_separator (out c List.mem_cons_self), List.dropWhile_cons,
        if_pos (by decide), List.dropWhile_idempotent]
      exact ih fun d mem => out d (List.mem_cons_of_mem _ mem)

/-! ## Trimming -/

theorem trim_eq (s : List Char) : trim s = (s.dropWhile isHyphen).rdropWhile isHyphen := rfl

/-- Nothing is trimmed off a word. -/
theorem rdropWhile_word_append {w : List Char} (nonempty : w ≠ [])
    (word : ∀ c ∈ w, isWordChar c = true) (rest : List Char) :
    (w ++ rest).rdropWhile isHyphen = w ++ rest.rdropWhile isHyphen := by
  have whole : w.rdropWhile isHyphen = w := by
    refine List.rdropWhile_eq_self_iff.2 fun _ => ?_
    simp [isHyphen_of_isWordChar (word _ (List.getLast_mem nonempty))]
  unfold List.rdropWhile at whole ⊢
  rw [List.reverse_append, List.dropWhile_append]
  split
  · rename_i none
    rw [whole, List.isEmpty_iff.1 none]
    simp
  · simp

theorem rdropWhile_hyphen_cons {s : List Char} (kept : s.rdropWhile isHyphen ≠ []) :
    ('-' :: s).rdropWhile isHyphen = '-' :: s.rdropWhile isHyphen := by
  unfold List.rdropWhile at kept ⊢
  rw [List.reverse_cons, List.dropWhile_append, if_neg (by simpa using kept)]
  simp

/-! ## Words and hyphens -/

theorem intercalate_ne_nil {w : List Char} {ws : List (List Char)}
    (solid : ∀ v ∈ w :: ws, v ≠ [] ∧ ∀ c ∈ v, isWordChar c = true) :
    ['-'].intercalate (w :: ws) ≠ [] := by
  have nonempty := (solid w List.mem_cons_self).1
  cases ws with
  | nil => simpa using nonempty
  | cons v vs => simp

/-- Replacing and trimming joins the maximal runs by single hyphens. -/
theorem trim_collapse {s : List Char} {ws : List (List Char)}
    (split : MaximalRuns isWordChar s ws) : trim (collapse s) = ['-'].intercalate ws := by
  induction split with
  | @gap gap out =>
      have nothing := dropWhile_collapse_gap out []
      rw [List.append_nil] at nothing
      rw [trim_eq, nothing]
      rfl
  | @run gap w rest ws out nonempty word ends onward ih =>
      -- The first word is what the trimmed text begins with, and no hyphen of it is trimmed off.
      have front : (collapse (gap ++ (w ++ rest))).dropWhile isHyphen = w ++ collapse rest := by
        rw [dropWhile_collapse_gap out, collapse_word_append word]
        cases w with
        | nil => exact absurd rfl nonempty
        | cons c cs => exact dropWhile_of_not (isHyphen_of_isWordChar (word c List.mem_cons_self)) _
      rw [trim_eq, front, rdropWhile_word_append nonempty word]
      cases ws with
      | nil =>
          -- Behind the last word there are hyphens only.
          have nothing := dropWhile_collapse_gap (onward.eq_nil_iff.1 rfl) []
          rw [List.append_nil] at nothing
          have hyphens : (collapse rest).rdropWhile isHyphen = [] :=
            List.rdropWhile_eq_nil_iff.2 (List.dropWhile_eq_nil_iff.1 nothing)
          rw [hyphens, List.append_nil, List.intercalate_singleton]
      | cons v vs =>
          -- Before the next word there are separators, which become one hyphen.
          obtain ⟨c, cs, rfl⟩ : ∃ c cs, rest = c :: cs := by
            refine List.exists_cons_of_ne_nil fun empty => ?_
            have none := onward.eq_nil_iff.2 (by simp [empty])
            cases none
          have separator : isWordChar c = false := by simpa using ends
          have behind : (collapse (c :: cs)).dropWhile isHyphen =
              (collapse cs).dropWhile isHyphen := by
            exact dropWhile_collapse_gap (g := [c]) (by simp [separator]) cs
          rw [trim_eq, behind] at ih
          have kept : ((collapse cs).dropWhile isHyphen).rdropWhile isHyphen ≠ [] := by
            rw [ih]
            exact intercalate_ne_nil onward.solid
          rw [collapse_cons_separator separator, rdropWhile_hyphen_cons kept, ih,
            List.intercalate_cons_cons, List.append_assoc]
          rfl

/-! ## The form of a slug -/

/-- Words and hyphens, with no hyphen at either end and no two hyphens side by side. -/
structure Normal (s : List Char) : Prop where
  chars : ∀ c ∈ s, isWordChar c = true ∨ c = '-'
  first : s.head? ≠ some '-'
  last : s.getLast? ≠ some '-'
  single : s.IsChain fun c d => ¬ (c = '-' ∧ d = '-')

theorem Normal.nil : Normal [] := ⟨by simp, by simp, by simp, .nil⟩

theorem Normal.word {w : List Char} (word : ∀ c ∈ w, isWordChar c = true) : Normal w := by
  have other : ∀ c ∈ w, c ≠ '-' := by
    rintro c mem rfl
    cases (word _ mem).symm.trans isWordChar_hyphen
  refine ⟨fun c mem => .inl (word c mem), fun same => ?_, fun same => ?_, ?_⟩
  · exact other '-' (List.mem_of_head? same) rfl
  · exact other '-' (List.mem_of_getLast? same) rfl
  · exact List.isChain_iff_getElem.2 fun i _ both => other _ (List.getElem_mem _) both.1

/-- A hyphen between two texts of this form joins them to one. -/
theorem Normal.join {s t : List Char} (one : Normal s) (other : Normal t) (filled : s ≠ [])
    (filled' : t ≠ []) : Normal (s ++ '-' :: t) where
  chars := by
    intro c mem
    rcases List.mem_append.1 mem with mem | mem
    · exact one.chars c mem
    · rcases List.mem_cons.1 mem with rfl | mem
      · exact .inr rfl
      · exact other.chars c mem
  first := by
    rw [List.head?_append_of_ne_nil _ filled]
    exact one.first
  last := by
    rw [List.getLast?_append_of_ne_nil _ (by simp), List.getLast?_cons_of_ne_nil filled']
    exact other.last
  single := by
    refine List.isChain_append.2 ⟨one.single, List.isChain_cons.2 ⟨?_, other.single⟩, ?_⟩
    · rintro d start ⟨_, rfl⟩
      exact other.first start
    · rintro c stop d _ ⟨rfl, _⟩
      exact one.last stop

theorem normal_intercalate {ws : List (List Char)}
    (solid : ∀ w ∈ ws, w ≠ [] ∧ ∀ c ∈ w, isWordChar c = true) : Normal (['-'].intercalate ws) := by
  induction ws with
  | nil => exact .nil
  | cons w ws ih =>
      rcases List.forall_mem_cons.1 solid with ⟨⟨nonempty, word⟩, others⟩
      cases ws with
      | nil =>
          rw [List.intercalate_singleton]
          exact .word word
      | cons v vs =>
          rw [List.intercalate_cons_cons, List.append_assoc]
          exact (Normal.word word).join (ih others) nonempty (intercalate_ne_nil others)

/-! ## Slugs of slugs -/

theorem collapse_normal {s : List Char} (chars : ∀ c ∈ s, isWordChar c = true ∨ c = '-')
    (single : s.IsChain fun c d => ¬ (c = '-' ∧ d = '-')) : collapse s = s := by
  induction s with
  | nil => rfl
  | cons c cs ih =>
      have rest := ih (fun d mem => chars d (List.mem_cons_of_mem _ mem)) single.tail
      rcases chars c List.mem_cons_self with word | rfl
      · rw [collapse_cons_word word, rest]
      · -- No second hyphen follows that would be left out.
        rw [collapse_cons_separator isWordChar_hyphen, rest]
        cases cs with
        | nil => rfl
        | cons d ds =>
            have other : d ≠ '-' := fun same => (List.isChain_cons_cons.1 single).1 ⟨rfl, same⟩
            rw [dropWhile_of_not (by simpa using other)]

theorem Normal.trim_eq {s : List Char} (normal : Normal s) : trim s = s := by
  have front : s.dropWhile isHyphen = s := by
    cases s with
    | nil => rfl
    | cons c cs => exact dropWhile_of_not (by simpa using normal.first) cs
  rw [Slug.trim_eq, front]
  refine List.rdropWhile_eq_self_iff.2 fun filled hyphen => normal.last ?_
  rw [List.getLast?_eq_some_getLast filled, beq_iff_eq.1 hyphen]

/-- A lowercase text of this form is its own slug. -/
theorem Normal.ofChars_eq {s : List Char} (normal : Normal s) (lower : lowerCase s = s) :
    ofChars s = s := by
  rw [ofChars, lower, collapse_normal normal.chars normal.single, normal.trim_eq]

/-! ## Slugs of names -/

theorem ofChars_eq (name : List Char) :
    ofChars name = ['-'].intercalate (runs isWordChar (lowerCase name)) :=
  trim_collapse (maximalRuns_runs isWordChar (lowerCase name))

theorem normal_ofName (name : String) : Normal (ofName name).toList := by
  rw [ofName, String.toList_ofList, ofChars_eq]
  exact normal_intercalate (maximalRuns_runs isWordChar (lowerCase name.toList)).solid

end Slug

/-- The slug of a name has the maximal runs of letters, marks and digits of the lowercase, in their
order, with single hyphens between them.  So it has the form of a slug; it is empty if there are no such
characters; and a lowercase name that has the form of a slug is its own slug. -/
theorem slug_normal_form (name : String) :
    (∃ ws, Text.MaximalRuns Text.isWordChar (Text.lowerCase name.toList) ws ∧
      (Slug.ofName name).toList = ['-'].intercalate ws) ∧
    Slug.Normal (Slug.ofName name).toList ∧
    (Slug.ofName name = "" ↔ ∀ c ∈ Text.lowerCase name.toList, Text.isWordChar c = false) ∧
    (Text.lowerCase name.toList = name.toList → Slug.Normal name.toList →
      Slug.ofName name = name) := by
  have split := Text.maximalRuns_runs Text.isWordChar (Text.lowerCase name.toList)
  have joined : (Slug.ofName name).toList =
      ['-'].intercalate (Text.runs Text.isWordChar (Text.lowerCase name.toList)) := by
    rw [Slug.ofName, String.toList_ofList, Slug.ofChars_eq]
  refine ⟨⟨_, split, joined⟩, Slug.normal_ofName name, ?_, fun lower normal => ?_⟩
  · rw [← split.eq_nil_iff, ← String.toList_inj, joined]
    have solid := split.solid
    cases runs : Text.runs Text.isWordChar (Text.lowerCase name.toList) with
    | nil => simp
    | cons w ws =>
        rw [runs] at solid
        exact iff_of_false (Slug.intercalate_ne_nil solid) (by simp)
  · rw [Slug.ofName, normal.ofChars_eq lower, String.ofList_toList]

-- The lowercase of the first letter has a mark, which is no separator.
example : Slug.ofName "--\u0130stanbul & Co." = "i\u0307stanbul-co" := by decide +kernel

end CiPipeline
