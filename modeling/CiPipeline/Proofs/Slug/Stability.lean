import CiPipeline.Proofs.Slug.NormalForm
import CiPipeline.Proofs.Text.Lowering

/-!
# Stability — slugs of slugs

The characters of a slug are hyphens and characters of a lowercase text.  Although hyphens stand where
there was something else, the slug is therefore its own lowercase, and its form leaves nothing to be
replaced or trimmed.

* `Slug.mem_ofChars`: the characters of a slug;
* `Slug.lowerCase_ofChars`: slugs are lowercase;
* `slug_stable`: slugs of slugs, of lowercase names and of names in other letter cases.
-/

namespace CiPipeline
namespace Slug

open Text

theorem mem_collapse {c : Char} {s : List Char} (mem : c ∈ collapse s) : c = '-' ∨ c ∈ s := by
  induction s with
  | nil => cases mem
  | cons d ds ih =>
      cases word : isWordChar d with
      | true =>
          rw [collapse_cons_word word] at mem
          rcases List.mem_cons.1 mem with rfl | rest
          · exact .inr List.mem_cons_self
          · exact (ih rest).imp_right (List.mem_cons_of_mem _)
      | false =>
          rw [collapse_cons_separator word] at mem
          rcases List.mem_cons.1 mem with hyphen | rest
          · exact .inl hyphen
          · exact (ih (List.dropWhile_subset _ rest)).imp_right (List.mem_cons_of_mem _)

theorem mem_trim {c : Char} {s : List Char} (mem : c ∈ trim s) : c ∈ s := by
  rw [trim_eq] at mem
  exact List.dropWhile_subset _ ((List.rdropWhile_prefix _ _).subset mem)

theorem mem_ofChars {c : Char} {name : List Char} (mem : c ∈ ofChars name) :
    c = '-' ∨ c ∈ lowerCase name :=
  mem_collapse (mem_trim mem)

/-- The hyphens of a slug are no capitals, and the other characters are those of a lowercase text. -/
theorem lowerCase_ofChars (name : List Char) : lowerCase (ofChars name) = ofChars name := by
  refine lowerCase_of_small fun c mem => ?_
  rcases mem_ofChars mem with rfl | lower
  · decide +kernel
  · exact small_lowerCase name c lower

theorem ofChars_congr {name other : List Char} (same : lowerCase name = lowerCase other) :
    ofChars name = ofChars other := by
  rw [ofChars, same, ofChars]

end Slug

/-- The slug of a slug is the slug itself, a name and its lowercase have one slug, and so have names that
differ in the case of letters from A to Z. -/
theorem slug_stable (name : String) :
    Slug.ofName (Slug.ofName name) = Slug.ofName name ∧
    Slug.ofName (String.ofList (Text.lowerCase name.toList)) = Slug.ofName name ∧
    ∀ other : String, other.toLower = name.toLower → Slug.ofName other = Slug.ofName name := by
  refine ⟨?_, ?_, fun other same => ?_⟩
  · have normal := Slug.normal_ofName name
    rw [Slug.ofName, normal.ofChars_eq ?_, String.ofList_toList]
    rw [Slug.ofName, String.toList_ofList]
    exact Slug.lowerCase_ofChars name.toList
  · rw [Slug.ofName, String.toList_ofList,
      Slug.ofChars_congr (Text.lowerCase_lowerCase name.toList), Slug.ofName]
  · have letters : other.toList.map Char.toLower = name.toList.map Char.toLower := by
      rw [← Text.toList_toLower, ← Text.toList_toLower, same]
    have lower : Text.lowerCase other.toList = Text.lowerCase name.toList := by
      rw [← Text.lowerCase_map Text.sameLetter_toLower, letters,
        Text.lowerCase_map Text.sameLetter_toLower]
    rw [Slug.ofName, Slug.ofName, Slug.ofChars_congr lower]

/-- The sigma is small because a letter stands in front of it and none behind: in the slug, too, where a
hyphen follows it. -/
theorem slug_stable_sigma :
    "odo\u03A3 bUILD".toLower = "ODO\u03A3 Build".toLower ∧
      Slug.ofName "odo\u03A3 bUILD" = Slug.ofName "ODO\u03A3 Build" ∧
      Slug.ofName "ODO\u03A3 Build" = "odo\u03C2-build" := by
  have same : "odo\u03A3 bUILD".toLower = "ODO\u03A3 Build".toLower := by
    rw [← String.toList_inj, Text.toList_toLower, Text.toList_toLower]
    decide
  have equal := (slug_stable "ODO\u03A3 Build").2.2 "odo\u03A3 bUILD" same
  exact ⟨same, equal, by decide +kernel⟩

end CiPipeline
