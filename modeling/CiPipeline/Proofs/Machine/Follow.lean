import CiPipeline.Machine.FileSystem
import CiPipeline.Proofs.Path.Join

/-!
# Follow — redundant parts of a path

A part that is empty or a dot leads from a directory to itself.  Joining a path a second time to a
base such as `./` adds such parts only, so the same file is found, unless the text gets too long.

* `FileSystem.follow_redundant`: redundant parts before others are passed over;
* `FileSystem.locate_join_join`: where a path leads that was joined twice.
-/

namespace CiPipeline
namespace FileSystem

/-- The parts that come after are followed from a directory too, so a redundant part adds no
condition of its own. -/
theorem follow_redundant (fs : FileSystem) (links : Nat) (here : Location)
    {parts rest : List String} (redundant : ∀ part ∈ parts, part = "" ∨ part = ".")
    (more : rest ≠ []) :
    fs.follow links here (parts ++ rest) = fs.follow links here rest := by
  induction parts with
  | nil => rfl
  | cons part parts ih =>
      have first := redundant part List.mem_cons_self
      have others := ih fun part mem => redundant part (List.mem_cons_of_mem _ mem)
      rw [List.cons_append, follow]
      by_cases directory : fs.isDirectory here = true
      · simp [directory, first, others]
      · -- Where there is no directory, the next part fails just as the redundant one does.
        rcases List.exists_cons_of_ne_nil more with ⟨next, last, rfl⟩
        rw [follow]
        simp [directory]

/-- A second join to a base that stays leads to the same place, unless the text gets too long. -/
theorem locate_join_join (fs : FileSystem) (directory : Location) {base path : Path}
    (stays : base.Stays)
    (short : (base.join (base.join path)).text.utf8ByteSize ≤ longestPath) :
    fs.locate directory (base.join (base.join path)) = fs.locate directory (base.join path) := by
  by_cases once : base.Absorbs path
  · rw [(Path.join_join_eq_iff base path).2 once]
  have text := Path.toList_join_join once
  rcases Path.components_join_join once stays with ⟨parts, redundant, components, more⟩
  -- The text in front is made of dots and slashes, so it brings in no zero byte.
  have zero : (base.join (base.join path)).text.toList.contains '\x00' =
      (base.join path).text.toList.contains '\x00' := by
    have absent : '\x00' ∉ base.lead := by
      intro mem
      rcases stays.mem_lead mem with h | h <;> cases h
    rw [text]
    simp [absent]
  have shorter : (base.join path).text.utf8ByteSize ≤
      (base.join (base.join path)).text.utf8ByteSize := by
    have whole : (base.join (base.join path)).text =
        .ofList base.lead ++ (base.join path).text := by
      rw [← String.toList_inj, text, String.toList_append, String.toList_ofList]
    calc
      (base.join path).text.utf8ByteSize
          ≤ (String.ofList base.lead).utf8ByteSize + (base.join path).text.utf8ByteSize :=
            Nat.le_add_left _ _
      _ = (base.join (base.join path)).text.utf8ByteSize := by
            rw [whole, String.utf8ByteSize_append]
  have written : (base.join path).text ≠ "" := by
    intro empty
    exact more (by simp [Path.components, empty])
  have writtenTwice : (base.join (base.join path)).text ≠ "" := by
    intro empty
    have size : (base.join path).text.utf8ByteSize = 0 := by
      rw [empty] at shorter
      exact Nat.le_zero.1 shorter
    exact written (String.utf8ByteSize_eq_zero_iff.1 size)
  have start : (base.join (base.join path)).isAbsolute = (base.join path).isAbsolute := by
    simp only [Path.Absorbs, not_or, Bool.not_eq_true] at once
    simp only [Path.isAbsolute_join, once.1, Bool.or_false]
  unfold locate
  rw [zero, start, components, follow_redundant fs linkLimit _ redundant more]
  simp [written, writtenTwice, Nat.not_lt.2 short, Nat.not_lt.2 (Nat.le_trans shorter short)]

theorem present_join_join (fs : FileSystem) (directory : Location) {base path : Path}
    (stays : base.Stays)
    (short : (base.join (base.join path)).text.utf8ByteSize ≤ longestPath) :
    fs.present directory (base.join (base.join path)) = fs.present directory (base.join path) := by
  simp only [present, entryAt, locateExisting, locate_join_join fs directory stays short]

theorem readText_join_join (fs : FileSystem) (directory : Location) {base path : Path}
    (stays : base.Stays)
    (short : (base.join (base.join path)).text.utf8ByteSize ≤ longestPath) :
    fs.readText directory (base.join (base.join path)) =
      fs.readText directory (base.join path) := by
  simp only [readText, readBytes, locateExisting, locate_join_join fs directory stays short]

end FileSystem
end CiPipeline
