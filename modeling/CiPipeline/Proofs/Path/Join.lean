import CiPipeline.Path

/-!
# Join — joining a path to a base once and twice

A path that was joined to a base may be joined to it again.  The second join changes nothing when it
finds an absolute path or an empty base; otherwise it writes the base a second time.

* `Path.lead`: what a base puts before a relative path;
* `Path.Absorbs`: when a second join changes nothing, and `Path.join_join_eq_iff`;
* `Path.Stays`: a base that is made of redundant parts, such as `./`;
* `Path.components_join_join`: what the second join adds to the parts.
-/

namespace CiPipeline
namespace Path

/-! ## The text of a join -/

/-- What stands before a relative path once it is joined: the base, ended by a slash. -/
def lead (base : Path) : List Char :=
  if base.text.toList.getLast? = some '/' then base.text.toList else base.text.toList ++ ['/']

theorem join_of_isAbsolute {path : Path} (absolute : path.isAbsolute = true) (base : Path) :
    base.join path = path := by
  simp [join, absolute]

theorem join_of_empty {base : Path} (empty : base.text = "") (path : Path) :
    base.join path = path := by
  simp [join, empty]

theorem toList_join {base path : Path} (relative : path.isAbsolute = false)
    (written : base.text ≠ "") :
    (base.join path).text.toList = base.lead ++ path.text.toList := by
  have kept : (path.isAbsolute || base.text.isEmpty) = false := by simp [relative, written]
  unfold join lead
  rw [kept]
  by_cases ended : base.text.toList.getLast? = some '/' <;> simp [ended]

theorem head?_lead {base : Path} (written : base.text ≠ "") :
    base.lead.head? = base.text.toList.head? := by
  have nonempty : base.text.toList ≠ [] := by simpa using written
  rcases List.exists_cons_of_ne_nil nonempty with ⟨c, cs, shape⟩
  unfold lead
  split <;> simp [shape]

theorem isAbsolute_join (base path : Path) :
    (base.join path).isAbsolute = (path.isAbsolute || base.isAbsolute) := by
  by_cases absolute : path.isAbsolute = true
  · rw [join_of_isAbsolute absolute, absolute, Bool.true_or]
  by_cases empty : base.text = ""
  · rw [join_of_empty empty]
    simp [isAbsolute, empty]
  have relative : path.isAbsolute = false := by simpa using absolute
  have nonempty : base.lead ≠ [] := by
    unfold lead
    split <;> simp [empty]
  rcases List.exists_cons_of_ne_nil nonempty with ⟨c, cs, shape⟩
  have first : base.text.toList.head? = some c := by rw [← head?_lead empty, shape]; rfl
  rw [relative, Bool.false_or]
  unfold isAbsolute
  rw [toList_join relative empty, first, shape]
  rfl

/-! ## Joining twice -/

/-- A path joined to the base is not changed by the base any more. -/
def Absorbs (base path : Path) : Prop :=
  base.isAbsolute = true ∨ path.isAbsolute = true ∨ base.text = ""

instance (base path : Path) : Decidable (base.Absorbs path) :=
  inferInstanceAs (Decidable (_ ∨ _ ∨ _))

/-- The text of a second join that writes the base again. -/
theorem toList_join_join {base path : Path} (again : ¬ base.Absorbs path) :
    (base.join (base.join path)).text.toList = base.lead ++ (base.join path).text.toList := by
  simp only [Absorbs, not_or, Bool.not_eq_true] at again
  rcases again with ⟨relativeBase, relative, written⟩
  refine toList_join ?_ written
  rw [isAbsolute_join, relative, relativeBase]
  rfl

theorem join_join_eq_iff (base path : Path) :
    base.join (base.join path) = base.join path ↔ base.Absorbs path := by
  constructor
  · intro same
    refine Decidable.byContradiction fun again => ?_
    -- Joining the base again would put a text in front that is not empty.
    have text := toList_join_join again
    rw [same] at text
    have none : base.lead = [] := by simpa using text.symm
    unfold lead at none
    split at none
    · rename_i ended
      simp [none] at ended
    · simp at none
  · rintro (absolute | absolute | empty)
    · exact join_of_isAbsolute (by simp [isAbsolute_join, absolute]) base
    · exact join_of_isAbsolute (by simp [isAbsolute_join, absolute]) base
    · exact join_of_empty empty _

/-! ## The parts of a join -/

theorem split_ne_nil (cs : List Char) : split cs ≠ [] := by
  cases cs with
  | nil => simp [split]
  | cons c rest =>
      unfold split
      split
      · simp
      · split <;> simp

theorem split_append_slash (as cs : List Char) :
    split (as ++ '/' :: cs) = split as ++ split cs := by
  induction as with
  | nil => simp [split]
  | cons a as ih =>
      by_cases slash : a = '/'
      · simp [split, slash, ih]
      · -- The character joins the first part of what follows.
        rcases List.exists_cons_of_ne_nil (split_ne_nil as) with ⟨part, parts, shape⟩
        simp [split, slash, ih, shape]

theorem mem_of_mem_split {cs : List Char} {c : Char} (mem : c ∈ cs) :
    c = '/' ∨ ∃ part ∈ split cs, c ∈ part := by
  induction cs with
  | nil => cases mem
  | cons a cs ih =>
      by_cases slash : a = '/'
      · rcases List.mem_cons.1 mem with rfl | mem
        · exact .inl slash
        · refine (ih mem).imp_right ?_
          rintro ⟨part, there, within⟩
          exact ⟨part, by simp [split, slash, there], within⟩
      · rcases List.exists_cons_of_ne_nil (split_ne_nil cs) with ⟨first, parts, shape⟩
        have shape' : split (a :: cs) = (a :: first) :: parts := by simp [split, slash, shape]
        rw [shape']
        rcases List.mem_cons.1 mem with rfl | mem
        · exact .inr ⟨_, List.mem_cons_self, List.mem_cons_self⟩
        · refine (ih mem).imp_right ?_
          rw [shape]
          rintro ⟨part, there, within⟩
          rcases List.mem_cons.1 there with rfl | there
          · exact ⟨_, List.mem_cons_self, List.mem_cons_of_mem _ within⟩
          · exact ⟨part, List.mem_cons_of_mem _ there, within⟩

/-- All parts are redundant, so that following the path leads nowhere else. -/
def Stays (base : Path) : Prop := ∀ part ∈ split base.text.toList, redundant part = true

instance (base : Path) : Decidable base.Stays :=
  inferInstanceAs (Decidable (∀ part ∈ split base.text.toList, redundant part = true))

theorem redundant_iff {part : List Char} : redundant part = true ↔ part = [] ∨ part = ['.'] := by
  simp [redundant]

/-- The lead of a base that stays is a sequence of redundant parts. -/
theorem Stays.lead_eq {base : Path} (stays : base.Stays) :
    ∃ as, base.lead = as ++ ['/'] ∧ ∀ part ∈ split as, redundant part = true := by
  unfold lead
  split
  · rename_i ended
    rcases List.getLast?_eq_some_iff.1 ended with ⟨as, shape⟩
    refine ⟨as, shape, fun part mem => stays part ?_⟩
    rw [shape, split_append_slash]
    exact List.mem_append_left _ mem
  · exact ⟨base.text.toList, rfl, stays⟩

/-- The lead of a base that stays has no characters but dots and slashes. -/
theorem Stays.mem_lead {base : Path} (stays : base.Stays) {c : Char} (mem : c ∈ base.lead) :
    c = '.' ∨ c = '/' := by
  rcases stays.lead_eq with ⟨as, shape, redundant⟩
  rw [shape] at mem
  rcases List.mem_append.1 mem with mem | mem
  · rcases mem_of_mem_split mem with slash | ⟨part, there, within⟩
    · exact .inr slash
    · rcases redundant_iff.1 (redundant part there) with rfl | rfl
      · cases within
      · exact .inl (List.mem_singleton.1 within)
  · exact .inr (List.mem_singleton.1 mem)

theorem components_of_relative {p : Path} (relative : p.isAbsolute = false)
    (written : p.text ≠ "") :
    p.components = (split p.text.toList).map String.ofList := by
  simp [components, relative, written]

/-- A second join to a base that stays puts redundant parts before those of the first. -/
theorem components_join_join {base path : Path} (again : ¬ base.Absorbs path) (stays : base.Stays) :
    ∃ parts : List String, (∀ part ∈ parts, part = "" ∨ part = ".") ∧
      (base.join (base.join path)).components = parts ++ (base.join path).components ∧
      (base.join path).components ≠ [] := by
  rcases stays.lead_eq with ⟨as, shape, redundant⟩
  have text := toList_join_join again
  simp only [Absorbs, not_or, Bool.not_eq_true] at again
  rcases again with ⟨relativeBase, relative, written⟩
  have nonempty : base.lead ≠ [] := by simp [shape]
  have once : (base.join path).isAbsolute = false := by
    simp [isAbsolute_join, relative, relativeBase]
  have twice : (base.join (base.join path)).isAbsolute = false := by
    simp [isAbsolute_join, once, relativeBase]
  have onceText : (base.join path).text ≠ "" := by
    intro empty
    have none := toList_join relative written
    simp [empty, nonempty] at none
  have twiceText : (base.join (base.join path)).text ≠ "" := by
    intro empty
    simp [empty, nonempty] at text
  refine ⟨(split as).map String.ofList, ?_, ?_, ?_⟩
  · intro part mem
    rcases List.mem_map.1 mem with ⟨cs, there, rfl⟩
    rcases redundant_iff.1 (redundant cs there) with rfl | rfl
    · exact .inl rfl
    · exact .inr rfl
  · rw [components_of_relative twice twiceText, components_of_relative once onceText, text, shape,
      List.append_assoc, List.singleton_append, split_append_slash, List.map_append]
  · rw [components_of_relative once onceText]
    simpa using split_ne_nil _

end Path
end CiPipeline
