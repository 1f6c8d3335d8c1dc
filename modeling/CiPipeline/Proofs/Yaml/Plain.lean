import CiPipeline.Yaml.Scalar
import CiPipeline.Yaml.Writer

/-!
# Plain — plain scalars are read back

A text is written plain when none of its characters could be taken for a sign.  The reader of plain
scalars then passes over all of it, the blanks between its words included, and stops at the colon
after a name or at a line that does not belong to the scalar.

* `isPrintable`: what the characters are not that need no escape;
* `Solid`: text that begins with a token;
* `plainFrom_append`: a text that may be plain is read in front of anything;
* `IsPlain.before_colon`, `IsPlain.before_line`: where the scalar ends.
-/

namespace CiPipeline
namespace Yaml

/-! ## Characters -/

theorem isAllowed_of_isPrintable {c : Char} (printable : isPrintable c = true) :
    isAllowed c = true := by
  simp only [isPrintable, isAllowed, Bool.or_eq_true, Bool.and_eq_true, decide_eq_true_eq,
    beq_iff_eq] at printable ⊢
  omega

theorem ne_of_isPrintable {c d : Char} (printable : isPrintable c = true)
    (unprintable : isPrintable d = false) : c ≠ d := by
  intro same
  rw [same, unprintable] at printable
  cases printable

/-- Of the blanks only the space needs no escape. -/
theorem eq_space_of_isBlank {c : Char} (printable : isPrintable c = true)
    (blank : isBlank c = true) : c = ' ' := by
  have noTab : c ≠ '\t' := ne_of_isPrintable printable (by decide)
  simpa [isBlank, noTab] using blank

/-- What is left when the space and the line breaks are left out. -/
theorem solid_of_isPrintable {c : Char} (printable : isPrintable c = true) (notSpace : c ≠ ' ')
    (notBreak : isBreak c = false) : isBlankOrBreak c = false := by
  have notBlank : isBlank c = false := by
    rw [← Bool.not_eq_true]
    exact fun blank => notSpace (eq_space_of_isBlank printable blank)
  rw [isBlankOrBreak, notBlank, notBreak]
  rfl

/-- Of the line breaks two besides the line feed need no escape; they are read as they are. -/
theorem lineBreak_of_isPrintable {c : Char} (printable : isPrintable c = true)
    (breaks : isBreak c = true) : lineBreak c = c := by
  have noReturn : c ≠ '\r' := ne_of_isPrintable printable (by decide)
  have noNextLine : c ≠ '\u0085' := ne_of_isPrintable printable (by decide)
  simp only [isBreak, Bool.or_eq_true, beq_iff_eq, noReturn, noNextLine, or_false] at breaks
  rcases breaks with (rfl | rfl) | rfl <;> decide

/-! ## Places -/

namespace Mark

@[simp] theorem forward_zero (m : Mark) : m.forward 0 = m := rfl

@[simp] theorem next_forward (m : Mark) (n : Nat) : m.next.forward n = m.forward (n + 1) := by
  simp only [next, forward, mk.injEq, true_and]
  omega

@[simp] theorem forward_next (m : Mark) (n : Nat) : (m.forward n).next = m.forward (n + 1) := rfl

@[simp] theorem forward_forward (m : Mark) (n k : Nat) :
    (m.forward n).forward k = m.forward (n + k) := by
  simp only [forward, mk.injEq, true_and]
  omega

@[simp] theorem forward_line (m : Mark) (n : Nat) : (m.forward n).line = m.line := rfl

@[simp] theorem forward_column (m : Mark) (n : Nat) : (m.forward n).column = m.column + n := rfl

@[simp] theorem forward_index (m : Mark) (n : Nat) : (m.forward n).index = m.index + n := rfl

end Mark

/-- A text that begins with a token, or is empty. -/
def Solid (cs : List Char) : Prop := ∀ c ∈ cs.head?, isBlankOrBreak c = false

theorem isBlank_of_isBlankOrBreak {c : Char} (solid : isBlankOrBreak c = false) :
    isBlank c = false ∧ isBreak c = false := by
  simpa [isBlankOrBreak] using solid

theorem not_return_of_isBreak {c : Char} (solid : isBreak c = false) : c ≠ '\r' := by
  rintro rfl
  exact absurd solid (by decide)

/-! ## Texts without signs -/

/-- What is known of the characters that follow `previous` in a text that is written plain. -/
structure Signless (previous : Char) (cs : List Char) : Prop where
  printable : ∀ c ∈ cs, isPrintable c = true
  unbroken : ∀ c ∈ cs, isBreak c = false
  signs : holdsSign (previous :: cs) = false
  last : (previous :: cs).getLast? ≠ some ' '

namespace Signless

variable {previous c : Char} {cs : List Char}

theorem tail (signless : Signless previous (c :: cs)) : Signless c cs where
  printable d mem := signless.printable d (List.mem_cons_of_mem _ mem)
  unbroken d mem := signless.unbroken d (List.mem_cons_of_mem _ mem)
  signs := by
    have signs := signless.signs
    rw [holdsSign, Bool.or_eq_false_iff] at signs
    exact signs.2
  last := by simpa only [List.getLast?_cons_cons] using signless.last

theorem not_comment (signless : Signless ' ' (c :: cs)) : c ≠ '#' := by
  rintro rfl
  exact absurd signless.signs (by simp [holdsSign, isBlankOrBreak, isBlank])

/-- A colon is followed by some character that is no blank. -/
theorem not_end (signless : Signless previous (c :: cs)) (behind : List Char) :
    (c == ':' && blankAhead (cs ++ behind)) = false := by
  by_cases colon : c = ':'
  · have signs := signless.signs
    simp only [holdsSign, Bool.or_eq_false_iff, colon, List.head?_cons, BEq.rfl, Bool.true_and,
      List.drop_one, List.tail_cons] at signs
    cases cs with
    | nil => exact absurd signs.1.2 (by decide)
    | cons d rest =>
        have solid : isBlankOrBreak d = false := signs.1.2
        simp [blankAhead, solid]
  · simp [colon]

end Signless

/-! ## Reading over a text -/

/-- Blanks that follow no line break are kept. -/
theorem Gap.addBlank_of_unbroken (gap : Gap) (unbroken : gap.hasBreaks = false) (c : Char) :
    (gap.addBlank c).hasBreaks = false ∧ (gap.addBlank c).text = gap.text ++ [c] := by
  cases gap with
  | none => exact ⟨rfl, rfl⟩
  | blanks read => exact ⟨rfl, rfl⟩
  | breaks first more => cases unbroken

section Reading

variable {context : PlainContext}

/-- A character other than a carriage return. -/
theorem plainFrom_cons {c : Char} (notReturn : c ≠ '\r') (gap : Gap) (m : Mark)
    (rest : List Char) :
    plainFrom context gap m (c :: rest) =
      if isBlank c then
        if gap.hasBreaks && m.column < context.indent && c == '\t' then none
        else plainFrom context (gap.addBlank c) m.next rest
      else if isBreak c then plainFrom context (gap.addBreak (lineBreak c)) (m.newLine 1) rest
      else if gap != .none && context.stopsBefore (c :: rest) m then
        some ([], gap.hasBreaks, ⟨c :: rest, m⟩)
      else if context.forbids c rest then none
      else if context.ends c rest then some ([], gap.hasBreaks, ⟨c :: rest, m⟩)
      else (plainFrom context .none m.next rest).map fun read =>
        (gap.text ++ c :: read.1, read.2) := by
  rw [plainFrom]
  · cases plainFrom context .none m.next rest <;> rfl
  · intro _ isReturn
    exact absurd isReturn notReturn

theorem plainFrom_space {gap : Gap} (unbroken : gap.hasBreaks = false) (m : Mark)
    (rest : List Char) :
    plainFrom context gap m (' ' :: rest) = plainFrom context (gap.addBlank ' ') m.next rest := by
  rw [plainFrom_cons (by decide)]
  simp [isBlank, unbroken]

/-- A character that belongs to the scalar, after the blanks in front of it. -/
theorem plainFrom_char (outside : context.inFlow = false) {gap : Gap} {m : Mark} {c : Char}
    {rest : List Char} (solid : isBlankOrBreak c = false)
    (goesOn : gap = .none ∨ context.indent ≤ m.column ∧ 0 < m.column ∧ c ≠ '#')
    (notEnd : (c == ':' && blankAhead rest) = false) :
    plainFrom context gap m (c :: rest) =
      (plainFrom context .none m.next rest).map fun read => (gap.text ++ c :: read.1, read.2) := by
  rcases isBlank_of_isBlankOrBreak solid with ⟨notBlank, notBreak⟩
  have goes : (gap != .none && context.stopsBefore (c :: rest) m) = false := by
    rcases goesOn with rfl | ⟨deep, inside, notComment⟩
    · rfl
    · have start : (m.column == 0) = false := by simpa using Nat.ne_of_gt inside
      simp [PlainContext.stopsBefore, start, notComment, Nat.not_lt.2 deep]
  have allowed : context.forbids c rest = false := by simp [PlainContext.forbids, outside]
  have inner : context.ends c rest = false := by
    rw [PlainContext.ends, notEnd, outside]
    rfl
  rw [plainFrom_cons (not_return_of_isBreak notBreak)]
  simp only [notBlank, notBreak, goes, allowed, inner, Bool.false_eq_true, if_false]

/-- The gap in front of a text that goes on: nothing, or blanks that were read before. -/
theorem plainFrom_append (outside : context.inFlow = false) {previous : Char} {cs : List Char}
    (signless : Signless previous cs) (gap : Gap) (unbroken : gap.hasBreaks = false)
    (blank : gap = .none ∨ previous = ' ') {m : Mark} (deep : context.indent ≤ m.column)
    (inside : 0 < m.column) (behind : List Char) :
    plainFrom context gap m (cs ++ behind) =
      (plainFrom context .none (m.forward cs.length) behind).map
        fun read => (gap.text ++ cs ++ read.1, read.2) := by
  induction cs generalizing previous gap m with
  | nil =>
      have none : gap = .none := by
        rcases blank with none | rfl
        · exact none
        · exact absurd rfl signless.last
      rw [none, List.nil_append, List.length_nil, Mark.forward_zero]
      cases plainFrom context .none m behind <;> rfl
  | cons c rest ih =>
      have printable := signless.printable c (List.mem_cons_self ..)
      have notBreak := signless.unbroken c (List.mem_cons_self ..)
      by_cases space : c = ' '
      · subst space
        rcases gap.addBlank_of_unbroken unbroken ' ' with ⟨wider, text⟩
        have later := ih signless.tail _ wider (Or.inr rfl) (m := m.next)
          (Nat.le_succ_of_le deep) (Nat.succ_pos _)
        rw [List.cons_append, plainFrom_space unbroken, later, Mark.next_forward, text]
        simp only [List.append_assoc, List.length_cons, List.cons_append, List.nil_append]
      · have solid : isBlankOrBreak c = false := solid_of_isPrintable printable space notBreak
        have goesOn : gap = .none ∨ context.indent ≤ m.column ∧ 0 < m.column ∧ c ≠ '#' := by
          rcases blank with none | rfl
          · exact Or.inl none
          · exact Or.inr ⟨deep, inside, signless.not_comment⟩
        have later := ih signless.tail .none rfl (Or.inl rfl) (m := m.next)
          (Nat.le_succ_of_le deep) (Nat.succ_pos _)
        rw [List.cons_append, plainFrom_char outside solid goesOn (signless.not_end behind), later,
          Mark.next_forward, Option.map_map]
        congr 1
        funext read
        simp [Gap.text]

/-! ## Where a plain scalar ends -/

/-- After a line break the blanks at the beginning of a line are passed over. -/
theorem plainFrom_blanks {gap : Gap} (broken : gap.hasBreaks = true) (k : Nat) (m : Mark)
    (behind : List Char) :
    plainFrom context gap m (blanks k ++ behind) = plainFrom context gap (m.forward k) behind := by
  induction k generalizing m with
  | zero => rfl
  | succ k ih =>
      have same : gap.addBlank ' ' = gap := by
        cases gap with
        | breaks first more => rfl
        | none => cases broken
        | blanks read => cases broken
      have first : plainFrom context gap m (' ' :: (blanks k ++ behind)) =
          plainFrom context gap m.next (blanks k ++ behind) := by
        rw [plainFrom_cons (by decide)]
        simp [isBlank, same]
      rw [blanks, List.replicate_succ, List.cons_append, ← blanks, first, ih, Mark.next_forward]

/-- A line that begins in front of the scalar's own columns ends it. -/
theorem plainFrom_line (outside : context.inFlow = false) (m : Mark) {k : Nat}
    (outer : k < context.indent) {behind : List Char} (solid : Solid behind) :
    plainFrom context .none m ('\n' :: (blanks k ++ behind)) =
      some ([], true, ⟨behind, (m.newLine 1).forward k⟩) := by
  have broken : plainFrom context .none m ('\n' :: (blanks k ++ behind)) =
      plainFrom context (.breaks (some '\n') []) ((m.newLine 1).forward k) behind := by
    rw [plainFrom_cons (by decide), ← plainFrom_blanks rfl]
    rfl
  rw [broken]
  cases behind with
  | nil => rfl
  | cons c rest =>
      rcases isBlank_of_isBlankOrBreak (solid c rfl) with ⟨notBlank, notBreak⟩
      have stops : context.stopsBefore (c :: rest) ((m.newLine 1).forward k) = true := by
        simp [PlainContext.stopsBefore, outside, Mark.newLine, outer]
      rw [plainFrom_cons (not_return_of_isBreak notBreak)]
      simp [notBlank, notBreak, stops, Gap.hasBreaks]

theorem plainFrom_colon (outside : context.inFlow = false) (m : Mark) {rest : List Char}
    (blank : blankAhead rest = true) :
    plainFrom context .none m (':' :: rest) = some ([], false, ⟨':' :: rest, m⟩) := by
  rw [plainFrom_cons (by decide)]
  simp [isBlank, isBreak, PlainContext.forbids, PlainContext.ends, blank, outside, Gap.hasBreaks]

/-! ## Texts that are written plain -/

/-- A text that is written plain: its first character begins a plain scalar, those behind it carry
no signs, and the scalar denotes the text. -/
structure IsPlain (s : String) (c : Char) (cs : List Char) : Prop where
  text : s.toList = c :: cs
  printable : isPrintable c = true
  solid : isBlankOrBreak c = false
  opening : beginsLikeSign (c :: cs) = false
  behind : Signless c cs
  found : plainFound s = .text s

theorem eq_of_plainFound_text {s t : String} (found : plainFound s = .text t) : t = s := by
  simp only [plainFound] at found
  repeat' split at found
  all_goals first
    | cases found; rfl
    | cases found
    | (rw [integerFound] at found; split at found <;> cases found)

/-- The style of a text says what its characters are. -/
theorem isPlain_of_style {s : String} (style : Style.ofText s = .plain) :
    ∃ c cs, IsPlain s c cs := by
  have chosen : denotesItself s = true ∧ allowsPlain s.toList = true := by
    simp only [Style.ofText] at style
    split at style
    · split at style <;> cases style
    · split at style
      · next both => simpa using both
      · split at style <;> cases style
  have found : plainFound s = .text s := by
    have denotes := chosen.1
    rw [denotesItself] at denotes
    split at denotes
    · next t same => rw [same, eq_of_plainFound_text same]
    · cases denotes
  have allowed := chosen.2
  simp only [allowsPlain, escapeFree, hasLooseEnd, Bool.and_eq_true, Bool.not_eq_true',
    Bool.or_eq_false_iff, List.all_eq_true, List.any_eq_false] at allowed
  rcases allowed with ⟨⟨⟨⟨⟨printable, -⟩, ends⟩, unbroken⟩, opening⟩, signs⟩
  cases text : s.toList with
  | nil =>
      have empty : s = "" := by simpa using text
      rw [empty] at found
      exact absurd found (by decide)
  | cons c cs =>
      rw [text] at printable ends unbroken opening signs
      have noBreak : ∀ d ∈ c :: cs, isBreak d = false := fun d mem => by
        simpa using unbroken d mem
      have first : isPrintable c = true := printable c (List.mem_cons_self ..)
      have notSpace : c ≠ ' ' := by
        rintro rfl
        simp [isSpace] at ends
      refine ⟨c, cs, text, first, ?_, opening, ?_, found⟩
      · exact solid_of_isPrintable first notSpace (noBreak c (List.mem_cons_self ..))
      · refine ⟨fun d mem => printable d (List.mem_cons_of_mem _ mem),
          fun d mem => noBreak d (List.mem_cons_of_mem _ mem), signs, ?_⟩
        intro last
        rw [last] at ends
        exact absurd ends.2 (by decide)

namespace IsPlain

variable {s : String} {c : Char} {cs : List Char}

theorem all_isAllowed (plain : IsPlain s c cs) : s.toList.all isAllowed = true := by
  rw [plain.text, List.all_eq_true]
  intro d mem
  rcases List.mem_cons.1 mem with rfl | later
  · exact isAllowed_of_isPrintable plain.printable
  · exact isAllowed_of_isPrintable (plain.behind.printable d later)

theorem opening_cases (plain : IsPlain s c cs) :
    (∀ rest, c = '-' → cs ≠ '-' :: '-' :: rest) ∧ (∀ rest, c = '.' → cs ≠ '.' :: '.' :: rest) ∧
      c ∉ "#,[]\x7b\x7d&*!|>'\"%@`".toList ∧
      ((c == '?' || c == ':' || c == '-') && blankAhead cs) = false := by
  have opening := plain.opening
  unfold beginsLikeSign at opening
  split at opening
  · cases opening
  · cases opening
  · next first rest noDashes noDots same =>
    cases same
    rw [Bool.or_eq_false_iff] at opening
    refine ⟨noDashes, noDots, ?_, opening.2⟩
    intro mem
    rw [List.contains_iff_mem.2 mem] at opening
    cases opening.1
  · next same => cases same

/-- Its first character is no sign. -/
theorem not_sign (plain : IsPlain s c cs) :
    c ∉ "#,[]\x7b\x7d&*!|>'\"%@`".toList := plain.opening_cases.2.2.1

/-- No sign that needs a blank behind it stands in front of the text. -/
theorem not_blankAhead (plain : IsPlain s c cs) (sign : c = '?' ∨ c = ':' ∨ c = '-')
    (behind : List Char) : blankAhead (cs ++ behind) = false := by
  have opening := plain.opening_cases.2.2.2
  have isSign : (c == '?' || c == ':' || c == '-') = true := by
    rcases sign with rfl | rfl | rfl <;> rfl
  rw [isSign, Bool.true_and] at opening
  cases cs with
  | nil => cases opening
  | cons d rest => exact opening

theorem not_marker (plain : IsPlain s c cs) {x : Char} (after : x ≠ '-' ∧ x ≠ '.')
    (behind : List Char) : markerAhead (c :: (cs ++ x :: behind)) = false := by
  rcases plain.opening_cases with ⟨noDashes, noDots, -, -⟩
  rcases after with ⟨noDash, noDot⟩
  match cs, noDashes, noDots with
  | [], _, _ => simp [markerAhead, noDash, noDot]
  | [d], _, _ => simp [markerAhead, noDash, noDot]
  | d :: e :: rest, noDashes, noDots =>
    have dashes : ¬ (c = '-' ∧ d = '-' ∧ e = '-') := by
      rintro ⟨rfl, rfl, rfl⟩
      exact noDashes rest rfl rfl
    have dots : ¬ (c = '.' ∧ d = '.' ∧ e = '.') := by
      rintro ⟨rfl, rfl, rfl⟩
      exact noDots rest rfl rfl
    simp only [List.cons_append]
    unfold markerAhead
    split
    · next same => cases same; exact absurd ⟨rfl, rfl, rfl⟩ dashes
    · next same => cases same; exact absurd ⟨rfl, rfl, rfl⟩ dots
    · rfl

/-- The text in front of anything, from its first character on. -/
theorem plainFrom_eq (plain : IsPlain s c cs) (outside : context.inFlow = false) {m : Mark}
    (deep : context.indent ≤ m.column + 1) (behind : List Char) :
    plainFrom context .none m (s.toList ++ behind) =
      (plainFrom context .none (m.forward s.toList.length) behind).map
        fun read => (s.toList ++ read.1, read.2) := by
  have notEnd : (c == ':' && blankAhead (cs ++ behind)) = false := by
    by_cases colon : c = ':'
    · rw [plain.not_blankAhead (Or.inr (Or.inl colon)), Bool.and_false]
    · simp [colon]
  have rest := plainFrom_append outside plain.behind .none rfl (Or.inl rfl) (m := m.next)
    deep (Nat.succ_pos _) behind
  rw [plain.text, List.cons_append, plainFrom_char outside plain.solid (Or.inl rfl) notEnd, rest,
    Mark.next_forward, Option.map_map]
  congr 1

/-- The name of a field is read up to its colon. -/
theorem before_colon (plain : IsPlain s c cs) (outside : context.inFlow = false) {m : Mark}
    (deep : context.indent ≤ m.column + 1) {rest : List Char} (blank : blankAhead rest = true) :
    plainFrom context .none m (s.toList ++ ':' :: rest) =
      some (s.toList, false, ⟨':' :: rest, m.forward s.toList.length⟩) := by
  rw [plain.plainFrom_eq outside deep, plainFrom_colon outside _ blank, Option.map_some,
    List.append_nil]

/-- A text that ends its line is read up to the next token. -/
theorem before_line (plain : IsPlain s c cs) (outside : context.inFlow = false) {m : Mark}
    (deep : context.indent ≤ m.column + 1) {k : Nat} (outer : k < context.indent)
    {behind : List Char} (solid : Solid behind) :
    plainFrom context .none m (s.toList ++ '\n' :: (blanks k ++ behind)) =
      some (s.toList, true,
        ⟨behind, ((m.forward s.toList.length).newLine 1).forward k⟩) := by
  rw [plain.plainFrom_eq outside deep, plainFrom_line outside _ outer solid, Option.map_some,
    List.append_nil]

end IsPlain
end Reading
end Yaml
end CiPipeline
