import Mathlib.Algebra.Group.Nat.Defs
import CiPipeline.Proofs.Yaml.Plain

/-!
# Quoted — quoted scalars are read back

Between single quotes a text may go on over several lines.  The reader folds what stands between two
words, but of the breaks that occur here none is a line feed, and none has a blank beside it, so that
nothing is lost.  Between double quotes there are no breaks at all: each character is written as
itself or as an escape that is read as the same character.

* `Foldable`: texts that may stand between single quotes;
* `single_quoted`: they are read back;
* `double_chars`: so is any text between double quotes.
-/

namespace CiPipeline
namespace Yaml

theorem after_some (front text : List Char) (c : Cursor) :
    Lexeme.after front (some (text, c)) = some (front ++ text, c) := rfl

theorem after_nil (read : Option Lexeme) : Lexeme.after [] read = read := by
  cases read <;> rfl

theorem after_after (front more : List Char) (read : Option Lexeme) :
    Lexeme.after front (Lexeme.after more read) = Lexeme.after (front ++ more) read := by
  cases read with
  | none => rfl
  | some read => simp [Lexeme.after]

/-! ## Single quotes -/

/-- What is known of the characters that follow `previous` between single quotes. -/
structure Foldable (previous : Char) (cs : List Char) : Prop where
  printable : ∀ c ∈ cs, isPrintable c = true
  oneLine : '\n' ∉ cs
  notBefore : hasPair isSpace isBreak (previous :: cs) = false
  notAfter : hasPair isBreak isSpace (previous :: cs) = false

theorem hasPair_cons {first second : Char → Bool} {a b : Char} {cs : List Char}
    (absent : hasPair first second (a :: b :: cs) = false) :
    (first a && second b) = false ∧ hasPair first second (b :: cs) = false := by
  simpa only [hasPair, Bool.or_eq_false_iff] using absent

namespace Foldable

variable {previous c : Char} {cs : List Char}

theorem tail (foldable : Foldable previous (c :: cs)) : Foldable c cs where
  printable d mem := foldable.printable d (List.mem_cons_of_mem _ mem)
  oneLine mem := foldable.oneLine (List.mem_cons_of_mem _ mem)
  notBefore := (hasPair_cons foldable.notBefore).2
  notAfter := (hasPair_cons foldable.notAfter).2

theorem lineBreak_eq (foldable : Foldable previous (c :: cs)) (breaks : isBreak c = true) :
    lineBreak c = c :=
  lineBreak_of_isPrintable (foldable.printable c (List.mem_cons_self ..)) breaks

theorem ne_feed (foldable : Foldable previous (c :: cs)) : c ≠ '\n' := by
  rintro rfl
  exact foldable.oneLine (List.mem_cons_self ..)

end Foldable

/-- Where the reader is after a character: inside a line, after blanks, or after a line break. -/
inductive Between : Char → Bool → Gap → Prop
  | word (previous : Char) : Between previous false .none
  | spaces (read : List Char) : Between ' ' false (.blanks read)
  | line {previous first : Char} {more : List Char} (breaks : isBreak previous = true)
      (notFeed : first ≠ '\n') : Between previous true (.breaks (some first) more)

theorem text_breaks {first : Char} (notFeed : first ≠ '\n') (more : List Char) :
    (Gap.breaks (some first) more).text = first :: more := by
  unfold Gap.text
  split
  · next same => cases same
  · next same => cases same
  · next same => cases same; exact absurd rfl notFeed
  · next same => cases same; exact absurd rfl notFeed
  · next same => cases same; rfl
  · next same => cases same

/-- A character other than a carriage return that is no quote written twice. -/
theorem singleFrom_cons {c : Char} (notReturn : c ≠ '\r') {rest : List Char}
    (notPair : c = '\'' → rest.head? ≠ some '\'') (gap : Gap) (m : Mark) :
    singleFrom gap m (c :: rest) =
      if isBlank c then singleFrom (gap.addBlank c) m.next rest
      else if isBreak c then singleFrom (gap.addBreak (lineBreak c)) (m.newLine 1) rest
      else if m.column == 0 && markerAhead (c :: rest) then none
      else if c == '\'' then some (gap.text, ⟨rest, m.next⟩)
      else Lexeme.after (gap.text ++ [c]) (singleFrom .none m.next rest) := by
  rw [singleFrom]
  · rintro tail rfl rfl
    exact notPair rfl rfl
  · intro _ isReturn
    exact absurd isReturn notReturn

theorem singleFrom_space (gap : Gap) (m : Mark) (rest : List Char) :
    singleFrom gap m (' ' :: rest) = singleFrom (gap.addBlank ' ') m.next rest := by
  rw [singleFrom_cons (by decide) (by rintro ⟨⟩)]
  simp [isBlank]

theorem singleFrom_blanks (first : Option Char) (more : List Char) (n : Nat) (m : Mark)
    (behind : List Char) :
    singleFrom (.breaks first more) m (blanks n ++ behind) =
      singleFrom (.breaks first more) (m.forward n) behind := by
  induction n generalizing m with
  | zero => rfl
  | succ n ih =>
      have step := singleFrom_space (.breaks first more) m (blanks n ++ behind)
      rw [blanks, List.replicate_succ, List.cons_append, ← blanks, step]
      exact (ih m.next).trans (by rw [Mark.next_forward])

theorem singleFrom_break {c : Char} (breaks : isBreak c = true) (notReturn : c ≠ '\r')
    (gap : Gap) (m : Mark) (rest : List Char) :
    singleFrom gap m (c :: rest) = singleFrom (gap.addBreak (lineBreak c)) (m.newLine 1) rest := by
  have notBlank : isBlank c = false := by
    rw [← Bool.not_eq_true]
    intro blank
    simp only [isBlank, Bool.or_eq_true, beq_iff_eq] at blank
    rcases blank with rfl | rfl <;> exact absurd breaks (by decide)
  have notQuote : c ≠ '\'' := by
    rintro rfl
    exact absurd breaks (by decide)
  rw [singleFrom_cons notReturn (fun isQuote => absurd isQuote notQuote)]
  simp [notBlank, breaks]

theorem singleFrom_char {c : Char} (solid : isBlankOrBreak c = false) (notQuote : c ≠ '\'')
    (gap : Gap) {m : Mark} (inside : 0 < m.column) (rest : List Char) :
    singleFrom gap m (c :: rest) = Lexeme.after (gap.text ++ [c]) (singleFrom .none m.next rest) := by
  rcases isBlank_of_isBlankOrBreak solid with ⟨notBlank, notBreak⟩
  have start : (m.column == 0) = false := by simpa using Nat.ne_of_gt inside
  rw [singleFrom_cons (not_return_of_isBreak notBreak) (fun isQuote => absurd isQuote notQuote)]
  simp [notBlank, notBreak, start, notQuote]

/-- The closing quote, at the end of its line. -/
theorem singleFrom_end (gap : Gap) {m : Mark} (inside : 0 < m.column) (behind : List Char) :
    singleFrom gap m ('\'' :: '\n' :: behind) = some (gap.text, ⟨'\n' :: behind, m.next⟩) := by
  have start : (m.column == 0) = false := by simpa using Nat.ne_of_gt inside
  rw [singleFrom_cons (by decide) (fun _ => by simp)]
  simp [isBlank, isBreak, start]

/-- The indentation of a line that follows a line break. -/
theorem singleFrom_indent {indent : Nat} (deep : 0 < indent) {previous : Char} {fresh : Bool}
    {gap : Gap} (between : Between previous fresh gap) {m : Mark}
    (inside : fresh = false → 0 < m.column) :
    ∃ m' : Mark, m.line ≤ m'.line ∧ 0 < m'.column ∧ ∀ behind,
      singleFrom gap m ((if fresh then blanks indent else []) ++ behind) =
        singleFrom gap m' behind := by
  cases between with
  | word => exact ⟨m, Nat.le_refl _, inside rfl, fun _ => rfl⟩
  | spaces read => exact ⟨m, Nat.le_refl _, inside rfl, fun _ => rfl⟩
  | line breaks notFeed =>
      exact ⟨m.forward indent, Nat.le_refl _, Nat.lt_add_left _ deep,
        fun behind => singleFrom_blanks _ _ _ _ behind⟩

/-- A line break is kept, and so are those that were read in front of it. -/
theorem Between.after_break {previous c : Char} {cs : List Char} {fresh : Bool} {gap : Gap}
    (between : Between previous fresh gap) (foldable : Foldable previous (c :: cs))
    (breaks : isBreak c = true) :
    Between c true (gap.addBreak c) ∧ (gap.addBreak c).text = gap.text ++ [c] := by
  have notFeed : c ≠ '\n' := foldable.ne_feed
  cases between with
  | word => exact ⟨.line breaks notFeed, text_breaks notFeed []⟩
  | spaces read =>
      have absent := (hasPair_cons foldable.notBefore).1
      rw [breaks] at absent
      cases absent
  | line _ firstNotFeed =>
      refine ⟨.line breaks firstNotFeed, ?_⟩
      rw [Gap.addBreak, text_breaks firstNotFeed, text_breaks firstNotFeed, List.cons_append]

/-- A space is kept, because no line break stands beside it. -/
theorem Between.after_space {previous : Char} {cs : List Char} {fresh : Bool} {gap : Gap}
    (between : Between previous fresh gap) (foldable : Foldable previous (' ' :: cs)) :
    fresh = false ∧ Between ' ' false (gap.addBlank ' ') ∧
      (gap.addBlank ' ').text = gap.text ++ [' '] := by
  cases between with
  | word => exact ⟨rfl, .spaces _, rfl⟩
  | spaces read => exact ⟨rfl, .spaces _, rfl⟩
  | line breaks =>
      have absent := (hasPair_cons foldable.notAfter).1
      rw [breaks] at absent
      cases absent

/-- What is written for a character: a line is indented in front of its first one, and a quote is written
twice. -/
def singleChar (indent : Nat) (fresh : Bool) (c : Char) : List Char :=
  if isBreak c then [c]
  else (if fresh then blanks indent else []) ++ (if c == '\'' then ['\'', '\''] else [c])

theorem singleChars_cons (indent : Nat) (fresh : Bool) (c : Char) (cs : List Char) :
    singleChars indent fresh (c :: cs) =
      singleChar indent fresh c ++ singleChars indent (isBreak c) cs := by
  rw [singleChars, singleChar]
  split
  · next breaks => rw [breaks, List.singleton_append]
  · next notBreak =>
    rw [Bool.not_eq_true] at notBreak
    rw [notBreak]

/-- The reader after one character: what it read and what it holds back are one character more. -/
theorem single_char {indent : Nat} (deep : 0 < indent) {previous c : Char} {cs : List Char}
    (foldable : Foldable previous (c :: cs)) {fresh : Bool} {gap : Gap}
    (between : Between previous fresh gap) {m : Mark} (inside : fresh = false → 0 < m.column) :
    ∃ gap' m' text, m.line ≤ m'.line ∧ Between c (isBreak c) gap' ∧
      (isBreak c = false → 0 < m'.column) ∧ text ++ gap'.text = gap.text ++ [c] ∧
      ∀ behind, singleFrom gap m (singleChar indent fresh c ++ behind) =
        Lexeme.after text (singleFrom gap' m' behind) := by
  have printable : isPrintable c = true := foldable.printable c (List.mem_cons_self ..)
  by_cases breaks : isBreak c = true
  · -- A break is held back.
    rcases between.after_break foldable breaks with ⟨next, text⟩
    have notReturn : c ≠ '\r' := ne_of_isPrintable printable (by decide)
    rw [singleChar, if_pos breaks, breaks]
    refine ⟨_, m.newLine 1, [], Nat.le_succ _, next, by simp, text, fun behind => ?_⟩
    rw [List.singleton_append, singleFrom_break breaks notReturn, foldable.lineBreak_eq breaks,
      after_nil]
  · rw [Bool.not_eq_true] at breaks
    rcases singleFrom_indent deep between inside with ⟨n, later, within, indented⟩
    rw [singleChar, if_neg (by simp [breaks]), breaks]
    by_cases space : c = ' '
    · -- So is a space.
      subst space
      rcases between.after_space foldable with ⟨-, next, text⟩
      refine ⟨_, n.next, [], later, next, fun _ => Nat.succ_pos _, text, fun behind => ?_⟩
      rw [List.append_assoc, indented, after_nil]
      exact singleFrom_space gap n behind
    · have solid : isBlankOrBreak c = false := solid_of_isPrintable printable space breaks
      by_cases quote : c = '\''
      · subst quote
        refine ⟨.none, n.forward 2, _, later, .word _, fun _ => Nat.succ_pos _, List.append_nil _,
          fun behind => ?_⟩
        rw [List.append_assoc, indented]
        exact singleFrom.eq_2 ..
      · have written : (if (c == '\'') = true then ['\'', '\''] else [c]) = [c] := by simp [quote]
        refine ⟨.none, n.next, _, later, .word _, fun _ => Nat.succ_pos _, List.append_nil _,
          fun behind => ?_⟩
        rw [List.append_assoc, indented, written]
        exact singleFrom_char solid quote gap within behind

/-- The characters of a text inside the quotes, each after what was read in front of it. -/
theorem single_chars {indent : Nat} (deep : 0 < indent) {previous : Char} {cs : List Char}
    (foldable : Foldable previous cs) {fresh : Bool} {gap : Gap}
    (between : Between previous fresh gap) {m : Mark} (inside : fresh = false → 0 < m.column)
    (behind : List Char) :
    ∃ m' : Mark, m.line ≤ m'.line ∧
      singleFrom gap m (singleChars indent fresh cs ++ '\'' :: '\n' :: behind) =
        some (gap.text ++ cs, ⟨'\n' :: behind, m'⟩) := by
  induction cs generalizing previous fresh gap m with
  | nil =>
      rcases singleFrom_indent deep between inside with ⟨n, later, within, indented⟩
      refine ⟨n.next, later, ?_⟩
      rw [singleChars, indented, singleFrom_end gap within, List.append_nil]
  | cons c rest ih =>
      rcases single_char deep foldable between inside with
        ⟨gap', n, text, later, next, within, kept, first⟩
      rcases ih foldable.tail next within with ⟨m', below, read⟩
      refine ⟨m', Nat.le_trans later below, ?_⟩
      rw [singleChars_cons, List.append_assoc, first, read, after_some, ← List.append_assoc, kept,
        List.append_assoc, List.singleton_append]

/-- A text that is written between single quotes. -/
theorem foldable_of_style {s : String} (style : Style.ofText s = .singleQuoted) :
    Foldable '\'' s.toList := by
  have chosen : s.toList.contains '\n' = false ∧ allowsSingleQuoted s.toList = true := by
    simp only [Style.ofText] at style
    split at style
    · split at style <;> cases style
    · next noFeed =>
      refine ⟨by simpa using noFeed, ?_⟩
      split at style
      · cases style
      · split at style
        · assumption
        · cases style
  have allowed := chosen.2
  simp only [allowsSingleQuoted, escapeFree, Bool.and_eq_true, Bool.not_eq_true',
    List.all_eq_true] at allowed
  have first (first second : Char → Bool) (quote : first '\'' = false) (cs : List Char) :
      hasPair first second ('\'' :: cs) = hasPair first second cs := by
    cases cs with
    | nil => rfl
    | cons c rest => rw [hasPair, quote, Bool.false_and, Bool.false_or]
  refine ⟨allowed.1.1, by simpa using chosen.1, ?_, ?_⟩
  · rw [first isSpace isBreak (by decide)]
    exact allowed.1.2
  · rw [first isBreak isSpace (by decide)]
    exact allowed.2

/-- A text between single quotes is read back, from the character after the first quote on. -/
theorem single_quoted {s : String} (style : Style.ofText s = .singleQuoted) {indent : Nat}
    (deep : 0 < indent) {m : Mark} (inside : 0 < m.column) (behind : List Char) :
    ∃ m' : Mark, m.line ≤ m'.line ∧
      singleFrom .none m (singleChars indent false s.toList ++ '\'' :: '\n' :: behind) =
        some (s.toList, ⟨'\n' :: behind, m'⟩) :=
  single_chars deep (foldable_of_style style) (.word _) (fun _ => inside) behind

/-! ## Double quotes -/

/-- A character inside a line that begins no escape. -/
theorem doubleFrom_cons {c : Char} (notBreak : isBreak c = false) (notEscape : c ≠ '\\')
    (gap : Gap) {m : Mark} (inside : 0 < m.column) (rest : List Char) :
    doubleFrom gap none m (c :: rest) =
      if isBlank c then doubleFrom (gap.addBlank c) none m.next rest
      else if c == '"' then some (gap.text, ⟨rest, m.next⟩)
      else Lexeme.after (gap.text ++ [c]) (doubleFrom .none none m.next rest) := by
  have start : (m.column == 0) = false := by simpa using Nat.ne_of_gt inside
  have notBackslash : (c == '\\') = false := by simpa using notEscape
  rw [doubleFrom.eq_def]
  simp only [notBreak, start, notBackslash, Bool.false_and, Bool.false_eq_true, if_false]

theorem doubleFrom_space (gap : Gap) {m : Mark} (inside : 0 < m.column) (rest : List Char) :
    doubleFrom gap none m (' ' :: rest) = doubleFrom (gap.addBlank ' ') none m.next rest :=
  doubleFrom_cons (by decide) (by decide) gap inside rest

theorem doubleFrom_char {c : Char} (solid : isBlankOrBreak c = false) (notQuote : c ≠ '"')
    (notEscape : c ≠ '\\') (gap : Gap) {m : Mark} (inside : 0 < m.column) (rest : List Char) :
    doubleFrom gap none m (c :: rest) =
      Lexeme.after (gap.text ++ [c]) (doubleFrom .none none m.next rest) := by
  rcases isBlank_of_isBlankOrBreak solid with ⟨notBlank, notBreak⟩
  rw [doubleFrom_cons notBreak notEscape gap inside]
  simp [notBlank, notQuote]

/-- The closing quote. -/
theorem doubleFrom_end (gap : Gap) {m : Mark} (inside : 0 < m.column) (behind : List Char) :
    doubleFrom gap none m ('"' :: behind) = some (gap.text, ⟨behind, m.next⟩) :=
  doubleFrom_cons (by decide) (by decide) gap inside behind

/-- What is read from a backslash on: the character that a letter stands for, or a code. -/
def escapedFrom (gap : Gap) (m : Mark) (e : Char) (rest : List Char) : Option Lexeme :=
  match escapedChar e, escapeLength e with
  | some read, _ => Lexeme.after (gap.text ++ [read]) (doubleFrom .none none (m.forward 2) rest)
  | none, some length =>
    Lexeme.after gap.text (doubleFrom .none (some ⟨length, 0⟩) (m.forward 2) rest)
  | none, none => none

theorem doubleFrom_escape {e : Char} (notBreak : isBreak e = false) (gap : Gap) {m : Mark}
    (inside : 0 < m.column) (rest : List Char) :
    doubleFrom gap none m ('\\' :: e :: rest) = escapedFrom gap m e rest := by
  have start : (m.column == 0) = false := by simpa using Nat.ne_of_gt inside
  rw [doubleFrom]
  · have notBlank : isBlank '\\' = false := rfl
    have sameLine : isBreak '\\' = false := rfl
    have notQuote : ('\\' == '"') = false := rfl
    simp only [notBlank, sameLine, start, notQuote, notBreak, Bool.false_and, Bool.false_eq_true,
      if_false, BEq.rfl, if_true]
    rfl
  · intro _ isReturn
    exact absurd isReturn (not_return_of_isBreak notBreak)
  · intro _ impossible
    cases impossible

/-! ### Escapes -/

/-- A letter after a backslash stands for the character that it was written for. -/
theorem escapedChar_of_escapeLetter {c e : Char} (letter : escapeLetter c = some e) :
    escapedChar e = some c ∧ isBreak e = false := by
  have code : Char.ofNat c.toNat = c := Char.ofNat_toNat c
  unfold escapeLetter at letter
  split at letter <;> cases letter <;> next same =>
    rw [same] at code
    rw [← code]
    decide

theorem hexDigit?_digitChar {d : Nat} (small : d < 16) :
    hexDigit? (Nat.digitChar d).toUpper = some d := by
  revert d
  decide

theorem charOfCode_toNat (c : Char) : charOfCode c.toNat = some c := by
  have valid : c.toNat.isValidChar := c.valid
  rw [charOfCode, if_pos valid, Char.ofNat_toNat]

theorem doubleFrom_digit {d : Nat} (small : d < 16) (j v : Nat) (m : Mark) (rest : List Char) :
    doubleFrom .none (some ⟨j + 2, v⟩) m ((Nat.digitChar d).toUpper :: rest) =
      doubleFrom .none (some ⟨j + 1, 16 * v + d⟩) m.next rest := by
  rw [doubleFrom, hexDigit?_digitChar small]
  simp

/-- The digits of an escape in front of its further digits. -/
theorem doubleFrom_digits (n w j v : Nat) (m : Mark) (rest : List Char) :
    doubleFrom .none (some ⟨w + j + 1, v⟩) m (hexDigits n w ++ rest) =
      doubleFrom .none (some ⟨j + 1, v * 16 ^ w + n % 16 ^ w⟩) (m.forward w) rest := by
  induction w generalizing n j rest with
  | zero => simp [hexDigits, Nat.mod_one]
  | succ w ih =>
      have value : 16 * (v * 16 ^ w + n / 16 % 16 ^ w) + n % 16 =
          v * 16 ^ (w + 1) + n % 16 ^ (w + 1) := by
        have split : n % 16 ^ (w + 1) = n % 16 + 16 * (n / 16 % 16 ^ w) := by
          rw [Nat.pow_succ, Nat.mul_comm, Nat.mod_mul]
        rw [split, Nat.pow_succ, Nat.mul_add, ← Nat.mul_assoc, Nat.mul_comm 16 v, Nat.mul_assoc v,
          Nat.mul_comm 16 (16 ^ w)]
        omega
      have missing : w + 1 + j + 1 = w + (j + 1) + 1 := by omega
      rw [hexDigits, List.append_assoc, List.singleton_append, missing, ih]
      exact (doubleFrom_digit (Nat.mod_lt _ (by decide)) ..).trans (by
        rw [value, Mark.forward_next])

/-- An escape of enough digits is read as its character. -/
theorem doubleFrom_code {c : Char} {w : Nat} (fits : c.toNat < 16 ^ (w + 1)) (m : Mark)
    (rest : List Char) :
    doubleFrom .none (some ⟨w + 1, 0⟩) m (hexDigits c.toNat (w + 1) ++ rest) =
      Lexeme.after [c] (doubleFrom .none none (m.forward (w + 1)) rest) := by
  have before := doubleFrom_digits (c.toNat / 16) w 0 0 m
    ((Nat.digitChar (c.toNat % 16)).toUpper :: rest)
  have value : 16 * (0 * 16 ^ w + c.toNat / 16 % 16 ^ w) + c.toNat % 16 = c.toNat := by
    have small : c.toNat / 16 < 16 ^ w := by
      rw [Nat.div_lt_iff_lt_mul (by decide), ← Nat.pow_succ]
      exact fits
    rw [Nat.mod_eq_of_lt small]
    omega
  rw [hexDigits, List.append_assoc, List.singleton_append]
  refine before.trans ?_
  rw [doubleFrom, hexDigit?_digitChar (Nat.mod_lt _ (by decide))]
  simp only [value, charOfCode_toNat, if_true, Mark.forward_next, Nat.zero_add]

/-- The code of a character has digits enough. -/
theorem doubleFrom_escapeCode (c : Char) (gap : Gap) {m : Mark} (inside : 0 < m.column)
    (rest : List Char) :
    ∃ m' : Mark, m.line ≤ m'.line ∧ 0 < m'.column ∧
      doubleFrom gap none m ('\\' :: (escapeCode c.toNat ++ rest)) =
        Lexeme.after (gap.text ++ [c]) (doubleFrom .none none m' rest) := by
  have coded (e : Char) (w : Nat) (length : escapeLength e = some (w + 1))
      (noLetter : escapedChar e = none) (notBreak : isBreak e = false)
      (fits : c.toNat < 16 ^ (w + 1)) :
      ∃ m' : Mark, m.line ≤ m'.line ∧ 0 < m'.column ∧
        doubleFrom gap none m ('\\' :: e :: (hexDigits c.toNat (w + 1) ++ rest)) =
          Lexeme.after (gap.text ++ [c]) (doubleFrom .none none m' rest) := by
    refine ⟨(m.forward 2).forward (w + 1), Nat.le_refl _, Nat.succ_pos _, ?_⟩
    rw [doubleFrom_escape notBreak gap inside, escapedFrom, noLetter, length]
    simp only []
    rw [doubleFrom_code fits, after_after]
  have valid : c.toNat < 16 ^ 8 := by
    have valid : c.toNat.isValidChar := c.valid
    rw [Nat.isValidChar] at valid
    omega
  rw [escapeCode]
  split
  · next short => exact coded 'x' 1 rfl rfl rfl (Nat.lt_succ_of_le short)
  · split
    · next short => exact coded 'u' 3 rfl rfl rfl (Nat.lt_succ_of_le short)
    · exact coded 'U' 7 rfl rfl rfl valid

/-- Whatever is written for a character other than a space is read as the character. -/
theorem doubleFrom_doubleChar {c : Char} (notSpace : c ≠ ' ') (gap : Gap) {m : Mark}
    (inside : 0 < m.column) (rest : List Char) :
    ∃ m' : Mark, m.line ≤ m'.line ∧ 0 < m'.column ∧
      doubleFrom gap none m (doubleChar c ++ rest) =
        Lexeme.after (gap.text ++ [c]) (doubleFrom .none none m' rest) := by
  rw [doubleChar]
  split
  · next asItself =>
    simp only [Bool.and_eq_true, Bool.not_eq_true', bne_iff_ne] at asItself
    rcases asItself with ⟨⟨⟨printable, notBreak⟩, notQuote⟩, notEscape⟩
    have solid : isBlankOrBreak c = false := solid_of_isPrintable printable notSpace notBreak
    exact ⟨m.next, Nat.le_refl _, Nat.succ_pos _,
      doubleFrom_char solid notQuote notEscape gap inside rest⟩
  · split
    · next letter written =>
      rcases escapedChar_of_escapeLetter written with ⟨means, notBreak⟩
      refine ⟨m.forward 2, Nat.le_refl _, Nat.succ_pos _, ?_⟩
      exact (doubleFrom_escape notBreak gap inside rest).trans (by rw [escapedFrom, means])
    · exact doubleFrom_escapeCode c gap inside rest

/-- A text between double quotes is read back, from the character after the first quote on. -/
theorem double_chars (cs : List Char) (gap : Gap) (unbroken : gap.hasBreaks = false) {m : Mark}
    (inside : 0 < m.column) (behind : List Char) :
    ∃ m' : Mark, m.line ≤ m'.line ∧
      doubleFrom gap none m (cs.flatMap doubleChar ++ '"' :: behind) =
        some (gap.text ++ cs, ⟨behind, m'⟩) := by
  induction cs generalizing gap m with
  | nil =>
      refine ⟨m.next, Nat.le_refl _, ?_⟩
      rw [List.append_nil]
      exact doubleFrom_end gap inside behind
  | cons c rest ih =>
      rw [List.flatMap_cons, List.append_assoc]
      by_cases space : c = ' '
      · subst space
        rcases gap.addBlank_of_unbroken unbroken ' ' with ⟨wider, text⟩
        rcases ih _ wider (m := m.next) (Nat.succ_pos _) with ⟨m', below, read⟩
        refine ⟨m', below, ?_⟩
        have step := doubleFrom_space gap inside (rest.flatMap doubleChar ++ '"' :: behind)
        exact step.trans (by rw [read, text, List.append_assoc, List.singleton_append])
      · rcases doubleFrom_doubleChar space gap inside (rest.flatMap doubleChar ++ '"' :: behind) with
          ⟨n, later, within, step⟩
        rcases ih .none rfl within with ⟨m', below, read⟩
        refine ⟨m', Nat.le_trans later below, ?_⟩
        rw [step, read, after_some, List.append_assoc]
        rfl

end Yaml
end CiPipeline
