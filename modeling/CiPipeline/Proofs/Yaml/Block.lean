import Mathlib.Data.List.Basic
import CiPipeline.Proofs.Yaml.Quoted

/-!
# Block — blocks of lines are read back

A text of several lines is written as a block.  Its lines are indented, and nothing is folded; what
has to be right is where the block begins and where it ends: the header names the indentation when
the first line cannot show it, and says which of the breaks at the end belong to the text.

* `pending`, `AtPlace`: what the reader of a block holds back, and where it is;
* `block_chars`: the characters of the text, with the indentation of each line;
* `chompingFor`, `incrementFor`: what the header says, and `Ending`, how the text ends for that;
* `literal_block`: a block is read back.
-/

namespace CiPipeline
namespace Yaml

@[simp] theorem newLine_column (m : Mark) (n : Nat) : (m.newLine n).column = 0 := rfl

theorem newLine_forward_column (m : Mark) (n k : Nat) : ((m.newLine n).forward k).column = k :=
  Nat.zero_add k

@[simp] theorem newLine_line (m : Mark) (n : Nat) : (m.newLine n).line = m.line + 1 := rfl

/-! ## Single characters -/

section Characters

variable {style : BlockStyle}

/-- A character inside a line, other than a carriage return. -/
theorem blockFrom_inside {c : Char} (notReturn : c ≠ '\r') (blank : Bool) (m : Mark)
    (rest : List Char) :
    blockFrom style (.inl blank) m (c :: rest) =
      if isBreak c then blockFrom style (.inr ⟨[lineBreak c], [], blank⟩) (m.newLine 1) rest
      else Lexeme.after [c] (blockFrom style (.inl blank) m.next rest) := by
  rw [blockFrom]
  intro _ isReturn
  exact absurd isReturn notReturn

/-- A character at the beginning of a line, other than a carriage return. -/
theorem blockFrom_margin {c : Char} (notReturn : c ≠ '\r') (margin : Margin) (m : Mark)
    (rest : List Char) :
    blockFrom style (.inr margin) m (c :: rest) =
      if c == ' ' && m.column < style.indent then blockFrom style (.inr margin) m.next rest
      else if c == '\t' && m.column < style.indent then none
      else if isBreak c then
        blockFrom style (.inr { margin with more := margin.more ++ [lineBreak c] }) (m.newLine 1)
          rest
      else if m.column == style.indent then
        Lexeme.after (margin.join style c ++ [c]) (blockFrom style (.inl (isBlank c)) m.next rest)
      else some (margin.chomped style.chomping, ⟨c :: rest, m⟩) := by
  rw [blockFrom]
  intro _ isReturn
  exact absurd isReturn notReturn

/-- Inside a line every character is kept. -/
theorem blockFrom_inner {c : Char} (notBreak : isBreak c = false) (blank : Bool) (m : Mark)
    (rest : List Char) :
    blockFrom style (.inl blank) m (c :: rest) =
      Lexeme.after [c] (blockFrom style (.inl blank) m.next rest) := by
  rw [blockFrom_inside (not_return_of_isBreak notBreak), notBreak]
  rfl

/-- The break at the end of a line is held back. -/
theorem blockFrom_ending {c : Char} (breaks : isBreak c = true) (notReturn : c ≠ '\r')
    (blank : Bool) (m : Mark) (rest : List Char) :
    blockFrom style (.inl blank) m (c :: rest) =
      blockFrom style (.inr ⟨[lineBreak c], [], blank⟩) (m.newLine 1) rest := by
  rw [blockFrom_inside notReturn, if_pos breaks]

/-- So are the breaks of empty lines. -/
theorem blockFrom_empty {c : Char} (breaks : isBreak c = true) (notReturn : c ≠ '\r')
    (margin : Margin) (m : Mark) (rest : List Char) :
    blockFrom style (.inr margin) m (c :: rest) =
      blockFrom style (.inr { margin with more := margin.more ++ [lineBreak c] }) (m.newLine 1)
        rest := by
  have notBlank : c ≠ ' ' ∧ c ≠ '\t' := by
    constructor <;> (rintro rfl; exact absurd breaks (by decide))
  rw [blockFrom_margin notReturn]
  simp [breaks, notBlank]

/-- The blanks in front of a line up to the indentation of the block. -/
theorem blockFrom_blanks (margin : Margin) {n : Nat} {m : Mark} (outer : m.column + n ≤ style.indent)
    (rest : List Char) :
    blockFrom style (.inr margin) m (blanks n ++ rest) =
      blockFrom style (.inr margin) (m.forward n) rest := by
  induction n generalizing m with
  | zero => rfl
  | succ n ih =>
      have front : m.column < style.indent := by omega
      have first : blockFrom style (.inr margin) m (' ' :: (blanks n ++ rest)) =
          blockFrom style (.inr margin) m.next (blanks n ++ rest) := by
        rw [blockFrom_margin (by decide)]
        simp [front]
      have next : m.next.column + n ≤ style.indent := by
        change m.column + 1 + n ≤ style.indent
        omega
      rw [blanks, List.replicate_succ, List.cons_append, ← blanks, first, ih next,
        Mark.next_forward]

/-- The first character of a line stands where the indentation ends. -/
theorem blockFrom_first (literal : style.literal = true) {c : Char} (notBreak : isBreak c = false)
    (margin : Margin) {m : Mark} (here : m.column = style.indent)
    (rest : List Char) :
    blockFrom style (.inr margin) m (c :: rest) =
      Lexeme.after (margin.first ++ margin.more ++ [c])
        (blockFrom style (.inl (isBlank c)) m.next rest) := by
  have joined : margin.join style c = margin.first ++ margin.more := by
    simp [Margin.join, literal]
  rw [blockFrom_margin (not_return_of_isBreak notBreak)]
  simp [notBreak, here, joined]

/-- A line that begins in front of the block ends it. -/
theorem blockFrom_line (margin : Margin) {k : Nat} {m : Mark} (start : m.column = 0)
    (outer : k < style.indent) {behind : List Char} (solid : Solid behind) :
    blockFrom style (.inr margin) m (blanks k ++ behind) =
      some (margin.chomped style.chomping, ⟨behind, m.forward k⟩) := by
  rw [blockFrom_blanks margin (by omega)]
  cases behind with
  | nil => rfl
  | cons c rest =>
      rcases isBlank_of_isBlankOrBreak (solid c rfl) with ⟨notBlank, notBreak⟩
      have notWhite : c ≠ ' ' ∧ c ≠ '\t' := by simpa [isBlank] using notBlank
      have notHere : ¬ k = style.indent := Nat.ne_of_lt outer
      rw [blockFrom_margin (not_return_of_isBreak notBreak)]
      simp [notWhite, notBreak, start, notHere]

end Characters

/-! ## The lines of a block -/

/-- The breaks that the reader holds back. -/
def pending : Bool ⊕ Margin → List Char
  | .inl _ => []
  | .inr margin => margin.first ++ margin.more

/-- Where the reader is: inside a line, or at the beginning of a line that is indented next. -/
inductive AtPlace : Bool ⊕ Margin → Bool → Mark → Prop
  | inside (blank : Bool) (m : Mark) : AtPlace (.inl blank) false m
  | start (margin : Margin) {m : Mark} (column : m.column = 0) : AtPlace (.inr margin) true m

/-- Whether the reader is at the beginning of a line after a text. -/
def endsFresh (fresh : Bool) (cs : List Char) : Bool := (cs.getLast?.map isBreak).getD fresh

theorem endsFresh_cons (fresh : Bool) (c : Char) (cs : List Char) :
    endsFresh fresh (c :: cs) = endsFresh (isBreak c) cs := by
  cases cs with
  | nil => rfl
  | cons d rest =>
      simp only [endsFresh, List.getLast?_cons, Option.map_some, Option.getD_some]

theorem endsFresh_concat (fresh : Bool) (cs : List Char) (c : Char) :
    endsFresh fresh (cs ++ [c]) = isBreak c := by
  simp [endsFresh]

/-- What is written for a character: a line is indented in front of its first one. -/
def literalChar (indent : Nat) (fresh : Bool) (c : Char) : List Char :=
  if isBreak c then [c] else (if fresh then blanks indent else []) ++ [c]

theorem literalChars_cons (indent : Nat) (fresh : Bool) (c : Char) (cs : List Char) :
    literalChars indent fresh (c :: cs) =
      literalChar indent fresh c ++ literalChars indent (isBreak c) cs := by
  rw [literalChars, literalChar]
  split
  · next breaks => rw [breaks, List.singleton_append]
  · next notBreak =>
    rw [Bool.not_eq_true] at notBreak
    rw [notBreak, List.append_assoc, List.singleton_append]

/-- The reader after one character: what it read and what it holds back are one character more. -/
theorem block_char {style : BlockStyle} (literal : style.literal = true) {c : Char}
    (printable : isPrintable c = true) {state : Bool ⊕ Margin} {fresh : Bool} {m : Mark}
    (place : AtPlace state fresh m) :
    ∃ state' m' text, AtPlace state' (isBreak c) m' ∧
      text ++ pending state' = pending state ++ [c] ∧
      ∀ behind, blockFrom style state m (literalChar style.indent fresh c ++ behind) =
        Lexeme.after text (blockFrom style state' m' behind) := by
  have notReturn : c ≠ '\r' := ne_of_isPrintable printable (by decide)
  by_cases breaks : isBreak c = true
  · -- A break is held back.
    have same := lineBreak_of_isPrintable printable breaks
    rw [literalChar, if_pos breaks, breaks]
    cases place with
    | inside blank =>
        refine ⟨_, _, [], .start ⟨[c], [], blank⟩ (newLine_column m 1), rfl, ?_⟩
        intro behind
        rw [List.singleton_append, blockFrom_ending breaks notReturn, same, after_nil]
    | start margin column =>
        refine ⟨_, _, [], .start { margin with more := margin.more ++ [c] } (newLine_column m 1),
          ?_, ?_⟩
        · simp only [pending, List.append_assoc, List.nil_append]
        · intro behind
          rw [List.singleton_append, blockFrom_empty breaks notReturn, same, after_nil]
  · -- Any other character belongs to its line, and with it what was held back.
    rw [Bool.not_eq_true] at breaks
    rw [literalChar, if_neg (by simp [breaks]), breaks]
    cases place with
    | inside blank =>
        exact ⟨_, _, [c], .inside blank m.next, rfl,
          fun behind => blockFrom_inner breaks blank m behind⟩
    | start margin column =>
        refine ⟨_, _, margin.first ++ margin.more ++ [c],
          .inside (isBlank c) (m.forward style.indent).next, List.append_nil _, ?_⟩
        intro behind
        have front : m.column + style.indent ≤ style.indent := by omega
        have here : (m.forward style.indent).column = style.indent := by
          rw [Mark.forward_column, column, Nat.zero_add]
        rw [if_pos rfl, List.append_assoc, blockFrom_blanks margin front]
        exact blockFrom_first literal breaks margin here behind

/-- The reader after the characters of a text: what it read and what it holds back are the text. -/
theorem block_chars {style : BlockStyle} (literal : style.literal = true) {cs : List Char}
    (printable : ∀ c ∈ cs, isPrintable c = true) {state : Bool ⊕ Margin} {fresh : Bool} {m : Mark}
    (place : AtPlace state fresh m) :
    ∃ state' m' text, AtPlace state' (endsFresh fresh cs) m' ∧
      text ++ pending state' = pending state ++ cs ∧
      ∀ behind, blockFrom style state m (literalChars style.indent fresh cs ++ behind) =
        Lexeme.after text (blockFrom style state' m' behind) := by
  induction cs generalizing state fresh m with
  | nil => exact ⟨state, m, [], place, (List.append_nil _).symm, fun _ => (after_nil _).symm⟩
  | cons c rest ih =>
      have later : ∀ d ∈ rest, isPrintable d = true := fun d mem =>
        printable d (List.mem_cons_of_mem _ mem)
      rcases block_char literal (printable c (List.mem_cons_self ..)) place with
        ⟨state₁, m₁, text₁, place₁, kept₁, read₁⟩
      rcases ih later place₁ with ⟨state', m', text, next, kept, read⟩
      rw [endsFresh_cons]
      refine ⟨state', m', text₁ ++ text, next, ?_, ?_⟩
      · calc text₁ ++ text ++ pending state'
            = text₁ ++ pending state₁ ++ rest := by rw [List.append_assoc, kept, List.append_assoc]
          _ = pending state ++ c :: rest := by rw [kept₁, List.append_assoc, List.singleton_append]
      · intro behind
        rw [literalChars_cons, List.append_assoc, read₁, read, after_after]

/-! ## The end of a block -/

/-- What the header says about the last breaks. -/
def chompingFor (cs : List Char) : Chomping :=
  match cs.reverse with
  | [] => .strip
  | [c] => if isBreak c then .keep else .strip
  | c :: d :: _ => if !isBreak c then .strip else if isBreak d then .keep else .clip

/-- What the header says about the indentation. -/
def incrementFor (cs : List Char) : Option Nat :=
  if cs.head?.any fun c => isSpace c || isBreak c then some 2 else none

theorem readHeader_hints (cs rest : List Char) (m : Mark) :
    ∃ n, readHeader ⟨indentHint cs ++ chompHint cs ++ '\n' :: rest, m⟩ =
      some (⟨chompingFor cs, incrementFor cs⟩, ⟨'\n' :: rest, m.forward n⟩) := by
  have indent : indentHint cs = [] ∧ incrementFor cs = none ∨
      indentHint cs = ['2'] ∧ incrementFor cs = some 2 := by
    unfold indentHint incrementFor
    split <;> simp
  have chomp : chompHint cs = ['-'] ∧ chompingFor cs = .strip ∨
      chompHint cs = ['+'] ∧ chompingFor cs = .keep ∨
      chompHint cs = [] ∧ chompingFor cs = .clip := by
    unfold chompHint chompingFor
    rcases cs.reverse with - | ⟨c, - | ⟨d, front⟩⟩
    · simp
    · cases ending : isBreak c <;> simp [ending]
    · cases ending : isBreak c <;> cases more : isBreak d <;> simp [ending, more]
  rcases indent with ⟨hint, increment⟩ | ⟨hint, increment⟩ <;>
    rcases chomp with ⟨ending, chomping⟩ | ⟨ending, chomping⟩ | ⟨ending, chomping⟩ <;>
    rw [hint, increment, ending, chomping]
  · exact ⟨1, rfl⟩
  · exact ⟨1, rfl⟩
  · exact ⟨0, by cases rest <;> rfl⟩
  · exact ⟨2, rfl⟩
  · exact ⟨2, rfl⟩
  · exact ⟨1, rfl⟩

theorem literalChars_concat (indent : Nat) {c : Char} (breaks : isBreak c = true) (fresh : Bool)
    (cs : List Char) :
    literalChars indent fresh (cs ++ [c]) = literalChars indent fresh cs ++ [c] := by
  induction cs generalizing fresh with
  | nil => simp [literalChars, breaks]
  | cons d rest ih =>
      rw [List.cons_append, literalChars_cons, literalChars_cons, ih, List.append_assoc]

/-- How a text ends, and what the header says of it: without a break, with one, or with several. -/
inductive Ending : List Char → Chomping → Prop
  | strip {front : List Char} {c : Char} (notBreak : isBreak c = false) : Ending (front ++ [c]) .strip
  | clip {front : List Char} {c : Char} (breaks : isBreak c = true)
      (inside : endsFresh true front = false) : Ending (front ++ [c]) .clip
  | keep {front : List Char} {c : Char} (breaks : isBreak c = true)
      (outside : endsFresh true front = true) : Ending (front ++ [c]) .keep

theorem ending_chompingFor {cs : List Char} (written : cs ≠ []) : Ending cs (chompingFor cs) := by
  rcases List.eq_nil_or_concat' cs with empty | ⟨front, c, rfl⟩
  · exact absurd empty written
  rcases List.eq_nil_or_concat' front with rfl | ⟨start, d, rfl⟩
  · cases last : isBreak c with
    | false => simpa [chompingFor, last] using (.strip last : Ending ([] ++ [c]) .strip)
    | true => simpa [chompingFor, last] using (.keep last rfl : Ending ([] ++ [c]) .keep)
  · have before := endsFresh_concat true start d
    cases last : isBreak c with
    | false => simpa [chompingFor, last] using (.strip last : Ending (start ++ [d] ++ [c]) .strip)
    | true =>
        cases more : isBreak d with
        | false =>
            rw [more] at before
            simpa [chompingFor, last, more] using Ending.clip last before
        | true =>
            rw [more] at before
            simpa [chompingFor, last, more] using Ending.keep last before

/-- The lines of a text in front of a line that does not belong to the block. -/
theorem block_lines {style : BlockStyle} (literal : style.literal = true) {cs : List Char}
    (written : cs ≠ []) (printable : ∀ c ∈ cs, isPrintable c = true)
    (chomping : style.chomping = chompingFor cs) {m : Mark} (start : m.column = 0) {k : Nat}
    (outer : k < style.indent) {behind : List Char} (solid : Solid behind) :
    ∃ m' : Mark, m'.column = k ∧
      blockFrom style (.inr ⟨[], [], false⟩) m
          (literalChars style.indent true cs ++ (if cs.getLast?.any isBreak then [] else ['\n']) ++
            (blanks k ++ behind)) =
        some (cs, ⟨behind, m'⟩) := by
  have place : AtPlace (.inr ⟨[], [], false⟩) true m := .start _ start
  have ended (blank : Bool) (m : Mark) {c : Char} (printable : isPrintable c = true)
      (breaks : isBreak c = true) :
      blockFrom style (.inl blank) m (c :: (blanks k ++ behind)) =
        some ((⟨[c], [], blank⟩ : Margin).chomped style.chomping,
          ⟨behind, (m.newLine 1).forward k⟩) := by
    have notReturn : c ≠ '\r' := ne_of_isPrintable printable (by decide)
    rw [blockFrom_ending breaks notReturn, lineBreak_of_isPrintable printable breaks]
    exact blockFrom_line _ rfl outer solid
  have ending := ending_chompingFor written
  rw [← chomping] at ending
  generalize way : style.chomping = chosen at ending
  cases ending with
  | @strip front c notBreak =>
      -- The break after the last line does not belong to the text.
      rcases block_chars literal printable place with ⟨state', m', text, next, kept, read⟩
      rw [endsFresh_concat, notBreak] at next
      cases next with
      | inside blank =>
          refine ⟨(m'.newLine 1).forward k, newLine_forward_column m' 1 k, ?_⟩
          have all : text = front ++ [c] := by simpa [pending] using kept
          have closed : (if (front ++ [c]).getLast?.any isBreak then [] else ['\n']) = ['\n'] := by
            simp [notBreak]
          rw [closed, List.append_assoc, read, List.singleton_append,
            ended blank m' (by decide) (by decide), after_some, way, all]
          exact congrArg (fun cs => some (cs, _)) (List.append_nil _)
  | @clip front c breaks inside =>
      -- One break after the last line: it is all that the reader holds back.
      have frontPrintable : ∀ d ∈ front, isPrintable d = true := fun d mem =>
        printable d (List.mem_append_left _ mem)
      have lastPrintable : isPrintable c = true := printable c (by simp)
      rcases block_chars literal frontPrintable place with ⟨state', m', text, next, kept, read⟩
      rw [inside] at next
      cases next with
      | inside blank =>
          refine ⟨(m'.newLine 1).forward k, newLine_forward_column m' 1 k, ?_⟩
          have all : text = front := by simpa [pending] using kept
          have closed : (if (front ++ [c]).getLast?.any isBreak then [] else ['\n']) = [] := by
            simp [breaks]
          rw [closed, List.append_nil, literalChars_concat _ breaks, List.append_assoc, read,
            List.singleton_append, ended blank m' lastPrintable breaks, after_some, way, all]
          rfl
  | @keep front c breaks outside =>
      -- Several breaks: all of them are kept.
      rcases block_chars literal printable place with ⟨state', m', text, next, kept, read⟩
      rw [endsFresh_concat, breaks] at next
      cases next with
      | start margin atStart =>
          refine ⟨m'.forward k, by rw [Mark.forward_column, atStart, Nat.zero_add], ?_⟩
          have all : text ++ (margin.first ++ margin.more) = front ++ [c] := by
            simpa [pending] using kept
          have closed : (if (front ++ [c]).getLast?.any isBreak then [] else ['\n']) = [] := by
            simp [breaks]
          rw [closed, List.append_nil, read, blockFrom_line margin atStart outer solid, after_some,
            way]
          exact congrArg (fun cs => some (cs, _)) all

/-! ## Whole blocks -/

/-- A text that is written as a block is not empty, and its characters need no escape. -/
theorem printable_of_style {s : String} (style : Style.ofText s = .literal) :
    s.toList ≠ [] ∧ ∀ c ∈ s.toList, isPrintable c = true := by
  simp only [Style.ofText] at style
  split at style
  · next feed =>
    split at style
    · next allowed =>
      simp only [allowsLiteral, escapeFree, Bool.and_eq_true, List.all_eq_true] at allowed
      refine ⟨?_, allowed.1.1⟩
      intro empty
      rw [empty] at feed
      cases feed
    · cases style
  · repeat' split at style
    all_goals cases style

theorem leadingLines_cons {c : Char} (notBreak : isBreak c = false) (largest : Nat) (m : Mark)
    (rest : List Char) :
    leadingLines largest m (c :: rest) =
      if c == ' ' then leadingLines largest m.next rest
      else if c == '\t' then none
      else some ([], max largest m.column, ⟨c :: rest, m⟩) := by
  rw [leadingLines, notBreak]
  · rfl
  · intro _ isReturn
    exact absurd isReturn (not_return_of_isBreak notBreak)

/-- The first line shows the indentation. -/
theorem leadingLines_blanks (n : Nat) (m : Mark) {c : Char} (solid : isBlankOrBreak c = false)
    (rest : List Char) :
    leadingLines 0 m (blanks n ++ c :: rest) =
      some ([], m.column + n, ⟨c :: rest, m.forward n⟩) := by
  induction n generalizing m with
  | zero =>
      rcases isBlank_of_isBlankOrBreak solid with ⟨notBlank, notBreak⟩
      have notWhite : c ≠ ' ' ∧ c ≠ '\t' := by simpa [isBlank] using notBlank
      rw [blanks, List.replicate_zero, List.nil_append, leadingLines_cons notBreak]
      simp [notWhite]
  | succ n ih =>
      have first : leadingLines 0 m (' ' :: (blanks n ++ c :: rest)) =
          leadingLines 0 m.next (blanks n ++ c :: rest) := leadingLines_cons (by decide) ..
      have column : m.next.column + n = m.column + (n + 1) := by
        change m.column + 1 + n = _
        omega
      rw [blanks, List.replicate_succ, List.cons_append, ← blanks, first, ih, column,
        Mark.next_forward]

/-- A text begins with a word when its indentation need not be named. -/
theorem begins_solid {cs : List Char} (written : cs ≠ [])
    (printable : ∀ c ∈ cs, isPrintable c = true)
    (tight : ¬ cs.head?.any (fun c => isSpace c || isBreak c) = true) :
    ∃ c rest, cs = c :: rest ∧ isBlankOrBreak c = false := by
  cases cs with
  | nil => exact absurd rfl written
  | cons c rest =>
      simp only [List.head?_cons, Option.any_some, isSpace, Bool.or_eq_true, beq_iff_eq, not_or,
        Bool.not_eq_true] at tight
      have first : isPrintable c = true := printable c (List.mem_cons_self ..)
      exact ⟨c, rest, rfl, solid_of_isPrintable first tight.1 tight.2⟩

/-- A block is read back, from the character after its sign on. -/
theorem literal_block {s : String} (style : Style.ofText s = .literal) (parent : Nat) (m : Mark)
    {k : Nat} (outer : k < parent + 2) {behind : List Char} (solid : Solid behind) :
    ∃ m' : Mark, m'.column = k ∧
      Cursor.block
          ⟨indentHint s.toList ++ chompHint s.toList ++ '\n' ::
            (literalChars (parent + 2) true s.toList ++
              (if s.toList.getLast?.any isBreak then [] else ['\n']) ++ (blanks k ++ behind)), m⟩
          true parent =
        some (s.toList, ⟨behind, m'⟩) := by
  rcases printable_of_style style with ⟨written, printable⟩
  generalize s.toList = cs at written printable ⊢
  generalize lines : literalChars (parent + 2) true cs ++
    (if cs.getLast?.any isBreak then [] else ['\n']) ++ (blanks k ++ behind) = text
  rcases readHeader_hints cs text m with ⟨n, header⟩
  have next : skipHeaderLine ⟨'\n' :: text, m.forward n⟩ =
      some ⟨text, (m.forward n).newLine 1⟩ := rfl
  have opened (chosen : BlockStyle) (literal : chosen.literal = true)
      (chomping : chosen.chomping = chompingFor cs) (indent : chosen.indent = parent + 2) :
      ∃ m' : Mark, m'.column = k ∧
        blockFrom chosen (.inr ⟨[], [], false⟩) ((m.forward n).newLine 1) text =
          some (cs, ⟨behind, m'⟩) := by
    rw [← lines, ← indent]
    exact block_lines literal written printable chomping rfl (indent ▸ outer) solid
  rw [Cursor.block, header]
  simp only [Option.bind_eq_bind, Option.bind_some, next]
  by_cases loose : cs.head?.any (fun c => isSpace c || isBreak c) = true
  · -- The header names the indentation.
    have named : incrementFor cs = some 2 := by rw [incrementFor, if_pos loose]
    simp only [named]
    exact opened _ rfl rfl (by simp)
  · -- The first line shows it.
    have unnamed : incrementFor cs = none := by rw [incrementFor, if_neg loose]
    rcases opened ⟨true, chompingFor cs, parent + 2⟩ rfl rfl rfl with ⟨m', column, read⟩
    refine ⟨m', column, ?_⟩
    rcases begins_solid written printable loose with ⟨c, rest, same, solidFirst⟩
    have notBreak := (isBlank_of_isBlankOrBreak solidFirst).2
    have shown : ∃ tail, text = blanks (parent + 2) ++ c :: tail := by
      rw [← lines, same, literalChars, if_neg (by simp [notBreak]), if_pos rfl]
      exact ⟨_, by simp only [List.append_assoc, List.cons_append]; rfl⟩
    rcases shown with ⟨tail, shown⟩
    have place : ((m.forward n).newLine 1).column + (parent + 2) ≤ parent + 2 := by simp
    rw [shown, blockFrom_blanks _ place] at read
    have leading := leadingLines_blanks (parent + 2) ((m.forward n).newLine 1) solidFirst tail
    have indent : max (max (0 + (parent + 2)) ((parent : Int) + 1).toNat) 1 = parent + 2 := by omega
    simp only [unnamed, shown, leading, newLine_column, Option.bind_some, indent]
    exact read

end Yaml
end CiPipeline
