import CiPipeline.Yaml.Tokens
import CiPipeline.Proofs.Yaml.Block

/-!
# Fetch — the next token of a written text

Outside brackets, with no candidate for a key left over, what the scanner does next depends on the
text ahead only, and on whether a key may begin here.

* `Scanner.outside`: such a state;
* `fetchHere_entry`, `fetchHere_name`, `fetchHere_end`: the signs and names of the lines, and the end
  of the text;
* `Behind`, `endsWith_scalarLine`: where the scanner is after the text of a line.
-/

namespace CiPipeline
namespace Yaml

namespace Scanner

/-- Outside brackets, with no candidate for a key. -/
def outside (cursor : Cursor) (indent : Int) (indents : List Int) (allowed : Bool)
    (held : List Token) (released : Nat) : Scanner :=
  ⟨cursor, indent, indents, [none], allowed, held, released, false⟩

/-! ## Blanks and line breaks -/

theorem skipSpace_blanks (allowed : Bool) (k : Nat) (m : Mark) (behind : List Char) :
    skipSpace false allowed false m (blanks k ++ behind) =
      skipSpace false allowed false (m.forward k) behind := by
  induction k generalizing m with
  | zero => rfl
  | succ k ih =>
      have first : skipSpace false allowed false m (' ' :: (blanks k ++ behind)) =
          skipSpace false allowed false m.next (blanks k ++ behind) := by
        have notMark : (' ' == byteOrderMark) = false := rfl
        rw [skipSpace]
        · simp [isBreak, notMark]
        · intro _ impossible
          cases impossible
      rw [blanks, List.replicate_succ, List.cons_append, ← blanks, first, ih, Mark.next_forward]

/-- After a line break a key may begin. -/
theorem skipSpace_feed (allowed : Bool) (m : Mark) (behind : List Char) :
    skipSpace false allowed false m ('\n' :: behind) =
      skipSpace false true false (m.newLine 1) behind := by
  rw [skipSpace]
  · simp [isBreak]
  · intro _ impossible
    cases impossible

/-- A text that begins with a token, which is no comment. -/
def Ready (cs : List Char) : Prop :=
  ∀ c ∈ cs.head?, isBlankOrBreak c = false ∧ c ≠ '#' ∧ c ≠ byteOrderMark

theorem Ready.solid {cs : List Char} (ready : Ready cs) : Solid cs := fun c mem => (ready c mem).1

theorem skipSpace_ready (inFlow allowed : Bool) (m : Mark) {behind : List Char}
    (ready : Ready behind) :
    skipSpace inFlow allowed false m behind = (allowed, ⟨behind, m⟩) := by
  cases behind with
  | nil => rw [skipSpace]
  | cons c rest =>
      rcases ready c rfl with ⟨solid, notComment, notMark⟩
      rcases isBlank_of_isBlankOrBreak solid with ⟨notBlank, notBreak⟩
      have notWhite : c ≠ ' ' ∧ c ≠ '\t' := by simpa [isBlank] using notBlank
      rw [skipSpace]
      · simp [notBreak, notComment, notMark, notWhite]
      · intro _ isReturn
        exact absurd isReturn (not_return_of_isBreak notBreak)

theorem toNextToken_ready {s : Scanner} (ready : Ready s.cursor.rest) : s.toNextToken = s := by
  rw [toNextToken, skipSpace_ready _ _ _ ready]

theorem toNextToken_blanks {s : Scanner} {m : Mark} {behind : List Char} {k : Nat}
    (single : s.inFlow = false) (here : s.cursor = ⟨blanks k ++ behind, m⟩) (ready : Ready behind) :
    s.toNextToken = { s with cursor := ⟨behind, m.forward k⟩ } := by
  rw [toNextToken, single, here, skipSpace_blanks, skipSpace_ready _ _ _ ready]

theorem toNextToken_line {s : Scanner} {m : Mark} {behind : List Char} {k : Nat}
    (single : s.inFlow = false) (here : s.cursor = ⟨'\n' :: (blanks k ++ behind), m⟩)
    (ready : Ready behind) :
    s.toNextToken =
      { s with keyAllowed := true, cursor := ⟨behind, (m.newLine 1).forward k⟩ } := by
  rw [toNextToken, single, here, skipSpace_feed, skipSpace_blanks, skipSpace_ready _ _ _ ready]

/-! ## Indentation -/

theorem unrolled_of_le {column indent : Int} (inside : indent ≤ column) (indents : List Int) :
    unrolled column indent indents = (0, indent, indents) := by
  cases indents with
  | nil => rw [unrolled]
  | cons outer rest => rw [unrolled, if_neg (Int.not_lt.2 inside)]

theorem unrollIndent_of_le {s : Scanner} {column : Int} (inside : s.indent ≤ column) :
    s.unrollIndent column = s := by
  rw [unrollIndent, unrolled_of_le inside]
  simp

/-! ## Names and signs -/

variable {indent : Int} {indents : List Int} {allowed : Bool} {held : List Token} {released : Nat}

/-- The sign in front of an item, where the sequence needs no indentation of its own. -/
theorem fetchHere_entry {m : Mark} (inside : (m.column : Int) ≤ indent) (rest : List Char) :
    (outside ⟨'-' :: ' ' :: rest, m⟩ indent indents true held released).fetchHere =
      some (outside ⟨' ' :: rest, m.forward 1⟩ indent indents true (held ++ [.blockEntry])
        released) := by
  have notDeeper : ¬ indent < (m.column : Int) := Int.not_lt.2 inside
  simp [fetchHere, outside, markerAhead, blankAhead, isBlankOrBreak, isBlank, blockEntry, inFlow,
    rollIndent, column, notDeeper, dropKey, allowKey, skip, emit, Cursor.skip]

theorem startsPlain_of_plain {s : Scanner} (single : s.inFlow = false) {text : String} {c : Char}
    {cs : List Char} (plain : IsPlain text c cs) (behind : List Char) :
    s.startsPlain c (cs ++ behind) = true := by
  have notSign := plain.not_sign
  by_cases sign : c = '?' ∨ c = ':' ∨ c = '-'
  · have notBlank := plain.not_blankAhead sign behind
    generalize cs ++ behind = rest at notBlank ⊢
    rcases sign with rfl | rfl | rfl
    · simp [startsPlain, single, notBlank]
    · simp [startsPlain, single, notBlank]
    · have white : rest.head?.any isBlank = false := by
        cases rest with
        | nil => rfl
        | cons d rest => exact (isBlank_of_isBlankOrBreak notBlank).1
      simp [startsPlain, white]
  · have known : "-?:,[]\x7b\x7d#&*!|>'\"%@`".toList.contains c = false := by
      rw [← Bool.not_eq_true, List.contains_iff_mem]
      simp only [not_or] at sign
      simp only [String.reduceToList, List.mem_cons, not_or] at notSign ⊢
      tauto
    simp only [startsPlain, plain.solid, known, Bool.or_false, Bool.not_false, Bool.true_or]

theorem fetchHere_plain {s : Scanner} (single : s.inFlow = false) {text : String} {c : Char}
    {cs : List Char} (plain : IsPlain text c cs) {x : Char} (after : x ≠ '-' ∧ x ≠ '.')
    {behind : List Char} (here : s.cursor.rest = text.toList ++ x :: behind) :
    s.fetchHere = s.plainScalar := by
  have notSign := plain.not_sign
  simp only [String.reduceToList, List.mem_cons, not_or] at notSign
  have notMarker := plain.not_marker after behind
  have starts := startsPlain_of_plain single plain (x :: behind)
  have noSign (sign : Char) (known : sign = '?' ∨ sign = ':' ∨ sign = '-') :
      (c == sign && blankAhead (cs ++ x :: behind)) = false := by
    by_cases same : c = sign
    · rw [plain.not_blankAhead (same ▸ known), Bool.and_false]
    · simp [same]
  have dash := noSign '-' (by decide)
  have question := noSign '?' (by decide)
  have colon := noSign ':' (by decide)
  rw [plain.text, List.cons_append] at here
  simp [fetchHere, here, single, notMarker, starts, notSign, dash, question, colon]

/-- The token here as a candidate for a key, where one may begin. -/
def candidate (indent : Int) (m : Mark) (allowed : Bool) (number : Nat) : Option KeyCandidate :=
  if allowed then some ⟨indent == (m.column : Int), number, m⟩ else none

theorem saveKey_outside (cursor : Cursor) :
    (outside cursor indent indents allowed held released).saveKey =
      some { outside cursor indent indents allowed held released with
        keys := [candidate indent cursor.mark allowed (released + held.length)] } := by
  cases allowed <;> rfl

theorem keyToken_outside (cursor : Cursor) (read : Cursor → Option (Token × Cursor)) :
    (outside cursor indent indents allowed held released).keyToken read =
      (read cursor).map fun token =>
        { outside token.2 indent indents false (held ++ [token.1]) released with
          keys := [candidate indent cursor.mark allowed (released + held.length)] } := by
  rw [keyToken, saveKey_outside]
  change (read cursor).bind _ = _
  cases read cursor <;> rfl

theorem plainScalar_outside (cursor : Cursor) :
    (outside cursor indent indents allowed held released).plainScalar =
      (cursor.plain ⟨false, (indent + 1).toNat⟩).map fun read =>
        { outside read.2.2 indent indents read.2.1
            (held ++ [.scalar (String.ofList read.1) true]) released with
          keys := [candidate indent cursor.mark allowed (released + held.length)] } := by
  rw [plainScalar, saveKey_outside]
  change (cursor.plain ⟨false, (indent + 1).toNat⟩).bind _ = _
  cases cursor.plain ⟨false, (indent + 1).toNat⟩ <;> rfl

/-- The name of a field, in front of its colon. -/
theorem fetchHere_name {name : String} {c : Char} {cs : List Char} (plain : IsPlain name c cs)
    {m : Mark} (inside : indent ≤ m.column) {rest : List Char} (blank : blankAhead rest = true) :
    (outside ⟨name.toList ++ ':' :: rest, m⟩ indent indents allowed held released).fetchHere =
      some { outside ⟨':' :: rest, m.forward name.toList.length⟩ indent indents false
          (held ++ [.scalar name true]) released with
        keys := [candidate indent m allowed (released + held.length)] } := by
  have deep : (indent + 1).toNat ≤ m.column + 1 := by omega
  have read : Cursor.plain ⟨name.toList ++ ':' :: rest, m⟩ ⟨false, (indent + 1).toNat⟩ =
      some (name.toList, false, ⟨':' :: rest, m.forward name.toList.length⟩) :=
    plain.before_colon rfl deep blank
  rw [fetchHere_plain rfl plain (by decide) rfl, plainScalar_outside, read, Option.map_some,
    String.ofList_toList]

/-- At the end of the text all that is open is closed. -/
theorem fetchHere_end {m : Mark} (start : m.column = 0) :
    (outside ⟨[], m⟩ indent indents allowed held released).fetchHere =
      some { outside ⟨[], m⟩ (unrolled (-1) indent indents).2.1 (unrolled (-1) indent indents).2.2
          false
          (held ++ List.replicate (unrolled (-1) indent indents).1 .blockEnd ++ [.streamEnd])
          released with ended := true } := by
  simp [fetchHere, outside, streamEnd, start, unrollIndent, inFlow, dropKey, emit]

/-! ## The text of a line -/

/-- After the text of a line the scanner is at the next token, or at the end of the line.  What may
be a candidate for a key, with its number, becomes stale with the line. -/
inductive Behind (number k : Nat) (behind : List Char) : Option KeyCandidate → Cursor → Bool → Prop
  | next {key : Option KeyCandidate} {m : Mark} (column : m.column = k)
      (stale : ∀ c ∈ key, c.required = false ∧ c.mark.line < m.line) :
      Behind number k behind key ⟨behind, m⟩ true
  | feed {key : Option KeyCandidate} {m : Mark} {allowed : Bool}
      (stale : ∀ c ∈ key, c.required = false ∧ c.mark.line ≤ m.line ∧ c.number = number) :
      Behind number k behind key ⟨'\n' :: (blanks k ++ behind), m⟩ allowed

/-- The next token of a state is a text, with which its line ends. -/
def EndsWith (s : Scanner) (text : String) (k : Nat) (behind : List Char) : Prop :=
  ∃ key cursor allowed, Behind (s.released + s.held.length) k behind key cursor allowed ∧
    s.fetchHere =
      some { s with
        cursor := cursor, keys := [key], keyAllowed := allowed
        held := s.held ++ [.scalar text (Style.ofText text == .plain)] }

section Text

variable {text : String} {k : Nat} {behind : List Char} {m : Mark}

theorem candidate_stale (deep : indent < m.column) (number : Nat) {c : KeyCandidate}
    (mem : c ∈ candidate indent m allowed number) :
    c.required = false ∧ c.mark = m ∧ c.number = number := by
  cases allowed with
  | false => cases mem
  | true =>
      cases mem
      exact ⟨by simpa using Int.ne_of_lt deep, rfl, rfl⟩

theorem endsWith_plain (style : Style.ofText text = .plain)
    (deep : indent < m.column) (outer : (k : Int) ≤ indent) (ready : Ready behind) :
    EndsWith (outside ⟨text.toList ++ '\n' :: (blanks k ++ behind), m⟩ indent indents allowed held
      released) text k behind := by
  rcases isPlain_of_style style with ⟨c, cs, plain⟩
  have read : Cursor.plain ⟨text.toList ++ '\n' :: (blanks k ++ behind), m⟩
        ⟨false, (indent + 1).toNat⟩ =
      some (text.toList, true, ⟨behind, ((m.forward text.toList.length).newLine 1).forward k⟩) :=
    plain.before_line rfl (by simp; omega) (by simp; omega) ready.solid
  have column : (((m.forward text.toList.length).newLine 1).forward k).column = k :=
    newLine_forward_column _ _ _
  refine ⟨candidate indent m allowed (released + held.length), _, true, .next column ?_, ?_⟩
  · intro c mem
    rcases candidate_stale deep _ mem with ⟨optional, here, -⟩
    exact ⟨optional, by rw [here]; exact Nat.lt_succ_self _⟩
  · rw [fetchHere_plain rfl plain (by decide) rfl, plainScalar_outside, read, Option.map_some,
      String.ofList_toList, style]
    rfl

theorem endsWith_quoted (double : Bool) {rest : List Char} (quoted : Style.ofText text ≠ .plain)
    (deep : indent < m.column) {m' : Mark} (below : m.line ≤ m'.line)
    (read : (if double then Cursor.doubleQuoted ⟨rest, m.forward 1⟩
      else Cursor.singleQuoted ⟨rest, m.forward 1⟩) =
        some (text.toList, ⟨'\n' :: (blanks k ++ behind), m'⟩)) :
    EndsWith (outside ⟨(if double then '"' else '\'') :: rest, m⟩ indent indents allowed held
      released) text k behind := by
  have dispatch :
      (outside ⟨(if double then '"' else '\'') :: rest, m⟩ indent indents allowed held
          released).fetchHere =
        (outside ⟨(if double then '"' else '\'') :: rest, m⟩ indent indents allowed held
          released).keyToken (readQuoted double) := by
    cases double <;> simp [fetchHere, outside, markerAhead]
  have token : readQuoted double ⟨(if double then '"' else '\'') :: rest, m⟩ =
      some (.scalar text false, ⟨'\n' :: (blanks k ++ behind), m'⟩) := by
    have skipped (quote : Char) : Cursor.skip ⟨quote :: rest, m⟩ 1 = ⟨rest, m.forward 1⟩ := rfl
    cases double with
    | false =>
        have read : Cursor.singleQuoted ⟨rest, m.forward 1⟩ = _ := read
        simp [readQuoted, skipped, read]
    | true =>
        have read : Cursor.doubleQuoted ⟨rest, m.forward 1⟩ = _ := read
        simp [readQuoted, skipped, read]
  have style : (Style.ofText text == .plain) = false := by simpa using quoted
  refine ⟨candidate indent m allowed (released + held.length), _, false, .feed (m := m') ?_, ?_⟩
  · intro c mem
    rcases candidate_stale deep _ mem with ⟨optional, here, number⟩
    exact ⟨optional, by rw [here]; exact below, number⟩
  · rw [dispatch, keyToken_outside, token, style]
    rfl

theorem endsWith_block {indent : Nat} (style : Style.ofText text = .literal) (outer : k ≤ indent)
    (ready : Ready behind) :
    EndsWith (outside ⟨'|' :: (indentHint text.toList ++ chompHint text.toList ++ '\n' ::
        (literalChars (indent + 2) true text.toList ++
          (if text.toList.getLast?.any isBreak then [] else ['\n']) ++ (blanks k ++ behind))), m⟩
      indent indents allowed held released) text k behind := by
  rcases literal_block style indent (m.forward 1) (Nat.lt_of_le_of_lt outer (by omega))
    ready.solid with ⟨m', column, read⟩
  generalize indentHint text.toList ++ chompHint text.toList ++ '\n' ::
    (literalChars (indent + 2) true text.toList ++
      (if text.toList.getLast?.any isBreak then [] else ['\n']) ++ (blanks k ++ behind)) = rest
    at read ⊢
  have dispatch : (outside ⟨'|' :: rest, m⟩ indent indents allowed held released).fetchHere =
      (outside ⟨'|' :: rest, m⟩ indent indents allowed held released).blockScalar true := by
    simp [fetchHere, outside, markerAhead, inFlow]
  have skipped : Cursor.skip ⟨'|' :: rest, m⟩ 1 = ⟨rest, m.forward 1⟩ := rfl
  refine ⟨none, _, true, .next column (by simp), ?_⟩
  rw [dispatch, style]
  simp [blockScalar, outside, dropKey, skipped, read, allowKey, emit]

end Text

/-- A text at the end of a line is read as one scalar, whatever it says. -/
theorem endsWith_scalarLine (text : String) {indent : Nat} {m : Mark} (deep : indent < m.column)
    {k : Nat} (outer : k ≤ indent) {behind : List Char} (ready : Ready behind) :
    EndsWith (outside ⟨scalarLine (indent + 2) text ++ (blanks k ++ behind), m⟩ indent indents allowed
      held released) text k behind := by
  have deeper : (indent : Int) < m.column := by omega
  cases style : Style.ofText text with
  | plain =>
      have line : scalarLine (indent + 2) text ++ (blanks k ++ behind) =
          text.toList ++ '\n' :: (blanks k ++ behind) := by
        rw [scalarLine, style]
        simp
      rw [line]
      exact endsWith_plain style deeper (by omega) ready
  | singleQuoted =>
      have line : scalarLine (indent + 2) text ++ (blanks k ++ behind) =
          '\'' :: (singleChars (indent + 2) false text.toList ++
            '\'' :: '\n' :: (blanks k ++ behind)) := by
        rw [scalarLine, style]
        simp
      rcases single_quoted style (Nat.succ_pos (indent + 1)) (m := m.forward 1) (Nat.succ_pos _)
        (blanks k ++ behind) with ⟨m', below, read⟩
      rw [line]
      exact endsWith_quoted false (by rw [style]; decide) deeper below read
  | doubleQuoted =>
      have line : scalarLine (indent + 2) text ++ (blanks k ++ behind) =
          '"' :: (text.toList.flatMap doubleChar ++ '"' :: '\n' :: (blanks k ++ behind)) := by
        rw [scalarLine, style]
        simp
      rcases double_chars text.toList .none rfl (m := m.forward 1) (Nat.succ_pos _)
        ('\n' :: (blanks k ++ behind)) with ⟨m', below, read⟩
      rw [line]
      exact endsWith_quoted true (by rw [style]; decide) deeper below read
  | literal =>
      have line : scalarLine (indent + 2) text ++ (blanks k ++ behind) =
          '|' :: (indentHint text.toList ++ chompHint text.toList ++ '\n' ::
            (literalChars (indent + 2) true text.toList ++
              (if text.toList.getLast?.any isBreak then [] else ['\n']) ++
                (blanks k ++ behind))) := by
        rw [scalarLine, style]
        simp
      rw [line]
      exact endsWith_block style outer ready

theorem ready_scalarLine (text : String) (indent : Nat) (behind : List Char) :
    Ready (scalarLine indent text ++ behind) := by
  intro c mem
  cases style : Style.ofText text with
  | plain =>
      rcases isPlain_of_style style with ⟨d, cs, plain⟩
      have notSign := plain.not_sign
      rw [scalarLine, style, plain.text] at mem
      cases mem
      refine ⟨plain.solid, ?_, ne_of_isPrintable plain.printable (by decide)⟩
      rintro rfl
      exact notSign (by decide)
  | singleQuoted => rw [scalarLine, style] at mem; cases mem; decide
  | doubleQuoted => rw [scalarLine, style] at mem; cases mem; decide
  | literal => rw [scalarLine, style] at mem; cases mem; decide

end Scanner
end Yaml
end CiPipeline
