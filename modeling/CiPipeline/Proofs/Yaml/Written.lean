import CiPipeline.Proofs.Yaml.Scan

/-!
# Written — the tokens of a written form

A form is written line by line, and so it is scanned: each part up to the token that follows it,
whatever that is.  A record closes when the text goes on in front of its columns.

* `IsName`, `Form.Proper`: forms whose names are words that differ;
* `Form.tokens`: the tokens of a form;
* `Form.scans`, `Form.scansFields`: the parts of a written text;
* `Form.tokensOf_write`: the tokens of the whole text.
-/

namespace CiPipeline
namespace Yaml

/-- A name that is written plain and is not too long for a key. -/
def IsName (name : String) : Prop :=
  Style.ofText name = .plain ∧ name.toList.length ≤ Scanner.longestKey

instance (name : String) : Decidable (IsName name) :=
  inferInstanceAs (Decidable (Style.ofText name = .plain ∧
    name.toList.length ≤ Scanner.longestKey))

namespace Form

mutual

/-- The names of the fields are words, and those of one record differ. -/
def Proper : Form → Prop
  | text _ => True
  | list _ => True
  | record fields => (fields.map Prod.fst).Nodup ∧ FieldsProper fields

def FieldsProper : List (String × Form) → Prop
  | [] => True
  | f :: rest => FieldProper f ∧ FieldsProper rest

def FieldProper : String × Form → Prop
  | (name, value) => IsName name ∧ value.Proper

end

/-! ## Tokens -/

def textToken (s : String) : Token := .scalar s (Style.ofText s == .plain)

def itemTokens (items : List String) : List Token :=
  items.flatMap fun s => [.blockEntry, textToken s]

mutual

/-- The tokens of a value. -/
def tokens : Form → List Token
  | text s => [textToken s]
  | list [] => Scanner.emptyTokens true
  | list items => itemTokens items
  | record [] => Scanner.emptyTokens false
  | record fields => .blockMappingStart :: fieldsTokens fields ++ [.blockEnd]

def fieldsTokens : List (String × Form) → List Token
  | [] => []
  | f :: rest => fieldTokens f ++ fieldsTokens rest

def fieldTokens : String × Form → List Token
  | (name, value) => .key :: .scalar name true :: .value :: value.tokens

end

/-! ## Lines ahead -/

/-- The column and the text of the first item, or of what follows the items. -/
def itemsAhead (indent : Nat) (items : List String) (k : Nat) (behind : List Char) :
    Nat × List Char :=
  match items with
  | [] => (k, behind)
  | s :: rest =>
    (indent, '-' :: ' ' ::
      (scalarLine (indent + 2) s ++ (writeItems indent rest ++ (blanks k ++ behind))))

theorem writeItems_ahead (indent : Nat) (items : List String) (k : Nat) (behind : List Char) :
    writeItems indent items ++ (blanks k ++ behind) =
      blanks (itemsAhead indent items k behind).1 ++ (itemsAhead indent items k behind).2 := by
  cases items with
  | nil => rfl
  | cons s rest =>
      simp only [writeItems, itemsAhead, List.append_assoc, List.cons_append]

/-- The column and the text of the first field, or of what follows the fields. -/
def fieldsAhead (indent : Nat) (fields : List (String × Form)) (k : Nat) (behind : List Char) :
    Nat × List Char :=
  match fields with
  | [] => (k, behind)
  | (name, value) :: rest =>
    (indent, name.toList ++ ':' ::
      (writeValue indent value ++ (writeFields indent rest ++ (blanks k ++ behind))))

theorem writeFields_ahead (indent : Nat) (fields : List (String × Form)) (k : Nat)
    (behind : List Char) :
    writeFields indent fields ++ (blanks k ++ behind) =
      blanks (fieldsAhead indent fields k behind).1 ++ (fieldsAhead indent fields k behind).2 := by
  match fields with
  | [] => rfl
  | (name, value) :: rest =>
    simp only [writeFields, writeField, fieldsAhead, List.append_assoc, List.cons_append]

theorem blankAhead_writeValue (indent : Nat) (value : Form) (behind : List Char) :
    blankAhead (writeValue indent value ++ behind) = true := by
  match value with
  | text s => rfl
  | list [] => rfl
  | list (s :: rest) => rfl
  | record [] => rfl
  | record (f :: rest) => rfl

/-! ## Scanning -/

open Scanner

/-- What may follow a part of a text that is indented by `indent`. -/
structure Follows (indent k : Nat) (behind : List Char) : Prop where
  outer : k ≤ indent
  opens : Opens k behind

theorem Follows.items {indent k : Nat} {behind : List Char} (follows : Follows indent k behind)
    (items : List String) :
    (itemsAhead indent items k behind).1 ≤ indent ∧
      OpensItem indent (itemsAhead indent items k behind).1 (itemsAhead indent items k behind).2 := by
  cases items with
  | nil => exact ⟨follows.outer, .other follows.opens⟩
  | cons s rest => exact ⟨Nat.le_refl _, .item rfl _⟩

theorem Follows.fields {indent k : Nat} {behind : List Char} (follows : Follows indent k behind)
    {fields : List (String × Form)} (proper : FieldsProper fields) :
    Follows indent (fieldsAhead indent fields k behind).1 (fieldsAhead indent fields k behind).2 := by
  match fields, proper with
  | [], _ => exact follows
  | (name, value) :: rest, ⟨⟨⟨style, short⟩, _⟩, _⟩ =>
    rcases isPlain_of_style style with ⟨c, cs, plain⟩
    exact ⟨Nat.le_refl _, .field plain short (blankAhead_writeValue ..)⟩

/-- The items of a list, from the first sign on. -/
theorem reaches_items (items : List String) {indent k : Nat} {behind : List Char}
    (follows : Follows indent k behind) {indents : List Int} (bottom : -1 ∈ (indent : Int) :: indents)
    {m : Mark} (column : m.column = (itemsAhead indent items k behind).1) (released : Nat) :
    ∃ m' released', m'.column = k ∧
      Reaches (outside ⟨(itemsAhead indent items k behind).2, m⟩ indent indents true [] released)
        (itemTokens items) (outside ⟨behind, m'⟩ indent indents true [] released') := by
  induction items generalizing m released with
  | nil => exact ⟨m, released, column, Reaches.refl _⟩
  | cons s rest ih =>
      have level : (indent : Int) = m.column := by rw [column]; rfl
      rcases follows.items rest with ⟨outer, opens⟩
      have deep : indent ≤ (m.forward 1).column := by
        rw [Mark.forward_column]
        omega
      rcases reaches_text s deep outer opens bottom with ⟨m₁, released₁, column₁, text⟩
      rcases ih column₁ released₁ with ⟨m', released', column', others⟩
      refine ⟨m', released', column', ?_⟩
      rw [itemsAhead, writeItems_ahead]
      exact (reaches_entry level _).trans (text.trans others)

/-- A value is scanned up to the token that follows it. -/
def Scans (value : Form) : Prop :=
  ∀ {indent k : Nat} {behind : List Char} (_ : Follows indent k behind) {indents : List Int}
    (_ : -1 ∈ (indent : Int) :: indents) {m : Mark} (_ : indent ≤ m.column) (released : Nat),
    ∃ m' released', m'.column = k ∧
      Reaches (outside ⟨writeValue indent value ++ (blanks k ++ behind), m⟩ indent indents false []
          released)
        value.tokens (outside ⟨behind, m'⟩ indent indents true [] released')

/-- So are fields of an open mapping, from the first name on. -/
def ScansFields (fields : List (String × Form)) : Prop :=
  ∀ {indent k : Nat} {behind : List Char} (_ : Follows indent k behind) {indents : List Int}
    (_ : -1 ∈ (indent : Int) :: indents) {m : Mark}
    (_ : m.column = (fieldsAhead indent fields k behind).1) (released : Nat),
    ∃ m' released', m'.column = k ∧
      Reaches (outside ⟨(fieldsAhead indent fields k behind).2, m⟩ indent indents true [] released)
        (fieldsTokens fields) (outside ⟨behind, m'⟩ indent indents true [] released')

theorem scans_text (s : String) : Scans (text s) := by
  intro indent k behind follows indents bottom m inside released
  rw [writeValue, tokens, List.cons_append]
  exact reaches_text s inside follows.outer (.other follows.opens) bottom

theorem scans_list (items : List String) : Scans (list items) := by
  intro indent k behind follows indents bottom m inside released
  cases items with
  | nil => exact reaches_empty true (by omega) k follows.opens.ready
  | cons s rest =>
      rcases follows.items (s :: rest) with ⟨outer, opens⟩
      have column : ((m.newLine 1).forward indent).column = indent := newLine_forward_column _ _ _
      rcases reaches_items (s :: rest) follows bottom column released with
        ⟨m', released', end', items⟩
      refine ⟨m', released', end', ?_⟩
      have written : writeValue indent (list (s :: rest)) ++ (blanks k ++ behind) =
          '\n' :: (blanks indent ++ (itemsAhead indent (s :: rest) k behind).2) := by
        rw [writeValue, List.cons_append, writeItems_ahead]
        · rfl
        · intro impossible
          cases impossible
      have listed : (list (s :: rest)).tokens = itemTokens (s :: rest) := by
        rw [tokens]
        intro impossible
        cases impossible
      rw [written, listed]
      exact (reaches_line indent opens.ready).trans items

/-- What follows the colon of a field: its value, and the fields behind it. -/
theorem reaches_behind_colon {value : Form} {rest : List (String × Form)}
    (proper : FieldsProper rest) (first : Scans value) (others : ScansFields rest)
    {indent k : Nat} {behind : List Char} (follows : Follows indent k behind) {indents : List Int}
    (bottom : -1 ∈ (indent : Int) :: indents) {m : Mark} (inside : indent ≤ m.column)
    (released : Nat) :
    ∃ m' released', m'.column = k ∧
      Reaches (outside ⟨writeValue indent value ++ (writeFields indent rest ++ (blanks k ++ behind)),
          m⟩ indent indents false [] released)
        (value.tokens ++ fieldsTokens rest) (outside ⟨behind, m'⟩ indent indents true [] released') := by
  rcases first (follows.fields proper) bottom inside released with ⟨m₁, released₁, column₁, value⟩
  rcases others follows bottom column₁ released₁ with ⟨m', released', column, fields⟩
  refine ⟨m', released', column, ?_⟩
  rw [writeFields_ahead]
  exact value.trans fields

/-- A field of an open mapping, and those behind it. -/
theorem scansFields_cons {name : String} {value : Form} {rest : List (String × Form)}
    (isName : IsName name) (proper : FieldsProper rest) (first : Scans value)
    (others : ScansFields rest) : ScansFields ((name, value) :: rest) := by
  intro indent k behind follows indents bottom m column released
  rcases isPlain_of_style isName.1 with ⟨c, cs, plain⟩
  have blank := blankAhead_writeValue indent value (writeFields indent rest ++ (blanks k ++ behind))
  have level : (indent : Int) = m.column := by rw [column]; rfl
  have inside : indent ≤ ((m.forward name.toList.length).forward 1).column := by
    rw [Mark.forward_column, Mark.forward_column]
    omega
  rcases reaches_behind_colon proper first others follows bottom inside (released + 3) with
    ⟨m', released', column', later⟩
  exact ⟨m', released', column', (reaches_next_name plain isName.2 blank level).trans later⟩

/-- Fields that open a mapping, which stays open. -/
theorem reaches_mapping {name : String} {value : Form} {rest : List (String × Form)}
    (isName : IsName name) (proper : FieldsProper rest) (first : Scans value)
    (others : ScansFields rest) {indent k : Nat} {behind : List Char}
    (follows : Follows indent k behind) {outer : Int} {indents : List Int}
    (bottom : -1 ∈ outer :: indents) (deeper : outer < indent) {m : Mark}
    (column : m.column = indent) (released : Nat) :
    ∃ m' released', m'.column = k ∧
      Reaches (outside ⟨(fieldsAhead indent ((name, value) :: rest) k behind).2, m⟩ outer indents true
          [] released)
        (.blockMappingStart :: fieldsTokens ((name, value) :: rest))
        (outside ⟨behind, m'⟩ indent (outer :: indents) true [] released') := by
  subst column
  rcases isPlain_of_style isName.1 with ⟨c, cs, plain⟩
  have blank := blankAhead_writeValue m.column value
    (writeFields m.column rest ++ (blanks k ++ behind))
  have inside : m.column ≤ ((m.forward name.toList.length).forward 1).column := by
    rw [Mark.forward_column, Mark.forward_column]
    omega
  rcases reaches_behind_colon proper first others follows (List.mem_cons_of_mem _ bottom) inside
    (released + 4) with ⟨m', released', column', later⟩
  exact ⟨m', released', column', (reaches_first_name plain isName.2 blank deeper).trans later⟩

theorem scans_empty : Scans (record []) := by
  intro indent k behind follows indents bottom m inside released
  exact reaches_empty false (by omega) k follows.opens.ready

/-- A record is a mapping, which is closed where the text goes on in front of its columns. -/
theorem scans_record {name : String} {value : Form} {rest : List (String × Form)}
    (proper : FieldsProper ((name, value) :: rest)) (first : Scans value)
    (others : ScansFields rest) : Scans (record ((name, value) :: rest)) := by
  intro indent k behind follows indents bottom m inside released
  -- The fields stand on lines of their own, two columns further in.
  have deeper : Follows (indent + 2) k behind :=
    ⟨Nat.le_add_right_of_le follows.outer, follows.opens⟩
  have written : writeValue indent (record ((name, value) :: rest)) ++ (blanks k ++ behind) =
      '\n' :: (blanks (indent + 2) ++
        (fieldsAhead (indent + 2) ((name, value) :: rest) k behind).2) := by
    rw [writeValue, List.cons_append, writeFields_ahead]
    · rfl
    · intro impossible
      cases impossible
  have listed : (record ((name, value) :: rest)).tokens =
      .blockMappingStart :: fieldsTokens ((name, value) :: rest) ++ [.blockEnd] := by
    rw [tokens]
    intro impossible
    cases impossible
  have ready := (deeper.fields proper).opens.ready
  have column := newLine_forward_column m 1 (indent + 2)
  rcases reaches_mapping proper.1.1 proper.2 first others deeper bottom (by omega) column released with
    ⟨m', released', end', fields⟩
  -- What follows stands in front of their columns, and so the mapping is closed there.
  have outer : (m'.column : Int) < ((indent + 2 : Nat) : Int) := by
    have := follows.outer
    omega
  rw [written, listed]
  refine ⟨m', released' + 1, end', ((reaches_line _ ready).trans fields).trans ?_⟩
  exact reaches_close outer (end' ▸ follows.opens) bottom

mutual

theorem scans : ∀ value : Form, value.Proper → Scans value
  | text s, _ => scans_text s
  | list items, _ => scans_list items
  | record [], _ => scans_empty
  | record ((_, value) :: rest), ⟨_, proper⟩ =>
    scans_record proper (scans value proper.1.2) (scansFields rest proper.2)

theorem scansFields : ∀ fields : List (String × Form), FieldsProper fields → ScansFields fields
  | [], _ => fun _ _ _ m column released => ⟨m, released, column, Reaches.refl _⟩
  | (_, value) :: rest, ⟨⟨isName, first⟩, others⟩ =>
    scansFields_cons isName others (scans value first) (scansFields rest others)

end

/-! ## Characters -/

theorem all_blanks (n : Nat) : (blanks n).all isAllowed = true := by
  rw [List.all_eq_true]
  intro c mem
  rw [List.eq_of_mem_replicate mem]
  decide

theorem all_indentation (indent : Nat) (fresh : Bool) :
    (if fresh then blanks indent else []).all isAllowed = true := by
  cases fresh with
  | false => rfl
  | true => exact all_blanks indent

theorem all_singleChar (indent : Nat) (fresh : Bool) {c : Char} (printable : isPrintable c = true) :
    (singleChar indent fresh c).all isAllowed = true := by
  have allowed := isAllowed_of_isPrintable printable
  have written : (if (c == '\'') = true then ['\'', '\''] else [c]).all isAllowed = true := by
    split
    · rfl
    · rw [List.all_cons, allowed]; rfl
  rw [singleChar]
  split
  · rw [List.all_cons, allowed]; rfl
  · rw [List.all_append, all_indentation, written]; rfl

theorem all_singleChars (indent : Nat) (fresh : Bool) {cs : List Char}
    (printable : ∀ c ∈ cs, isPrintable c = true) :
    (singleChars indent fresh cs).all isAllowed = true := by
  induction cs generalizing fresh with
  | nil => exact all_indentation indent fresh
  | cons c rest ih =>
      rcases List.forall_mem_cons.1 printable with ⟨first, later⟩
      rw [singleChars_cons, List.all_append, all_singleChar indent fresh first, ih _ later]
      rfl

theorem all_literalChars (indent : Nat) (fresh : Bool) {cs : List Char}
    (printable : ∀ c ∈ cs, isPrintable c = true) :
    (literalChars indent fresh cs).all isAllowed = true := by
  induction cs generalizing fresh with
  | nil => rfl
  | cons c rest ih =>
      rcases List.forall_mem_cons.1 printable with ⟨first, later⟩
      have allowed := isAllowed_of_isPrintable first
      have written : (literalChar indent fresh c).all isAllowed = true := by
        rw [literalChar]
        split
        · rw [List.all_cons, allowed]; rfl
        · rw [List.all_append, all_indentation, List.all_cons, allowed]; rfl
      rw [literalChars_cons, List.all_append, written, ih _ later]
      rfl

theorem all_hexDigits (n width : Nat) : (hexDigits n width).all isAllowed = true := by
  have digit : ∀ d < 16, isAllowed (Nat.digitChar d).toUpper = true := by decide
  induction width generalizing n with
  | zero => rfl
  | succ width ih =>
      rw [hexDigits, List.all_append, ih, List.all_cons, digit _ (Nat.mod_lt _ (by decide))]
      rfl

theorem all_doubleChar (c : Char) : (doubleChar c).all isAllowed = true := by
  rw [doubleChar]
  split
  · next asItself =>
    simp only [Bool.and_eq_true] at asItself
    rw [List.all_cons, isAllowed_of_isPrintable asItself.1.1.1]
    rfl
  · split
    · next letter written =>
      have allowed : isAllowed letter = true := by
        unfold escapeLetter at written
        split at written <;> cases written <;> decide
      rw [List.all_cons, List.all_cons, allowed]
      rfl
    · rw [List.all_cons, escapeCode]
      split
      · rw [List.all_cons, all_hexDigits]; rfl
      · split <;> (rw [List.all_cons, all_hexDigits]; rfl)

theorem all_scalarLine (indent : Nat) (s : String) : (scalarLine indent s).all isAllowed = true := by
  have feed : isAllowed '\n' = true := by decide
  cases style : Style.ofText s with
  | plain =>
      rcases isPlain_of_style style with ⟨c, cs, plain⟩
      rw [scalarLine, style]
      simp [List.all_append, plain.all_isAllowed, feed]
  | singleQuoted =>
      have all := all_singleChars indent false (foldable_of_style style).printable
      rw [scalarLine, style]
      simp only [List.cons_append, List.all_cons, List.all_append, all]
      rfl
  | doubleQuoted =>
      have all : (s.toList.flatMap doubleChar).all isAllowed = true := by
        rw [List.all_flatMap, List.all_eq_true]
        exact fun c _ => all_doubleChar c
      rw [scalarLine, style]
      simp only [List.cons_append, List.all_cons, List.all_append, all]
      rfl
  | literal =>
      have all := all_literalChars indent true (printable_of_style style).2
      have hint : (indentHint s.toList).all isAllowed = true := by
        unfold indentHint
        split <;> rfl
      have chomp : (chompHint s.toList).all isAllowed = true := by
        unfold chompHint
        split
        · rfl
        · split <;> rfl
        · split
          · rfl
          · split <;> rfl
      have closed : (if s.toList.getLast?.any isBreak then [] else ['\n']).all isAllowed = true := by
        split <;> rfl
      rw [scalarLine, style]
      simp only [List.cons_append, List.all_cons, List.all_append, all, hint, chomp, closed]
      rfl

theorem all_writeItems (indent : Nat) (items : List String) :
    (writeItems indent items).all isAllowed = true := by
  induction items with
  | nil => rfl
  | cons s rest ih =>
      simp only [writeItems, List.all_append, List.all_cons, all_blanks,
        all_scalarLine, ih]
      rfl

mutual

theorem all_writeValue (indent : Nat) :
    ∀ value : Form, value.Proper → (writeValue indent value).all isAllowed = true
  | text s, _ => by rw [writeValue, List.all_cons, all_scalarLine]; rfl
  | list [], _ => rfl
  | list (s :: rest), _ => by
      have items := all_writeItems indent (s :: rest)
      change ('\n' :: writeItems indent (s :: rest)).all isAllowed = true
      rw [List.all_cons, items]
      rfl
  | record [], _ => rfl
  | record (f :: rest), ⟨_, proper⟩ => by
      have fields := all_writeFields (indent + 2) (f :: rest) proper
      change ('\n' :: writeFields (indent + 2) (f :: rest)).all isAllowed = true
      rw [List.all_cons, fields]
      rfl

theorem all_writeFields (indent : Nat) :
    ∀ fields, FieldsProper fields → (writeFields indent fields).all isAllowed = true
  | [], _ => rfl
  | (name, value) :: rest, ⟨⟨isName, first⟩, others⟩ => by
      have named : name.toList.all isAllowed = true := by
        rcases isPlain_of_style isName.1 with ⟨c, cs, plain⟩
        exact plain.all_isAllowed
      have value := all_writeValue indent value first
      rw [writeFields, writeField, List.all_append, List.all_append, List.all_append, List.all_cons,
        all_blanks, named, value, all_writeFields indent rest others]
      rfl

end

/-! ## Whole texts -/

/-- The tokens of the text of a record are those of its fields, and all of the text is read. -/
theorem tokensOf_write {f : String × Form} {rest : List (String × Form)}
    (proper : FieldsProper (f :: rest)) :
    tokensOf (write (f :: rest)).toList =
      (.blockMappingStart :: fieldsTokens (f :: rest) ++ [.blockEnd, .streamEnd], true) := by
  rcases f with ⟨name, value⟩
  rcases isPlain_of_style proper.1.1.1 with ⟨c, cs, plain⟩
  have text : (write ((name, value) :: rest)).toList =
      (fieldsAhead 0 ((name, value) :: rest) 0 []).2 := by
    have ahead := writeFields_ahead 0 ((name, value) :: rest) 0 []
    rw [write, String.toList_ofList]
    simpa [blanks, fieldsAhead] using ahead
  have noMark : ((fieldsAhead 0 ((name, value) :: rest) 0 []).2.head? == some byteOrderMark) =
      false := by
    have notMark : c ≠ byteOrderMark := ne_of_isPrintable plain.printable (by decide)
    simp [fieldsAhead, plain.text, notMark]
  have allowed : (fieldsAhead 0 ((name, value) :: rest) 0 []).2.all isAllowed = true := by
    rw [← text, write, String.toList_ofList]
    exact all_writeFields 0 _ proper
  have follows : Follows 0 0 [] := ⟨Nat.le_refl _, .finish rfl⟩
  rcases reaches_mapping proper.1.1 proper.2 (scans value proper.1.2) (scansFields rest proper.2)
    follows (List.mem_singleton_self (-1 : Int)) (by decide) (m := .start) rfl 0 with
    ⟨m', released', column, n, used, run⟩
  rw [tokensOf, text, noMark]
  simp only [Bool.false_eq_true, if_false, allowed, if_true]
  generalize (fieldsAhead 0 ((name, value) :: rest) 0 []).2 = chars at used run ⊢
  -- What the fields cost is within the potential of the text, and the fuel is more than that.
  have enough : n + 1 ≤ 8 * chars.length := used
  obtain ⟨fuel, split⟩ : ∃ fuel, 8 * chars.length + 16 = fuel + 3 + 1 + n :=
    ⟨8 * chars.length + 12 - n, by omega⟩
  rw [split]
  have closed : Scanner.run (fuel + 3 + 1) (outside ⟨[], m'⟩ (0 : Nat) [-1] true [] released') =
      ([.blockEnd, .streamEnd], true) := run_end column fuel
  refine (run (fuel + 3)).trans ?_
  rw [closed]

end Form
end Yaml
end CiPipeline
