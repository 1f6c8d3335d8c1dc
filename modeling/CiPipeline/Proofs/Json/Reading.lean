import CiPipeline.Proofs.Json.Text

/-!
# Reading — JSON texts of one line are read back

The reader finds what was written, also when more text follows: a string ends at its closing quote, and
the numbers, lists and records of a text end where a comma or a bracket follows.  Numbers are read back
as far as their own texts are, since the reader rounds long fractions.

* `Json.Ends`: what may follow a value;
* `Json.readNumber_append`: a number that is read is read in front of such a text too;
* `Json.ReadsBack`: numbers whose texts are read back;
* `Json.Tree.datum`: what is read of a tree;
* `Json.Tree.Readable`: trees of such numbers, down to a depth;
* `Json.readAt_of_readable`, `Json.decode_compact`: their texts are read back.
-/

namespace CiPipeline
namespace Json

open Numeral

/-- What may stand behind a value: nothing, or what ends an item or a field. -/
inductive Ends : List Char → Prop
  | nothing : Ends []
  | before {c : Char} (mark : c ∈ [',', ']', '\x7d']) (rest : List Char) : Ends (c :: rest)

/-- No mark behind a value could belong to a number. -/
theorem mark_apart : ∀ c ∈ [',', ']', '\x7d'],
    isDigit c = false ∧ c ≠ '.' ∧ c ≠ 'e' ∧ c ≠ 'E' ∧ isSpace c = false := by
  simp only [List.mem_cons, List.not_mem_nil, or_false, forall_eq_or_imp, forall_eq]
  decide

/-! ## Numbers in longer texts -/

/-- The sign in front of an exponent, and the rest. -/
def exponentSign : List Char → Bool × List Char
  | '-' :: rest => (true, rest)
  | '+' :: rest => (false, rest)
  | rest => (false, rest)

theorem readExponent_eq (cs : List Char) :
    readExponent cs =
      if ((exponentSign cs).2.takeWhile isDigit).isEmpty then none
      else
        some (if (exponentSign cs).1 then -(digitsValue ((exponentSign cs).2.takeWhile isDigit) : Int)
          else digitsValue ((exponentSign cs).2.takeWhile isDigit),
          (exponentSign cs).2.dropWhile isDigit) := rfl

theorem exponentSign_append (c : Char) (cs rest : List Char) :
    exponentSign (c :: cs ++ rest) =
      ((exponentSign (c :: cs)).1, (exponentSign (c :: cs)).2 ++ rest) := by
  by_cases minus : c = '-'
  · subst minus
    rfl
  · by_cases plus : c = '+'
    · subst plus
      rfl
    · have other : ∀ ds, exponentSign (c :: ds) = (false, c :: ds) := by
        intro ds
        refine exponentSign.eq_3 _ ?_ ?_
        · rintro _ ⟨⟩
          exact minus rfl
        · rintro _ ⟨⟩
          exact plus rfl
      rw [List.cons_append, other, other]
      rfl

/-- The number behind its whole digits, with the digits that did not fit. -/
def readFraction (negative : Bool) (significand : Nat) (places : List Char) :
    List Char → Option (Datum × List Char)
  | '.' :: rest =>
    if (rest.takeWhile isDigit).isEmpty then none
    else
      readScaled negative (absorb significand (rest.takeWhile isDigit)).1
        ((places.length : Int) - ((rest.takeWhile isDigit).length -
          (absorb significand (rest.takeWhile isDigit)).2.length))
        (rest.dropWhile isDigit)
  | c :: rest =>
    if c = 'e' ∨ c = 'E' ∨ !places.isEmpty then readScaled negative significand places.length (c :: rest)
    else some (integerDatum negative significand, c :: rest)
  | [] =>
    if places.isEmpty then some (integerDatum negative significand, [])
    else readScaled negative significand places.length []

theorem readFraction_of_ne {c : Char} (point : c ≠ '.') (negative : Bool) (significand : Nat)
    (places rest : List Char) :
    readFraction negative significand places (c :: rest) =
      if c = 'e' ∨ c = 'E' ∨ !places.isEmpty then
        readScaled negative significand places.length (c :: rest)
      else some (integerDatum negative significand, c :: rest) :=
  readFraction.eq_2 _ _ _ _ _ point

theorem readMagnitude_eq (negative : Bool) (cs : List Char) :
    readMagnitude negative cs =
      if (cs.takeWhile isDigit).isEmpty ||
          (cs.takeWhile isDigit).head? == some '0' && (cs.takeWhile isDigit).length != 1 then none
      else
        readFraction negative (absorb 0 (cs.takeWhile isDigit)).1 (absorb 0 (cs.takeWhile isDigit)).2
          (cs.dropWhile isDigit) := by
  unfold readMagnitude
  by_cases wrong : ((cs.takeWhile isDigit).isEmpty ||
      (cs.takeWhile isDigit).head? == some '0' && (cs.takeWhile isDigit).length != 1) = true
  · simp only [if_pos wrong]
  · simp only [if_neg wrong]
    cases cs.dropWhile isDigit with
    | nil => rfl
    | cons c rest =>
        by_cases point : c = '.'
        · subst point
          rfl
        · rw [readFraction_of_ne point]
          split
          · next same => exact absurd (List.cons.inj same).1 point
          · next same =>
              cases same
              rfl
          · next same => cases same

section

variable {rest : List Char} (ends : Ends rest)

include ends

theorem takeWhile_isDigit_append (cs : List Char) :
    (cs ++ rest).takeWhile isDigit = cs.takeWhile isDigit := by
  induction cs with
  | nil =>
      cases ends with
      | nothing => rfl
      | before mark rest =>
          rw [List.nil_append, List.takeWhile_cons, (mark_apart _ mark).1]
          rfl
  | cons c cs ih => rw [List.cons_append, List.takeWhile_cons, List.takeWhile_cons, ih]

theorem dropWhile_isDigit_append (cs : List Char) :
    (cs ++ rest).dropWhile isDigit = cs.dropWhile isDigit ++ rest := by
  induction cs with
  | nil =>
      cases ends with
      | nothing => rfl
      | before mark rest =>
          rw [List.nil_append, List.dropWhile_cons, (mark_apart _ mark).1]
          rfl
  | cons c cs ih =>
      rw [List.cons_append, List.dropWhile_cons, List.dropWhile_cons, ih]
      cases isDigit c with
      | true => rfl
      | false => rfl

variable {cs left : List Char} {negative : Bool} {significand : Nat} {d : Datum}

theorem readExponent_append {power : Int} (read : readExponent cs = some (power, left)) :
    readExponent (cs ++ rest) = some (power, left ++ rest) := by
  cases cs with
  | nil => cases read
  | cons c cs =>
      rw [readExponent_eq] at read ⊢
      simp only [exponentSign_append, takeWhile_isDigit_append ends, dropWhile_isDigit_append ends]
      by_cases none_ : ((exponentSign (c :: cs)).2.takeWhile isDigit).isEmpty = true
      · rw [if_pos none_] at read
        cases read
      · rw [if_neg none_] at read ⊢
        cases read
        rfl

theorem readScaled_append {power : Int}
    (read : readScaled negative significand power cs = some (d, left)) :
    readScaled negative significand power (cs ++ rest) = some (d, left ++ rest) := by
  -- Without an exponent, what follows is not looked at.
  have plain : ∀ {ds : List Char},
      (scaledDatum negative significand power).map (·, ds) = some (d, left) →
      (scaledDatum negative significand power).map (·, ds ++ rest) = some (d, left ++ rest) := by
    intro ds known
    rcases Option.map_eq_some_iff.1 known with ⟨d', scaled, same⟩
    cases same
    rw [scaled]
    rfl
  unfold readScaled at read ⊢
  cases cs with
  | nil =>
      cases ends with
      | nothing => exact plain read
      | before mark rest =>
          rcases mark_apart _ mark with ⟨_, _, lower, upper, _⟩
          simp only [List.nil_append, lower, upper, or_self, if_false]
          exact plain read
  | cons c cs =>
      rw [List.cons_append]
      by_cases exponential : c = 'e' ∨ c = 'E'
      · simp only [if_pos exponential] at read ⊢
        rcases Option.bind_eq_some_iff.1 read with ⟨⟨power', behind⟩, exponent, read⟩
        rcases Option.bind_eq_some_iff.1 read with ⟨d', scaled, same⟩
        cases same
        simp only [readExponent_append ends exponent, Option.bind_eq_bind, Option.bind_some, scaled]
      · simp only [if_neg exponential] at read ⊢
        exact plain read

theorem readFraction_append {places : List Char}
    (read : readFraction negative significand places cs = some (d, left)) :
    readFraction negative significand places (cs ++ rest) = some (d, left ++ rest) := by
  cases cs with
  | nil =>
      rw [readFraction] at read
      cases ends with
      | nothing =>
          rw [List.append_nil, List.append_nil]
          exact read
      | @before c mark rest =>
          rcases mark_apart c mark with ⟨_, point, lower, upper, _⟩
          rw [List.nil_append, readFraction_of_ne point]
          by_cases none_ : places.isEmpty = true
          · rw [if_pos none_] at read
            cases read
            simp [lower, upper, none_]
          · rw [if_neg none_] at read
            have more : c = 'e' ∨ c = 'E' ∨ (!places.isEmpty) = true := .inr (.inr (by simpa using none_))
            rw [if_pos more]
            exact readScaled_append (.before mark rest) read
  | cons c cs =>
      by_cases point : c = '.'
      · subst point
        rw [List.cons_append]
        unfold readFraction at read ⊢
        simp only [takeWhile_isDigit_append ends, dropWhile_isDigit_append ends] at read ⊢
        by_cases none_ : (cs.takeWhile isDigit).isEmpty = true
        · rw [if_pos none_] at read
          cases read
        · rw [if_neg none_] at read ⊢
          exact readScaled_append ends read
      · rw [List.cons_append, readFraction_of_ne point]
        rw [readFraction_of_ne point] at read
        by_cases more : c = 'e' ∨ c = 'E' ∨ (!places.isEmpty) = true
        · rw [if_pos more] at read ⊢
          exact readScaled_append ends read
        · rw [if_neg more] at read ⊢
          cases read
          rfl

theorem readMagnitude_append (read : readMagnitude negative cs = some (d, left)) :
    readMagnitude negative (cs ++ rest) = some (d, left ++ rest) := by
  rw [readMagnitude_eq] at read ⊢
  simp only [takeWhile_isDigit_append ends, dropWhile_isDigit_append ends]
  split_ifs at read ⊢
  exact readFraction_append ends read

theorem readNumber_append (read : readNumber cs = some (d, left)) :
    readNumber (cs ++ rest) = some (d, left ++ rest) := by
  cases cs with
  | nil => cases read
  | cons c cs =>
      by_cases minus : c = '-'
      · subst minus
        exact readMagnitude_append ends read
      · have unsigned : ∀ ds, readNumber (c :: ds) = readMagnitude false (c :: ds) := by
          intro ds
          refine readNumber.eq_2 _ ?_
          rintro _ ⟨⟩
          exact minus rfl
        rw [List.cons_append, unsigned, ← List.cons_append]
        rw [unsigned] at read
        exact readMagnitude_append ends read

end

/-- No character of a number begins another value or is passed over. -/
theorem numeric_apart {c : Char} (numeric : isNumeric c = true) :
    ∀ d ∈ [' ', '\n', '\t', '\r', 'n', 't', 'f', '"', '[', ']', '\x7b', '\x7d'], c ≠ d := by
  have other : ∀ d ∈ [' ', '\n', '\t', '\r', 'n', 't', 'f', '"', '[', ']', '\x7b', '\x7d'],
      isNumeric d = false := by
    simp only [List.mem_cons, List.not_mem_nil, or_false, forall_eq_or_imp, forall_eq]
    decide
  intro d mem same
  rw [same, other d mem] at numeric
  cases numeric

/-- The number is finite, and its text is read as this number. -/
structure ReadsBack (x : Binary64) : Prop where
  finite : x.isFinite = true
  read : readNumber (NumberStyle.json.write x).toList = some (.number x, [])

/-! ## Trees -/

namespace Tree

mutual

/-- What is read of the text of a tree. -/
def datum : Tree → Datum
  | null => .null
  | bool b => .bool b
  | int i => .int i
  | number x => .number x
  | string s => .text s
  | array items => .list (itemData items)
  | object fields => .record (fieldData fields)

def itemData : List Tree → List Datum
  | [] => []
  | t :: ts => datum t :: itemData ts

def fieldData : List (String × Tree) → List (Datum × Datum)
  | [] => []
  | f :: fs => fieldDatum f :: fieldData fs

def fieldDatum : String × Tree → Datum × Datum
  | (key, t) => (.text key, datum t)

end

theorem itemData_eq (items : List Tree) : itemData items = items.map datum := by
  induction items with
  | nil => rfl
  | cons t ts ih => rw [itemData, ih, List.map_cons]

theorem fieldDatum_eq (f : String × Tree) : fieldDatum f = (.text f.1, f.2.datum) := by
  rcases f with ⟨key, t⟩
  rfl

theorem fieldData_eq (fields : List (String × Tree)) : fieldData fields = fields.map fieldDatum := by
  induction fields with
  | nil => rfl
  | cons f fs ih => rw [fieldData, ih, List.map_cons]

/-- Trees of strings, booleans and numbers that are read back, down to a depth. -/
inductive Readable : Nat → Tree → Prop
  | bool {n : Nat} (b : Bool) : Readable n (bool b)
  | number {n : Nat} {x : Binary64} (back : ReadsBack x) : Readable n (number x)
  | string {n : Nat} (s : String) : Readable n (string s)
  | array {n : Nat} {items : List Tree} (each : ∀ t ∈ items, Readable n t) :
      Readable (n + 1) (array items)
  | object {n : Nat} {fields : List (String × Tree)} (each : ∀ f ∈ fields, Readable n f.2) :
      Readable (n + 1) (object fields)

theorem compactItems_cons_cons (t t' : Tree) (ts : List Tree) :
    compactItems (t :: t' :: ts) = compactChars t ++ ',' :: compactItems (t' :: ts) := by
  rw [compactItems]
  simp

theorem compactFields_cons_cons (f f' : String × Tree) (fs : List (String × Tree)) :
    compactFields (f :: f' :: fs) = compactField f ++ ',' :: compactFields (f' :: fs) := by
  rw [compactFields]
  simp

/-- The text of a tree begins with a character that is no space and closes nothing. -/
theorem compactChars_head {n : Nat} {t : Tree} (readable : Readable n t) :
    ∃ c cs, compactChars t = c :: cs ∧ isSpace c = false ∧ c ≠ ']' := by
  cases readable with
  | bool b =>
      cases b with
      | true => exact ⟨'t', "rue".toList, rfl, rfl, by decide⟩
      | false => exact ⟨'f', "alse".toList, rfl, rfl, by decide⟩
  | @number _ x back =>
      have numeric := Numeric.write back.finite NumberStyle.json
      have read := back.read
      cases text : (NumberStyle.json.write x).toList with
      | nil =>
          rw [text] at read
          cases read
      | cons c cs =>
          rw [text] at numeric
          have first := numeric c (List.mem_cons_self ..)
          have apart := numeric_apart (numeric c (List.mem_cons_self ..))
          refine ⟨c, cs, text, ?_, apart ']' (by simp)⟩
          simp [isSpace, apart]
  | string s => exact ⟨'"', _, rfl, rfl, by decide⟩
  | array each => exact ⟨'[', _, rfl, rfl, by decide⟩
  | object each => exact ⟨'\x7b', _, rfl, rfl, by decide⟩

theorem compactItems_head {n : Nat} (t : Tree) (ts : List Tree) (readable : Readable n t) :
    ∃ c cs, compactItems (t :: ts) = c :: cs ∧ isSpace c = false ∧ c ≠ ']' := by
  rcases compactChars_head readable with ⟨c, cs, text, solid, item⟩
  cases ts with
  | nil => exact ⟨c, cs, text, solid, item⟩
  | cons t' ts =>
      rw [compactItems_cons_cons, text]
      exact ⟨c, _, rfl, solid, item⟩

theorem compactFields_head (f : String × Tree) (fs : List (String × Tree)) :
    ∃ cs, compactFields (f :: fs) = '"' :: cs := by
  rcases f with ⟨key, t⟩
  cases fs with
  | nil => exact ⟨_, rfl⟩
  | cons f' fs =>
      rw [compactFields_cons_cons]
      exact ⟨_, rfl⟩

end Tree

/-! ## Reading -/

open Json.Tree

theorem skipSpace_cons {c : Char} (solid : isSpace c = false) (cs : List Char) :
    skipSpace (c :: cs) = c :: cs := by
  rw [skipSpace, List.dropWhile_cons, solid]
  rfl

theorem valueAt_string (fuel depth : Nat) (s : String) (rest : List Char) :
    valueAt (fuel + 1) depth (writeString s ++ rest) = (.text s, some rest) := by
  rw [writeString_append, valueAt, skipSpace_cons (by decide)]
  simp only [readString_escaped, String.ofList_toList]

/-- Text that begins like a number is read as one. -/
theorem valueAt_number {c : Char} (numeric : isNumeric c = true) (fuel depth : Nat) (cs : List Char) :
    valueAt (fuel + 1) depth (c :: cs) =
      match readNumber (c :: cs) with
      | some (d, rest) => (d, some rest)
      | none => (broken, none) := by
  have apart := numeric_apart numeric
  have solid : isSpace c = false := by simp [isSpace, apart]
  rw [valueAt, skipSpace_cons solid]
  split
  · next same => cases same
  · next same => exact absurd (List.cons.inj same).1 (apart 'n' (by simp))
  · next same => exact absurd (List.cons.inj same).1 (apart 't' (by simp))
  · next same => exact absurd (List.cons.inj same).1 (apart 'f' (by simp))
  · next same => exact absurd (List.cons.inj same).1 (apart '"' (by simp))
  · next same => exact absurd (List.cons.inj same).1 (apart '[' (by simp))
  · next same => exact absurd (List.cons.inj same).1 (apart '\x7b' (by simp))
  · rfl

theorem valueAt_array {c : Char} (solid : isSpace c = false) (item : c ≠ ']') (fuel depth : Nat)
    (cs : List Char) :
    valueAt (fuel + 1) (depth + 1) ('[' :: c :: cs) =
      (.list (itemsAt fuel depth (c :: cs)).1, (itemsAt fuel depth (c :: cs)).2) := by
  rw [valueAt, skipSpace_cons (by decide)]
  simp only [Nat.add_eq_zero_iff, Nat.one_ne_zero, and_false, if_false, skipSpace_cons solid,
    Nat.add_sub_cancel]
  split
  · next same => exact absurd (List.cons.inj same).1 item
  · rfl

theorem valueAt_object {c : Char} (solid : isSpace c = false) (field : c ≠ '\x7d') (fuel depth : Nat)
    (cs : List Char) :
    valueAt (fuel + 1) (depth + 1) ('\x7b' :: c :: cs) =
      (.record (fieldsAt fuel depth (c :: cs)).1, (fieldsAt fuel depth (c :: cs)).2) := by
  rw [valueAt, skipSpace_cons (by decide)]
  simp only [Nat.add_eq_zero_iff, Nat.one_ne_zero, and_false, if_false, skipSpace_cons solid,
    Nat.add_sub_cancel]
  split
  · next same => exact absurd (List.cons.inj same).1 field
  · rfl

/-- The text of the tree is read as its datum wherever it stands, down to a depth. -/
def ReadAt (depth : Nat) (t : Tree) : Prop :=
  ∀ fuel rest, 3 * (compactChars t).length ≤ fuel → Ends rest →
    valueAt fuel depth (compactChars t ++ rest) = (t.datum, some rest)

theorem itemsAt_compact {depth : Nat} (t : Tree) (ts : List Tree)
    (each : ∀ u ∈ t :: ts, ReadAt depth u) (rest : List Char) (fuel : Nat)
    (enough : 3 * (compactItems (t :: ts)).length + 1 ≤ fuel) :
    itemsAt fuel depth (compactItems (t :: ts) ++ ']' :: rest) =
      (itemData (t :: ts), some rest) := by
  induction ts generalizing t fuel with
  | nil =>
      obtain ⟨fuel, rfl⟩ : ∃ f, fuel = f + 1 := ⟨fuel - 1, by omega⟩
      have item := each t (List.mem_cons_self ..) fuel (']' :: rest) (by simpa [compactItems] using enough)
        (.before (by simp) rest)
      simp only [compactItems, itemsAt, item]
      rw [skipSpace_cons (by decide)]
      rfl
  | cons t' ts ih =>
      obtain ⟨fuel, rfl⟩ : ∃ f, fuel = f + 1 := ⟨fuel - 1, by omega⟩
      rw [compactItems_cons_cons] at enough ⊢
      simp only [List.length_append, List.length_cons] at enough
      have item := each t (List.mem_cons_self ..) fuel (',' :: (compactItems (t' :: ts) ++ ']' :: rest))
        (by omega) (.before (by simp) _)
      have others := ih t' (fun u mem => each u (List.mem_cons_of_mem _ mem)) fuel (by omega)
      rw [List.append_assoc, List.cons_append]
      simp only [itemsAt, item]
      rw [skipSpace_cons (by decide)]
      simp only [others]
      rfl

/-- A field is read up to what stands behind its value. -/
theorem fieldAt_compact {depth : Nat} {f : String × Tree} (value : ReadAt depth f.2)
    {rest : List Char} (ends : Ends rest) {fuel : Nat}
    (enough : 3 * (compactField f).length ≤ fuel) :
    ∃ behind, valueAt fuel depth (compactField f ++ rest) = (.text f.1, some behind) ∧
      ∃ text, skipSpace behind = ':' :: text ∧ valueAt fuel depth text = (f.2.datum, some rest) := by
  rcases f with ⟨key, t⟩
  simp only [compactField, List.length_append, List.length_cons] at enough
  refine ⟨':' :: (compactChars t ++ rest), ?_, compactChars t ++ rest, skipSpace_cons (by decide) _, ?_⟩
  · obtain ⟨fuel, rfl⟩ : ∃ f, fuel = f + 1 := ⟨fuel - 1, by omega⟩
    rw [compactField, List.append_assoc, List.cons_append]
    exact valueAt_string fuel depth key _
  · have shorter : 3 * (compactChars t).length ≤ fuel := by omega
    exact value fuel rest shorter ends

theorem fieldsAt_compact {depth : Nat} (f : String × Tree) (fs : List (String × Tree))
    (each : ∀ g ∈ f :: fs, ReadAt depth g.2) (rest : List Char) (fuel : Nat)
    (enough : 3 * (compactFields (f :: fs)).length + 1 ≤ fuel) :
    fieldsAt fuel depth (compactFields (f :: fs) ++ '\x7d' :: rest) =
      (fieldData (f :: fs), some rest) := by
  induction fs generalizing f fuel with
  | nil =>
      obtain ⟨fuel, rfl⟩ : ∃ f, fuel = f + 1 := ⟨fuel - 1, by omega⟩
      have last : Ends ('\x7d' :: rest) := .before (by simp) rest
      rcases fieldAt_compact (each f (List.mem_cons_self ..)) last
        (by simpa [compactFields] using enough) with ⟨behind, key, text, colon, datum⟩
      simp only [compactFields, fieldsAt, key, colon, datum]
      rw [skipSpace_cons (by decide), fieldData_eq, List.map_singleton, fieldDatum_eq]
      rfl
  | cons f' fs ih =>
      obtain ⟨fuel, rfl⟩ : ∃ f, fuel = f + 1 := ⟨fuel - 1, by omega⟩
      rw [compactFields_cons_cons] at enough ⊢
      simp only [List.length_append, List.length_cons] at enough
      have more : Ends (',' :: (compactFields (f' :: fs) ++ '\x7d' :: rest)) := .before (by simp) _
      have enoughFirst : 3 * (compactField f).length ≤ fuel := by omega
      rcases fieldAt_compact (each f (List.mem_cons_self ..)) more enoughFirst with
        ⟨behind, key, text, colon, datum⟩
      have others := ih f' (fun g mem => each g (List.mem_cons_of_mem _ mem)) fuel (by omega)
      rw [List.append_assoc, List.cons_append]
      simp only [fieldsAt, key, colon, datum]
      rw [skipSpace_cons (by decide), fieldData_eq, List.map_cons, fieldDatum_eq]
      simp only [others, fieldData_eq]

theorem exists_fuel {n fuel : Nat} {t : Tree} (readable : Readable n t)
    (enough : 3 * (compactChars t).length ≤ fuel) : ∃ f, fuel = f + 1 := by
  rcases compactChars_head readable with ⟨c, cs, text, _⟩
  rw [text, List.length_cons] at enough
  exact ⟨fuel - 1, by omega⟩

theorem readAt_number {x : Binary64} (back : ReadsBack x) (depth : Nat) : ReadAt depth (number x) := by
  intro fuel rest enough ends
  have readable : Readable 0 (number x) := .number back
  obtain ⟨fuel, rfl⟩ := exists_fuel readable enough
  rcases compactChars_head readable with ⟨c, cs, text, _, _⟩
  have numeric := Numeric.write back.finite NumberStyle.json
  have read := readNumber_append ends back.read
  change (NumberStyle.json.write x).toList = c :: cs at text
  change valueAt (fuel + 1) depth ((NumberStyle.json.write x).toList ++ rest) = _
  rw [text] at numeric read ⊢
  rw [List.cons_append] at read ⊢
  rw [valueAt_number (numeric c (List.mem_cons_self ..)), read]
  rfl

theorem readAt_array {n depth : Nat} {items : List Tree} (readable : ∀ t ∈ items, Readable n t)
    (each : ∀ t ∈ items, ReadAt depth t) : ReadAt (depth + 1) (array items) := by
  intro fuel rest enough _
  obtain ⟨fuel, rfl⟩ := exists_fuel (.array readable) enough
  cases items with
  | nil => rfl
  | cons u us =>
      have length : (compactChars (array (u :: us))).length = (compactItems (u :: us)).length + 2 := by
        simp [compactChars]
      have text : compactChars (array (u :: us)) ++ rest =
          '[' :: (compactItems (u :: us) ++ ']' :: rest) := by
        simp [compactChars]
      have read := itemsAt_compact u us each rest fuel (by omega)
      rcases compactItems_head u us (readable u (List.mem_cons_self ..)) with
        ⟨c, cs, head, solid, item⟩
      rw [head] at read text
      rw [text, List.cons_append, valueAt_array solid item, ← List.cons_append, read]
      rfl

theorem readAt_object {n depth : Nat} {fields : List (String × Tree)}
    (readable : ∀ f ∈ fields, Readable n f.2) (each : ∀ f ∈ fields, ReadAt depth f.2) :
    ReadAt (depth + 1) (object fields) := by
  intro fuel rest enough _
  obtain ⟨fuel, rfl⟩ := exists_fuel (.object readable) enough
  cases fields with
  | nil => rfl
  | cons f fs =>
      have length : (compactChars (object (f :: fs))).length =
          (compactFields (f :: fs)).length + 2 := by
        simp [compactChars]
      have text : compactChars (object (f :: fs)) ++ rest =
          '\x7b' :: (compactFields (f :: fs) ++ '\x7d' :: rest) := by
        simp [compactChars]
      have read := fieldsAt_compact f fs each rest fuel (by omega)
      rcases compactFields_head f fs with ⟨cs, head⟩
      rw [head] at read text
      rw [text, List.cons_append, valueAt_object (by decide) (by decide), ← List.cons_append, read]
      rfl

theorem readAt_of_readable {n : Nat} {t : Tree} (readable : Readable n t) :
    ∀ depth, n ≤ depth → ReadAt depth t := by
  induction readable with
  | @bool n b =>
      intro depth _ fuel rest enough _
      obtain ⟨fuel, rfl⟩ := exists_fuel (.bool b : Readable n _) enough
      cases b with
      | true => rfl
      | false => rfl
  | number back => exact fun depth _ => readAt_number back depth
  | @string n s =>
      intro depth _ fuel rest enough _
      obtain ⟨fuel, rfl⟩ := exists_fuel (.string s : Readable n _) enough
      exact valueAt_string fuel depth s rest
  | array readable ih =>
      intro depth deep
      obtain ⟨depth, rfl⟩ : ∃ d, depth = d + 1 := ⟨depth - 1, by omega⟩
      exact readAt_array readable fun t mem => ih t mem depth (Nat.le_of_succ_le_succ deep)
  | object readable ih =>
      intro depth deep
      obtain ⟨depth, rfl⟩ : ∃ d, depth = d + 1 := ⟨depth - 1, by omega⟩
      exact readAt_object readable fun f mem => ih f mem depth (Nat.le_of_succ_le_succ deep)

/-- A whole text is decoded by what the tree says. -/
theorem decode_compact {α : Type} (ofDatum : Datum → Except DecodeError α) {n : Nat} {t : Tree}
    (readable : Readable n t) (deep : n ≤ depthLimit) : decode ofDatum t.compact = ofDatum t.datum := by
  have read := readAt_of_readable readable depthLimit deep (3 * (compactChars t).length + 3) []
    (by omega) .nothing
  rw [List.append_nil] at read
  rw [decode, compact, String.toList_ofList, readValue, read]
  cases decoded : ofDatum t.datum with
  | ok a =>
      simp only [decoded]
      rfl
  | error e =>
      simp only [decoded]
      rfl

end Json
end CiPipeline
