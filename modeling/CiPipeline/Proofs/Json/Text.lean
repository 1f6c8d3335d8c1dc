import CiPipeline.Json.Reader
import CiPipeline.Json.Writer
import CiPipeline.Proofs.Number.Spelling

/-!
# Text — JSON texts that determine their trees

A written tree can be told from every other one, also when more text follows it: the first character
tells its kind, a string ends at its closing quote, a number where its characters end, and a list or
a record where no comma follows an item.

* `Json.readString_escaped`: a written string is read back;
* `Json.Tree.Plain`: the trees whose texts are looked at;
* `Json.Determined`: a text that tells what was written, and what follows it;
* `Json.separated_determined`: lists of such texts, one on each line;
* `Json.Tree.pretty_injective`: different trees have different texts.
-/

namespace CiPipeline
namespace Json

/-! ## Strings -/

theorem hexValue_digitChar {d : Nat} (digit : d < 16) : hexValue (Nat.digitChar d) = some d := by
  have all : ∀ d < 16, hexValue (Nat.digitChar d) = some d := by decide
  exact all d digit

theorem codeUnit_hexPair {n : Nat} (small : n < 0x20) :
    codeUnit '0' '0' (Nat.digitChar (n / 16)) (Nat.digitChar (n % 16)) = some n := by
  have high : hexValue (Nat.digitChar (n / 16)) = some (n / 16) := hexValue_digitChar (by omega)
  have low : hexValue (Nat.digitChar (n % 16)) = some (n % 16) := hexValue_digitChar (by omega)
  have zero : hexValue '0' = some 0 := by decide
  have value : ((0 * 16 + 0) * 16 + n / 16) * 16 + n % 16 = n := by omega
  simp only [codeUnit, zero, high, low, Option.bind_eq_bind, Option.bind_some, value]

/-- A character may be written as one of three kinds of texts. -/
theorem escapeChar_cases (c : Char) :
    (∃ letter, escapeChar c = ['\\', letter] ∧ simpleEscape letter = some c) ∨
      (c.toNat < 0x20 ∧ escapeChar c = ['\\', 'u', '0', '0'] ++ hexPair c.toNat) ∨
      (c ≠ '"' ∧ c ≠ '\\' ∧ ¬ c.toNat < 0x20 ∧ escapeChar c = [c]) := by
  unfold escapeChar
  split_ifs with quote backslash backspace feed line carriage tab small
  · exact .inl ⟨'"', rfl, by rw [quote]; rfl⟩
  · exact .inl ⟨'\\', rfl, by rw [backslash]; rfl⟩
  · exact .inl ⟨'b', rfl, by rw [backspace]; rfl⟩
  · exact .inl ⟨'f', rfl, by rw [feed]; rfl⟩
  · exact .inl ⟨'n', rfl, by rw [line]; rfl⟩
  · exact .inl ⟨'r', rfl, by rw [carriage]; rfl⟩
  · exact .inl ⟨'t', rfl, by rw [tab]; rfl⟩
  · exact .inr (.inl ⟨small, rfl⟩)
  · exact .inr (.inr ⟨quote, backslash, small, rfl⟩)

theorem readString_letter {letter c : Char} (escape : simpleEscape letter = some c)
    (rest : List Char) : readString ('\\' :: letter :: rest) = consChar c (readString rest) := by
  have noCode : letter ≠ 'u' := by
    rintro rfl
    cases escape
  rw [readString.eq_def]
  split
  · next same => simp at same
  · next same => exact absurd (List.cons.inj (List.cons.inj same).2).1 noCode
  · next same => exact absurd (List.cons.inj (List.cons.inj same).2).1 noCode
  · next same =>
      cases same
      rw [escape]
  · next other same =>
      cases same
      exact absurd rfl (other letter rest rfl)
  · next same => cases same

/-- A character that is written by its code stands for itself, whatever follows. -/
theorem readString_codeUnit {a b c d : Char} {unit : Nat} (code : codeUnit a b c d = some unit)
    (leading : isLeading unit = false) (trailing : isTrailing unit = false) (rest : List Char) :
    readString ('\\' :: 'u' :: a :: b :: c :: d :: rest) =
      consChar (Char.ofNat unit) (readString rest) := by
  rw [readString.eq_def]
  split
  · next same => simp at same
  · next e f g h _ same =>
      -- A second code follows, but the first one is none that needs it.
      cases same
      rw [code]
      cases codeUnit e f g h with
      | none => simp [leading, trailing]
      | some low => simp [leading, trailing]
  · next same =>
      cases same
      rw [code]
      simp [leading, trailing]
  · next other same =>
      cases same
      exact absurd rfl (other a b c d rest rfl)
  · next other same =>
      cases same
      exact absurd rfl (other 'u' _ rfl)
  · next same => cases same

theorem readString_escapeChar (c : Char) (rest : List Char) :
    readString (escapeChar c ++ rest) = consChar c (readString rest) := by
  rcases escapeChar_cases c with
    ⟨letter, written, escape⟩ | ⟨small, written⟩ | ⟨_, backslash, large, written⟩
  · rw [written]
    exact readString_letter escape rest
  · have leading : isLeading c.toNat = false := by
      simp only [isLeading, Bool.and_eq_false_iff, decide_eq_false_iff_not]
      omega
    have trailing : isTrailing c.toNat = false := by
      simp only [isTrailing, Bool.and_eq_false_iff, decide_eq_false_iff_not]
      omega
    have read := readString_codeUnit (codeUnit_hexPair small) leading trailing rest
    rw [Char.ofNat_toNat] at read
    rw [written]
    exact read
  · rw [written, List.singleton_append, readString.eq_def]
    simp [backslash, large]

theorem readString_escaped (cs rest : List Char) :
    readString (cs.flatMap escapeChar ++ '"' :: rest) = some (cs, rest) := by
  induction cs with
  | nil => rfl
  | cons c cs ih =>
      rw [List.flatMap_cons, List.append_assoc, readString_escapeChar, ih]
      rfl

theorem writeString_append (s : String) (rest : List Char) :
    writeString s ++ rest = '"' :: (s.toList.flatMap escapeChar ++ '"' :: rest) := by
  simp [writeString]

/-- A written string tells the string and the text behind it. -/
theorem writeString_determined {s s' : String} {rest rest' : List Char}
    (same : writeString s ++ rest = writeString s' ++ rest') : s = s' ∧ rest = rest' := by
  rw [writeString_append, writeString_append, List.cons.injEq] at same
  have read := readString_escaped s.toList rest
  rw [same.2, readString_escaped, Option.some.injEq, Prod.mk.injEq] at read
  exact ⟨String.toList_inj.1 read.1.symm, read.2.symm⟩

/-! ## Numbers -/

/-- The characters of numbers. -/
def isNumeric (c : Char) : Bool :=
  Numeral.isDigit c || c == '.' || c == 'e' || c == '+' || c == '-'

/-- All characters of the text are characters of numbers. -/
def Numeric (cs : List Char) : Prop := ∀ c ∈ cs, isNumeric c = true

namespace Numeric

theorem append {cs ds : List Char} (front : Numeric cs) (back : Numeric ds) :
    Numeric (cs ++ ds) := by
  intro c mem
  rcases List.mem_append.1 mem with inside | inside
  · exact front c inside
  · exact back c inside

theorem cons {c : Char} {cs : List Char} (first : isNumeric c = true) (rest : Numeric cs) :
    Numeric (c :: cs) := List.forall_mem_cons.2 ⟨first, rest⟩

theorem of_all {cs : List Char} (all : cs.all isNumeric = true) : Numeric cs :=
  List.all_eq_true.1 all

theorem of_digits {cs : List Char} (digits : ∀ c ∈ cs, Numeral.isDigit c = true) : Numeric cs := by
  intro c mem
  simp [isNumeric, digits c mem]

theorem zeros (count : Nat) : Numeric (List.replicate count '0') := by
  intro c mem
  rw [List.eq_of_mem_replicate mem]
  rfl

theorem digitsOf (n : Nat) : Numeric (NumberStyle.digitsOf n) :=
  of_digits fun _ mem => Numeral.isDigit_of_mem_toDigits mem

theorem layPositional {digits : List Char} (all : Numeric digits) (style : NumberStyle)
    (before : Int) : Numeric (style.layPositional digits before) := by
  have point : Numeric "0.".toList := of_all rfl
  have whole : Numeric ".0".toList := of_all rfl
  unfold NumberStyle.layPositional
  split
  · exact (point.append (zeros _)).append all
  · simp only
    split
    · refine (all.append (zeros _)).append ?_
      split
      · exact whole
      · exact List.forall_mem_nil _
    · have front : Numeric (digits.take before.toNat) :=
        fun c mem => all c (List.mem_of_mem_take mem)
      have back : Numeric (digits.drop before.toNat) :=
        fun c mem => all c (List.mem_of_mem_drop mem)
      exact front.append (back.cons rfl)

theorem layScientific {digits : List Char} (all : Numeric digits) (style : NumberStyle)
    (power : Int) : Numeric (style.layScientific digits power) := by
  have sign : Numeric (if power < 0 then ['-'] else if style.exponentPlus then ['+'] else []) := by
    split_ifs <;> exact of_all rfl
  have marked : Numeric ('e' :: (if power < 0 then ['-'] else if style.exponentPlus then ['+']
      else [])) := sign.cons rfl
  unfold NumberStyle.layScientific
  refine Numeric.append (Numeric.append ?_ marked) (digitsOf power.natAbs)
  cases digits with
  | nil => exact all
  | cons d ds =>
      cases ds with
      | nil => exact all
      | cons d' ds =>
          have first := all d (List.mem_cons_self ..)
          have others : Numeric (d' :: ds) := fun c mem => all c (List.mem_cons_of_mem d mem)
          exact (others.cons rfl).cons first

theorem writeMagnitude (style : NumberStyle) (x : Binary64) :
    Numeric (style.writeMagnitude x) := by
  unfold NumberStyle.writeMagnitude
  split
  · have zero : Numeric ['0'] := zeros 1
    exact zero.layPositional style 1
  · unfold NumberStyle.layDecimal
    simp only
    split
    · exact (digitsOf _).layPositional style _
    · exact (digitsOf _).layScientific style _

/-- The text of a finite number has no other characters. -/
theorem write {x : Binary64} (finite : x.isFinite = true) (style : NumberStyle) :
    Numeric (style.write x).toList := by
  have sign : Numeric (if x.isNegative then ['-'] else []) := by
    split_ifs <;> exact of_all rfl
  rw [style.write_of_finite finite]
  exact sign.append (writeMagnitude style x)

end Numeric

/-! ## What may follow -/

/-- What may stand behind a written value: nothing, or the comma or line break before the next. -/
inductive Stops : List Char → Prop
  | nothing : Stops []
  | comma (rest : List Char) : Stops (',' :: rest)
  | line (rest : List Char) : Stops ('\n' :: rest)

theorem Stops.takeWhile_isNumeric {rest : List Char} (stops : Stops rest) :
    rest.takeWhile isNumeric = [] := by
  cases stops with
  | nothing => rfl
  | comma => rfl
  | line => rfl

theorem Numeric.determined {cs cs' rest rest' : List Char} (numeric : Numeric cs)
    (numeric' : Numeric cs') (stops : Stops rest) (stops' : Stops rest')
    (same : cs ++ rest = cs' ++ rest') : cs = cs' ∧ rest = rest' := by
  have taken := congrArg (List.takeWhile isNumeric) same
  rw [List.takeWhile_append_of_pos numeric, List.takeWhile_append_of_pos numeric',
    stops.takeWhile_isNumeric, stops'.takeWhile_isNumeric, List.append_nil, List.append_nil]
    at taken
  subst taken
  exact ⟨rfl, List.append_cancel_left same⟩

/-- The text of `a` tells that it is `a`, of all that are allowed, and what stands behind it. -/
def Determined {α : Type} (write : α → List Char) (allowed : α → Prop) (a : α) : Prop :=
  ∀ a' rest rest', allowed a' → Stops rest → Stops rest' →
    write a ++ rest = write a' ++ rest' → a = a' ∧ rest = rest'

/-! ## One on each line -/

/-- Texts on lines of their own, with commas between them. -/
def separated (level : Nat) : List (List Char) → List Char
  | [] => []
  | [text] => Tree.newLine level ++ text
  | text :: texts => Tree.newLine level ++ text ++ ',' :: separated level texts

/-- What stands behind one of the texts: nothing, or the other texts behind a comma. -/
def behind (level : Nat) : List (List Char) → List Char
  | [] => []
  | texts => ',' :: separated level texts

theorem separated_cons (level : Nat) (text : List Char) (texts : List (List Char)) :
    separated level (text :: texts) = Tree.newLine level ++ (text ++ behind level texts) := by
  cases texts with
  | nil => simp [separated, behind]
  | cons text' texts => simp [separated, behind]

theorem stops_behind (level : Nat) (texts : List (List Char)) (rest : List Char) :
    Stops (behind level texts ++ '\n' :: rest) := by
  cases texts with
  | nil => exact .line rest
  | cons text texts => exact .comma _

theorem first_determined {α : Type} {write : α → List Char} {allowed : α → Prop} {level : Nat}
    {a a' : α} {as as' : List α} {rest rest' : List Char}
    (each : ∀ b ∈ a :: as, Determined write allowed b) (allowed' : ∀ b ∈ a' :: as', allowed b)
    (same : separated level ((a :: as).map write) ++ '\n' :: rest =
      separated level ((a' :: as').map write) ++ '\n' :: rest') :
    a = a' ∧ behind level (as.map write) ++ '\n' :: rest =
      behind level (as'.map write) ++ '\n' :: rest' := by
  rw [List.map_cons, List.map_cons, separated_cons, separated_cons, List.append_assoc,
    List.append_assoc, List.append_assoc, List.append_assoc] at same
  have text := List.append_cancel_left same
  exact each a (List.mem_cons_self ..) a' _ _ (allowed' a' (List.mem_cons_self ..))
    (stops_behind ..) (stops_behind ..) text

/-- Behind the last of the texts stands a line break, behind the others a comma. -/
theorem separated_determined {α : Type} {write : α → List Char} {allowed : α → Prop} {level : Nat}
    {a a' : α} {as as' : List α} {rest rest' : List Char}
    (each : ∀ b ∈ a :: as, Determined write allowed b) (allowed' : ∀ b ∈ a' :: as', allowed b)
    (same : separated level ((a :: as).map write) ++ '\n' :: rest =
      separated level ((a' :: as').map write) ++ '\n' :: rest') :
    a :: as = a' :: as' ∧ rest = rest' := by
  induction as generalizing a a' as' with
  | nil =>
      rcases first_determined each allowed' same with ⟨first, others⟩
      cases as' with
      | nil => exact ⟨by rw [first], (List.cons.inj others).2⟩
      | cons b' bs' => exact absurd (List.cons.inj others).1 (by decide)
  | cons b bs ih =>
      rcases first_determined each allowed' same with ⟨first, others⟩
      cases as' with
      | nil => exact absurd (List.cons.inj others).1 (by decide)
      | cons b' bs' =>
          have each' : ∀ c ∈ b :: bs, Determined write allowed c :=
            fun c mem => each c (List.mem_cons_of_mem a mem)
          have allowed'' : ∀ c ∈ b' :: bs', allowed c :=
            fun c mem => allowed' c (List.mem_cons_of_mem a' mem)
          rcases ih each' allowed'' (List.cons.inj others).2 with ⟨tails, rests⟩
          exact ⟨by rw [first, tails], rests⟩

/-- The texts between brackets; brackets around nothing stand on one line. -/
def enclosed (first last : Char) (level : Nat) : List (List Char) → List Char
  | [] => [first, last]
  | texts => first :: separated (level + 1) texts ++ Tree.newLine level ++ [last]

/-- Behind the bracket stands a line break, if anything is in the brackets. -/
theorem enclosed_cons (first last : Char) (level : Nat) (text : List Char)
    (texts : List (List Char)) (rest : List Char) :
    enclosed first last level (text :: texts) ++ rest =
      first :: (separated (level + 1) (text :: texts) ++
        '\n' :: (List.replicate (2 * level) ' ' ++ last :: rest)) := by
  simp [enclosed, Tree.newLine]

theorem enclosed_cons_ne {first last : Char} (bracket : last ≠ '\n') {level : Nat}
    {text : List Char} {texts : List (List Char)} {rest rest' : List Char} :
    enclosed first last level (text :: texts) ++ rest ≠
      enclosed first last level [] ++ rest' := by
  intro same
  rw [enclosed_cons, separated_cons] at same
  have second := (List.cons.inj (List.cons.inj same).2).1
  exact bracket second.symm

theorem enclosed_determined {α : Type} {write : α → List Char} {allowed : α → Prop}
    {first last : Char} (bracket : last ≠ '\n') {level : Nat} {as as' : List α}
    {rest rest' : List Char} (each : ∀ b ∈ as, Determined write allowed b)
    (allowed' : ∀ b ∈ as', allowed b)
    (same : enclosed first last level (as.map write) ++ rest =
      enclosed first last level (as'.map write) ++ rest') :
    as = as' ∧ rest = rest' := by
  cases as with
  | nil =>
      cases as' with
      | nil => exact ⟨rfl, List.append_cancel_left same⟩
      | cons a' as' => exact absurd same.symm (enclosed_cons_ne bracket)
  | cons a as =>
      cases as' with
      | nil => exact absurd same (enclosed_cons_ne bracket)
      | cons a' as' =>
          rw [List.map_cons, List.map_cons, enclosed_cons, enclosed_cons] at same
          rcases separated_determined each allowed' (List.cons.inj same).2 with ⟨lists, behinds⟩
          have brackets := List.append_cancel_left behinds
          exact ⟨lists, (List.cons.inj brackets).2⟩

/-! ## Trees -/

namespace Tree

/-- The trees without nulls and integers, and with finite numbers only. -/
inductive Plain : Tree → Prop
  | bool (b : Bool) : Plain (bool b)
  | number {x : Binary64} (finite : x.isFinite = true) : Plain (number x)
  | string (s : String) : Plain (string s)
  | array {items : List Tree} (each : ∀ t ∈ items, Plain t) : Plain (array items)
  | object {fields : List (String × Tree)} (each : ∀ f ∈ fields, Plain f.2) : Plain (object fields)

/-- The kinds of trees that the first character of a text tells apart. -/
inductive Kind where
  | null
  | bool (b : Bool)
  | number
  | string
  | array
  | object
deriving DecidableEq

def kind : Tree → Kind
  | null => .null
  | bool b => .bool b
  | int _ => .number
  | number _ => .number
  | string _ => .string
  | array _ => .array
  | object _ => .object

def kindOf (c : Char) : Kind :=
  if c = 'n' then .null
  else if c = 't' then .bool true
  else if c = 'f' then .bool false
  else if c = '"' then .string
  else if c = '[' then .array
  else if c = '\x7b' then .object
  else .number

theorem kindOf_numeric {c : Char} (numeric : isNumeric c = true) : kindOf c = .number := by
  have other : ∀ d ∈ ['n', 't', 'f', '"', '[', '\x7b'], isNumeric d = false := by
    simp [isNumeric, Numeral.isDigit]
  have differs : ∀ d ∈ ['n', 't', 'f', '"', '[', '\x7b'], c ≠ d := by
    intro d mem same
    rw [same, other d mem] at numeric
    cases numeric
  simp [kindOf, differs]

theorem prettyChars_kind {t : Tree} (plain : t.Plain) (level : Nat) :
    ∃ c cs, prettyChars level t = c :: cs ∧ kindOf c = t.kind := by
  cases plain with
  | bool b =>
      cases b with
      | true => exact ⟨'t', "rue".toList, rfl, rfl⟩
      | false => exact ⟨'f', "alse".toList, rfl, rfl⟩
  | @number x finite =>
      have numeric := Numeric.write finite NumberStyle.json
      cases text : (NumberStyle.json.write x).toList with
      | nil =>
          rcases NumberStyle.json.read_write finite with ⟨n, read, _⟩
          rw [text] at read
          cases read
      | cons c cs =>
          rw [text] at numeric
          exact ⟨c, cs, text, kindOf_numeric (numeric c (List.mem_cons_self ..))⟩
  | string s => exact ⟨'"', _, rfl, rfl⟩
  | @array items each =>
      cases items with
      | nil => exact ⟨'[', _, rfl, rfl⟩
      | cons t ts => exact ⟨'[', _, rfl, rfl⟩
  | @object fields each =>
      cases fields with
      | nil => exact ⟨'\x7b', _, rfl, rfl⟩
      | cons f fs => exact ⟨'\x7b', _, rfl, rfl⟩

/-- The beginning of a text tells the kind of the tree. -/
theorem kind_eq {t t' : Tree} (plain : t.Plain) (plain' : t'.Plain) {level : Nat}
    {rest rest' : List Char} (same : prettyChars level t ++ rest = prettyChars level t' ++ rest') :
    t.kind = t'.kind := by
  rcases prettyChars_kind plain level with ⟨c, cs, text, kind⟩
  rcases prettyChars_kind plain' level with ⟨c', cs', text', kind'⟩
  rw [text, text', List.cons_append, List.cons_append] at same
  rw [← kind, ← kind', (List.cons.inj same).1]

theorem prettyItems_eq (level : Nat) (items : List Tree) :
    prettyItems level items = separated level (items.map (prettyChars level)) := by
  induction items with
  | nil => rfl
  | cons t ts ih =>
      cases ts with
      | nil => rfl
      | cons t' ts =>
          rw [prettyItems, ih]
          · rfl
          · simp

theorem prettyFields_eq (level : Nat) (fields : List (String × Tree)) :
    prettyFields level fields = separated level (fields.map (prettyField level)) := by
  induction fields with
  | nil => rfl
  | cons f fs ih =>
      cases fs with
      | nil => rfl
      | cons f' fs =>
          rw [prettyFields, ih]
          · rfl
          · simp

theorem prettyChars_array (level : Nat) (items : List Tree) :
    prettyChars level (array items) =
      enclosed '[' ']' level (items.map (prettyChars (level + 1))) := by
  cases items with
  | nil => rfl
  | cons t ts =>
      rw [prettyChars, prettyItems_eq]
      rfl

theorem prettyChars_object (level : Nat) (fields : List (String × Tree)) :
    prettyChars level (object fields) =
      enclosed '\x7b' '\x7d' level (fields.map (prettyField (level + 1))) := by
  cases fields with
  | nil => rfl
  | cons f fs =>
      rw [prettyChars, prettyFields_eq]
      rfl

theorem prettyField_determined {f : String × Tree} {level : Nat}
    (value : Determined (prettyChars level) Plain f.2) :
    Determined (prettyField level) (fun f => f.2.Plain) f := by
  rcases f with ⟨key, t⟩
  rintro ⟨key', t'⟩ rest rest' plain' stops stops' same
  rw [prettyField, prettyField, List.append_assoc, List.append_assoc] at same
  rcases writeString_determined same with ⟨keys, text⟩
  have texts : prettyChars level t ++ rest = prettyChars level t' ++ rest' :=
    (List.cons.inj (List.cons.inj text).2).2
  rcases value t' rest rest' plain' stops stops' texts with ⟨values, rests⟩
  exact ⟨Prod.ext keys values, rests⟩

/-- The text of a plain tree tells the tree, of all plain trees. -/
theorem prettyChars_determined {t : Tree} (plain : t.Plain) :
    ∀ level, Determined (prettyChars level) Plain t := by
  induction plain with
  | bool b =>
      intro level t' rest rest' plain' stops stops' same
      have kinds := kind_eq (.bool b) plain' same
      cases plain' with
      | bool b' =>
          cases kinds
          exact ⟨rfl, List.append_cancel_left same⟩
      | number => cases kinds
      | string => cases kinds
      | array => cases kinds
      | object => cases kinds
  | number finite =>
      intro level t' rest rest' plain' stops stops' same
      have kinds := kind_eq (.number finite) plain' same
      cases plain' with
      | number finite' =>
          rcases (Numeric.write finite NumberStyle.json).determined
            (Numeric.write finite' NumberStyle.json) stops stops' same with ⟨text, rests⟩
          have numbers := NumberStyle.write_injective _ finite finite' (String.toList_inj.1 text)
          exact ⟨by rw [numbers], rests⟩
      | bool => cases kinds
      | string => cases kinds
      | array => cases kinds
      | object => cases kinds
  | string s =>
      intro level t' rest rest' plain' stops stops' same
      have kinds := kind_eq (.string s) plain' same
      cases plain' with
      | string s' =>
          rcases writeString_determined same with ⟨strings, rests⟩
          exact ⟨by rw [strings], rests⟩
      | bool => cases kinds
      | number => cases kinds
      | array => cases kinds
      | object => cases kinds
  | @array items each ih =>
      intro level t' rest rest' plain' stops stops' same
      have kinds := kind_eq (.array each) plain' same
      cases plain' with
      | @array items' each' =>
          rw [prettyChars_array, prettyChars_array] at same
          have texts := fun u mem => ih u mem (level + 1)
          rcases enclosed_determined (by decide) texts each' same with ⟨lists, rests⟩
          exact ⟨by rw [lists], rests⟩
      | bool => cases kinds
      | number => cases kinds
      | string => cases kinds
      | object => cases kinds
  | @object fields each ih =>
      intro level t' rest rest' plain' stops stops' same
      have kinds := kind_eq (.object each) plain' same
      cases plain' with
      | @object fields' each' =>
          rw [prettyChars_object, prettyChars_object] at same
          have texts := fun f mem => prettyField_determined (ih f mem (level + 1))
          rcases enclosed_determined (by decide) texts each' same with ⟨lists, rests⟩
          exact ⟨by rw [lists], rests⟩
      | bool => cases kinds
      | number => cases kinds
      | string => cases kinds
      | array => cases kinds

theorem pretty_injective {t t' : Tree} (plain : t.Plain) (plain' : t'.Plain)
    (same : t.pretty = t'.pretty) : t = t' := by
  have text : prettyChars 0 t = prettyChars 0 t' := by
    have chars := congrArg String.toList same
    rwa [pretty, pretty, String.toList_ofList, String.toList_ofList] at chars
  have both : prettyChars 0 t ++ [] = prettyChars 0 t' ++ [] := by rw [text]
  exact (prettyChars_determined plain 0 t' [] [] plain' .nothing .nothing both).1

end Tree
end Json
end CiPipeline
