import CiPipeline.Number.Literal
import CiPipeline.Number.Notation
import CiPipeline.Proofs.Number.Interval

/-!
# Spelling — the text of a number read as a numeral

However a number is laid out, its text is a numeral with the sign of the number and the value of its
shortest decimal.  That value stands for no other number, so different numbers have different texts
in every style.

* `Numeral.exact`: the value of a numeral before it is rounded;
* `Numeral.readUnsigned_spelled`: how a text in parts is read;
* `NumberStyle.spells_layPositional`, `NumberStyle.spells_layScientific`: the two layouts;
* `NumberStyle.read_write`: the text of a number as a numeral;
* `NumberStyle.write_injective`: different numbers have different texts.
-/

namespace CiPipeline

namespace Numeral

/-- The value of the numeral without its sign, not rounded. -/
def exact (n : Numeral) : ℚ := n.digits * 10 ^ n.exponent

/-! ## Digits -/

theorem digitsValue_eq (cs : List Char) : digitsValue cs = Nat.ofDigitChars 10 cs 0 := rfl

theorem digitsValue_append (cs ds : List Char) :
    digitsValue (cs ++ ds) = digitsValue cs * 10 ^ ds.length + digitsValue ds := by
  rw [digitsValue_eq, Nat.ofDigitChars_append, Nat.ofDigitChars_eq_ofDigitChars_zero]
  rw [← digitsValue_eq, ← digitsValue_eq, mul_comm]

theorem digitsValue_zeros (count : Nat) : digitsValue (List.replicate count '0') = 0 := by
  rw [digitsValue_eq, Nat.ofDigitChars_replicate_zero, mul_zero]

theorem isDigit_of_isDigit {c : Char} (digit : c.isDigit = true) : isDigit c = true := by
  simpa [isDigit, Char.isDigit, Char.le_def] using digit

theorem isDigit_of_mem_toDigits {n : Nat} {c : Char} (mem : c ∈ Nat.toDigits 10 n) :
    isDigit c = true :=
  isDigit_of_isDigit (Nat.isDigit_of_mem_toDigits (by norm_num) (by norm_num) mem)

theorem digitsValue_toDigits (n : Nat) : digitsValue (Nat.toDigits 10 n) = n := by
  rw [digitsValue_eq, Nat.ofDigitChars_ten_toDigits]

/-- Digits are read up to the first character that is none. -/
theorem takeWhile_digits {digits rest : List Char} (all : ∀ c ∈ digits, isDigit c = true)
    (stop : rest.takeWhile isDigit = []) : (digits ++ rest).takeWhile isDigit = digits := by
  rw [List.takeWhile_append_of_pos all, stop, List.append_nil]

theorem dropWhile_digits {digits rest : List Char} (all : ∀ c ∈ digits, isDigit c = true)
    (stop : rest.dropWhile isDigit = rest) : (digits ++ rest).dropWhile isDigit = rest := by
  rw [List.dropWhile_append_of_pos all, stop]

/-! ## Parts of a text -/

/-- A fraction behind its point; without digits there is no point. -/
def pointed : List Char → List Char
  | [] => []
  | fraction => '.' :: fraction

/-- What may stand behind the digits: nothing, or a mark and a power. -/
inductive PowerText : List Char → Int → Prop
  | none : PowerText [] 0
  | marked {text : List Char} {power : Int} (read : readPower text = some power) :
      PowerText ('e' :: text) power

theorem pointed_of_ne_nil {fraction : List Char} (nonempty : fraction ≠ []) :
    pointed fraction = '.' :: fraction := by
  cases fraction with
  | nil => exact absurd rfl nonempty
  | cons d ds => rfl

theorem PowerText.stops {rest : List Char} {power : Int} (text : PowerText rest power) :
    rest.takeWhile isDigit = [] ∧ rest.dropWhile isDigit = rest := by
  cases text with
  | none => exact ⟨rfl, rfl⟩
  | marked => exact ⟨rfl, rfl⟩

/-- A text in parts is read as the number of its digits, the point moved by the power. -/
theorem readUnsigned_spelled {whole fraction rest : List Char} {power : Int}
    (digits : ∀ c ∈ whole, isDigit c = true) (nonempty : whole ≠ [])
    (digits' : ∀ c ∈ fraction, isDigit c = true) (text : PowerText rest power) (negative : Bool) :
    readUnsigned negative (whole ++ (pointed fraction ++ rest)) =
      some ⟨negative, digitsValue (whole ++ fraction), power - fraction.length⟩ := by
  rcases text.stops with ⟨taken, dropped⟩
  cases fraction with
  | nil =>
      have front := takeWhile_digits digits taken
      have behind := dropWhile_digits digits dropped
      cases text with
      | none =>
          rw [List.append_nil] at front behind
          simp [readUnsigned, pointed, front, behind, nonempty]
      | marked read => simp [readUnsigned, pointed, front, behind, nonempty, read]
  | cons d ds =>
      -- The digits in front of the point end there, and those behind it at the power.
      have front : ∀ behind : List Char, (whole ++ '.' :: behind).takeWhile isDigit = whole :=
        fun behind => takeWhile_digits digits rfl
      have point : ∀ behind : List Char,
          (whole ++ '.' :: behind).dropWhile isDigit = '.' :: behind :=
        fun behind => dropWhile_digits digits rfl
      have behind := takeWhile_digits digits' taken
      have after := dropWhile_digits digits' dropped
      rw [List.cons_append] at behind after
      cases text with
      | none =>
          rw [List.append_nil] at behind after
          simp [readUnsigned, pointed, front, point, behind, after]
      | marked read => simp [readUnsigned, pointed, front, point, behind, after, read]

/-- A text that can be read without a sign does not begin with one. -/
theorem read_of_readUnsigned {cs : List Char} {n : Numeral}
    (spelled : readUnsigned false cs = some n) : read cs = some n := by
  unfold read
  split
  · next rest =>
      have refused : readUnsigned false ('-' :: rest) = none := rfl
      rw [refused] at spelled
      cases spelled
  · next rest =>
      have refused : readUnsigned false ('+' :: rest) = none := rfl
      rw [refused] at spelled
      cases spelled
  · exact spelled

/-- The text is read with any sign, and then has the value. -/
def Spells (text : List Char) (value : ℚ) : Prop :=
  ∀ negative, ∃ n, readUnsigned negative text = some n ∧ n.negative = negative ∧ n.exact = value

theorem spells_of_parts {whole : List Char} (fraction rest : List Char) {power : Int} {value : ℚ}
    (digits : ∀ c ∈ whole, isDigit c = true) (nonempty : whole ≠ [])
    (digits' : ∀ c ∈ fraction, isDigit c = true) (text : PowerText rest power)
    (worth : digitsValue (whole ++ fraction) * (10 : ℚ) ^ (power - fraction.length) = value) :
    Spells (whole ++ (pointed fraction ++ rest)) value := by
  intro negative
  refine ⟨_, readUnsigned_spelled digits nonempty digits' text negative, rfl, ?_⟩
  exact worth

end Numeral

/-! ## Layouts -/

namespace NumberStyle

open Numeral

variable {digits : List Char}

/-- Zeros fill the places between the digits and the point, or between the point and the digits. -/
theorem spells_layPositional (style : NumberStyle) (all : ∀ c ∈ digits, isDigit c = true)
    (nonempty : digits ≠ []) (before : Int) :
    Spells (layPositional style digits before)
      (digitsValue digits * 10 ^ (before - digits.length)) := by
  have zeros : ∀ count, ∀ c ∈ List.replicate count '0', isDigit c = true := by
    intro count c mem
    rw [List.eq_of_mem_replicate mem]
    rfl
  unfold layPositional
  split
  · next outside =>
      have filled : List.replicate (-before).toNat '0' ++ digits ≠ [] := by simp [nonempty]
      have text : "0.".toList ++ List.replicate (-before).toNat '0' ++ digits =
          ['0'] ++ (pointed (List.replicate (-before).toNat '0' ++ digits) ++ []) := by
        rw [pointed_of_ne_nil filled, List.append_nil, List.append_assoc]
        rfl
      rw [text]
      refine spells_of_parts _ _ (by simp [isDigit]) (by simp) ?_ .none ?_
      · intro c mem
        rcases List.mem_append.1 mem with zero | digit
        · exact zeros _ c zero
        · exact all c digit
      · have value : digitsValue (['0'] ++ (List.replicate (-before).toNat '0' ++ digits)) =
            digitsValue digits := by
          rw [digitsValue_append, digitsValue_append, digitsValue_zeros]
          simp [digitsValue, digitValue]
        have place : (0 : Int) - (List.replicate (-before).toNat '0' ++ digits).length =
            before - digits.length := by
          rw [List.length_append, List.length_replicate]
          omega
        rw [value, place]
  · next inside =>
      simp only
      split
      · next short =>
          have whole : ∀ c ∈ digits ++ List.replicate (before.toNat - digits.length) '0',
              isDigit c = true := by
            intro c mem
            rcases List.mem_append.1 mem with digit | zero
            · exact all c digit
            · exact zeros _ c zero
          have value :
              (digitsValue (digits ++ List.replicate (before.toNat - digits.length) '0') : ℚ) =
                digitsValue digits * 10 ^ (before - digits.length) := by
            have place : before - digits.length = (before.toNat - digits.length : Nat) := by omega
            rw [digitsValue_append, digitsValue_zeros, List.length_replicate, place, zpow_natCast]
            push_cast
            ring
          cases style.pointZero with
          | false =>
              refine spells_of_parts [] [] whole (by simp [nonempty])
                (by simp) .none ?_
              rw [← value]
              simp
          | true =>
              refine spells_of_parts ['0'] [] whole (by simp [nonempty])
                (by simp [isDigit]) .none ?_
              have zero : digitsValue ['0'] = 0 := rfl
              rw [← value, digitsValue_append, zero]
              simp
      · next long =>
          -- The point stands inside the digits.
          have rest : digits.drop before.toNat ≠ [] := by
            intro none
            have length := List.drop_eq_nil_iff.1 none
            omega
          have first : digits.take before.toNat ≠ [] := by
            intro none
            rcases List.take_eq_nil_iff.1 none with zero | empty
            · omega
            · exact nonempty empty
          have text : digits.take before.toNat ++ '.' :: digits.drop before.toNat =
              digits.take before.toNat ++ (pointed (digits.drop before.toNat) ++ []) := by
            rw [pointed_of_ne_nil rest, List.append_nil]
          rw [text]
          refine spells_of_parts _ _ (fun c mem => all c (List.mem_of_mem_take mem)) first
            (fun c mem => all c (List.mem_of_mem_drop mem)) .none ?_
          have place : (0 : Int) - (digits.drop before.toNat).length = before - digits.length := by
            rw [List.length_drop]
            omega
          rw [List.take_append_drop, place]

/-- A power is read with a sign in front of its digits or without one. -/
theorem readPower_digits (n : Nat) :
    readPower (digitsOf n) = some (n : Int) ∧
      readPower ('+' :: digitsOf n) = some (n : Int) ∧
      readPower ('-' :: digitsOf n) = some (-(n : Int)) := by
  have digits : (digitsOf n).all isDigit = true :=
    List.all_eq_true.2 fun c mem => isDigit_of_mem_toDigits mem
  have value : digitsValue (digitsOf n) = n := digitsValue_toDigits n
  have nonempty : digitsOf n ≠ [] := Nat.toDigits_ne_nil
  refine ⟨?_, by simp [readPower, digits, value, nonempty],
    by simp [readPower, digits, value, nonempty]⟩
  cases shape : digitsOf n with
  | nil => exact absurd shape nonempty
  | cons c cs =>
      -- A digit is no sign.
      rw [shape] at digits value
      have first : isDigit c = true := (Bool.and_eq_true_iff.1 digits).1
      have minus : c ≠ '-' := by
        rintro rfl
        exact absurd first (by decide)
      have plus : c ≠ '+' := by
        rintro rfl
        exact absurd first (by decide)
      simp [readPower, minus, plus, digits, value]

theorem readPower_signed (style : NumberStyle) (power : Int) :
    readPower ((if power < 0 then ['-'] else if style.exponentPlus then ['+'] else []) ++
      digitsOf power.natAbs) = some power := by
  rcases readPower_digits power.natAbs with ⟨plain, plus, minus⟩
  by_cases negative : power < 0
  · have magnitude : -((power.natAbs : Nat) : Int) = power := by omega
    rw [if_pos negative, List.singleton_append, minus, magnitude]
  · have magnitude : ((power.natAbs : Nat) : Int) = power := by omega
    rw [if_neg negative]
    cases style.exponentPlus with
    | false =>
        rw [magnitude] at plain
        exact plain
    | true =>
        rw [magnitude] at plus
        exact plus

theorem spells_layScientific (style : NumberStyle) (all : ∀ c ∈ digits, isDigit c = true)
    (nonempty : digits ≠ []) (power : Int) :
    Spells (layScientific style digits power)
      (digitsValue digits * 10 ^ (power + 1 - digits.length)) := by
  cases digits with
  | nil => exact absurd rfl nonempty
  | cons d ds =>
      have text : layScientific style (d :: ds) power = [d] ++ (pointed ds ++ 'e' ::
          ((if power < 0 then ['-'] else if style.exponentPlus then ['+'] else []) ++
            digitsOf power.natAbs)) := by
        cases ds with
        | nil => rfl
        | cons d' ds => simp [layScientific, pointed]
      rw [text]
      have first : ∀ c ∈ [d], isDigit c = true := by
        intro c mem
        rw [List.mem_singleton.1 mem]
        exact all d (List.mem_cons_self ..)
      refine spells_of_parts _ _ first (List.cons_ne_nil d [])
        (fun c mem => all c (List.mem_cons_of_mem d mem))
        (.marked (readPower_signed style power)) ?_
      have place : power - (ds.length : Int) = power + 1 - ((d :: ds).length : Nat) := by
        rw [List.length_cons]
        omega
      rw [List.singleton_append, place]

theorem spells_layDecimal (style : NumberStyle) (d : Decimal) :
    Spells (layDecimal style d) d.value := by
  have all : ∀ c ∈ digitsOf d.digits, isDigit c = true := fun c mem => isDigit_of_mem_toDigits mem
  have nonempty : digitsOf d.digits ≠ [] := Nat.toDigits_ne_nil
  have value : digitsValue (digitsOf d.digits) = d.digits := digitsValue_toDigits d.digits
  have place : d.exponent + (digitsOf d.digits).length - 1 + 1 - (digitsOf d.digits).length =
      d.exponent := by omega
  unfold layDecimal
  simp only
  split
  · have positional := spells_layPositional style all nonempty
      (d.exponent + (digitsOf d.digits).length - 1 + 1)
    rwa [value, place] at positional
  · have scientific := spells_layScientific style all nonempty
      (d.exponent + (digitsOf d.digits).length - 1)
    rwa [value, place] at scientific

/-! ## Numbers -/

/-- The text of a number, without its sign, has a value in the interval of the number. -/
theorem spells_writeMagnitude (style : NumberStyle) (x : Binary64) :
    ∃ q, Spells (writeMagnitude style x) q ∧ x.magnitude.Holds q := by
  unfold writeMagnitude
  by_cases zero : x.isZero = true
  · rw [if_pos zero]
    have digit : ∀ c ∈ ['0'], isDigit c = true := by simp [isDigit]
    have spelled := spells_layPositional style digit (List.cons_ne_nil '0' []) 1
    have bits : x.absBits = 0 := of_decide_eq_true zero
    have value : digitsValue ['0'] = 0 := rfl
    refine ⟨_, spelled, ?_⟩
    -- Zero is the lower end of its interval, which belongs to it.
    rw [Binary64.magnitude_eq, bits, Binary64.magnitudeAt_small (by norm_num), value]
    constructor
    · right
      simp [Binary64.Magnitude.low, Binary64.Magnitude.quartersBelow]
    · left
      simp [Binary64.Magnitude.high]
  · rw [if_neg zero]
    have bits : x.absBits ≠ 0 := by
      intro none
      exact zero (decide_eq_true none)
    have positive : 0 < x.magnitude.significand := by
      rw [Binary64.magnitude_eq]
      rcases Binary64.small_or_large x.absBits with small | ⟨k, f, below, same⟩
      · rw [Binary64.magnitudeAt_small small]
        exact Nat.pos_of_ne_zero bits
      · rw [same, Binary64.magnitudeAt_large k below]
        exact Nat.add_pos_left (by norm_num) f
    exact ⟨_, spells_layDecimal style _, Decimal.holds_shortest positive style.tie⟩

theorem write_of_finite (style : NumberStyle) {x : Binary64} (finite : x.isFinite = true) :
    (style.write x).toList = (if x.isNegative then ['-'] else []) ++ style.writeMagnitude x := by
  have bits : x.absBits < Binary64.infinityBits := of_decide_eq_true finite
  have number : ¬ x.isNaN = true := by
    simp only [Binary64.isNaN, decide_eq_true_eq]
    omega
  have bounded : ¬ x.isInfinite = true := by
    simp only [Binary64.isInfinite, decide_eq_true_eq]
    omega
  rw [write, if_neg number, if_neg bounded, String.toList_ofList]

/-- The text of a finite number is a numeral with the sign of the number and a value in its
interval. -/
theorem read_write (style : NumberStyle) {x : Binary64} (finite : x.isFinite = true) :
    ∃ n, Numeral.read (style.write x).toList = some n ∧ n.negative = x.isNegative ∧
      x.magnitude.Holds n.exact := by
  rcases spells_writeMagnitude style x with ⟨q, spelled, held⟩
  rcases spelled x.isNegative with ⟨n, read, sign, value⟩
  refine ⟨n, ?_, sign, value ▸ held⟩
  rw [style.write_of_finite finite]
  cases negative : x.isNegative with
  | true =>
      rw [negative] at read
      exact read
  | false =>
      rw [negative] at read
      exact read_of_readUnsigned read

/-- Different finite numbers have different texts, whatever the style. -/
theorem write_injective (style : NumberStyle) {x y : Binary64} (finite : x.isFinite = true)
    (finite' : y.isFinite = true) (same : style.write x = style.write y) : x = y := by
  rcases style.read_write finite with ⟨n, read, sign, held⟩
  rcases style.read_write finite' with ⟨n', read', sign', held'⟩
  have numeral : n = n' := by
    rw [same, read'] at read
    exact (Option.some.inj read).symm
  subst numeral
  have abs : x.absBits = y.absBits := Binary64.eq_of_holds held held'
  have negative : x.isNegative = y.isNegative := sign.symm.trans sign'
  exact Binary64.eq_of_abs_of_sign abs negative

end NumberStyle
end CiPipeline
