import Mathlib.Algebra.Order.Field.Power
import Mathlib.Algebra.Order.Field.Rat
import Mathlib.Tactic.Linarith
import Mathlib.Tactic.Positivity
import Mathlib.Tactic.Ring
import CiPipeline.Number.Shortest

/-!
# Interval — the decimals that stand for a number

A number stands for an interval of reals, which ends midway to its neighbours.  The interval of a
number ends where that of the next number begins, and their common point belongs to the one with the
even significand.  So no real stands for two numbers, and the shortest decimal of a number, which
lies in its interval, stands for no other.

* `Decimal.value`: a decimal as a rational number;
* `Magnitude.Holds`: the interval of a number;
* `Decimal.readsBack_iff`: the test for decimals decides the interval;
* `Binary64.eq_of_holds`: the intervals of different numbers have no point in common;
* `Decimal.holds_shortest`: the shortest decimal lies in the interval.
-/

namespace CiPipeline

/-! ## Intervals -/

def Decimal.value (d : Decimal) : ℚ := d.digits * 10 ^ d.exponent

namespace Binary64.Magnitude

def value (x : Magnitude) : ℚ := x.significand * 2 ^ x.exponent

/-- The lower end in quarters of the last place.  The gap below a power of two is half as wide. -/
def quartersBelow (x : Magnitude) : Nat :=
  if x.narrowBelow then 4 * x.significand - 1 else 4 * x.significand - 2

def low (x : Magnitude) : ℚ := x.quartersBelow * 2 ^ (x.exponent - 2)

def high (x : Magnitude) : ℚ := (4 * x.significand + 2 : ℕ) * 2 ^ (x.exponent - 2)

/-- The reals that round to the number; the ends are among them if the significand is even. -/
def Holds (x : Magnitude) (q : ℚ) : Prop :=
  (x.low < q ∨ x.significand % 2 = 0 ∧ q = x.low) ∧
    (q < x.high ∨ x.significand % 2 = 0 ∧ q = x.high)

theorem low_lt_high (x : Magnitude) : x.low < x.high := by
  have quarters : x.quartersBelow < 4 * x.significand + 2 := by
    unfold quartersBelow
    split <;> omega
  have place : (0 : ℚ) < 2 ^ (x.exponent - 2) := by positivity
  have ends : (x.quartersBelow : ℚ) < (4 * x.significand + 2 : ℕ) := by exact_mod_cast quarters
  exact mul_lt_mul_of_pos_right ends place

/-- In quarters of the last place, a number is four times its significand. -/
theorem value_eq_quarters (x : Magnitude) :
    x.value = (4 * x.significand : ℕ) * 2 ^ (x.exponent - 2) := by
  have place : (2 : ℚ) ^ x.exponent = 2 ^ (x.exponent - 2) * 4 := by
    calc
      (2 : ℚ) ^ x.exponent = 2 ^ (x.exponent - 2 + 2) := by rw [Int.sub_add_cancel]
      _ = 2 ^ (x.exponent - 2) * 4 := by
        rw [zpow_add₀ (by norm_num)]
        norm_num
  rw [value, place]
  push_cast
  ring

/-- Intervals touch if the quarters of the same last place agree. -/
theorem low_eq_high {x y : Magnitude} (place : y.exponent = x.exponent)
    (quarters : y.quartersBelow = 4 * x.significand + 2) : y.low = x.high := by
  rw [low, high, place, quarters]

/-- They also touch where the last place doubles. -/
theorem low_eq_high_of_double {x y : Magnitude} (place : y.exponent = x.exponent + 1)
    (quarters : y.quartersBelow * 2 = 4 * x.significand + 2) : y.low = x.high := by
  have double : (2 : ℚ) ^ (y.exponent - 2) = 2 * 2 ^ (x.exponent - 2) := by
    rw [place, add_sub_right_comm, zpow_add_one₀ (by norm_num), mul_comm]
  have ends : (y.quartersBelow : ℚ) * 2 = (4 * x.significand + 2 : ℕ) := by exact_mod_cast quarters
  rw [low, high, double, ← ends, mul_assoc]

theorem holds_value {x : Magnitude} (positive : 0 < x.significand) : x.Holds x.value := by
  have place : (0 : ℚ) < 2 ^ (x.exponent - 2) := by positivity
  have below : x.quartersBelow < 4 * x.significand := by
    unfold quartersBelow
    split <;> omega
  have above : 4 * x.significand < 4 * x.significand + 2 := by omega
  rw [value_eq_quarters]
  constructor
  · left
    exact mul_lt_mul_of_pos_right (by exact_mod_cast below) place
  · left
    exact mul_lt_mul_of_pos_right (by exact_mod_cast above) place

end Binary64.Magnitude

/-! ## The test for decimals -/

namespace Decimal

open Binary64

/-- The comparison multiplies both sides by the powers that make them natural numbers. -/
theorem compareScaled_eq (a : Nat) (i : Int) (n : Nat) (j : Int) :
    compareScaled a i n j = cmp ((a : ℚ) * 10 ^ i) ((n : ℚ) * 2 ^ j) := by
  have ten : (10 : ℚ) ^ i * 10 ^ (-i).toNat = 10 ^ i.toNat := by
    rw [← zpow_natCast, ← zpow_natCast, ← zpow_add₀ (by norm_num)]
    congr 1
    omega
  have two : (2 : ℚ) ^ j * 2 ^ (-j).toNat = 2 ^ j.toNat := by
    rw [← zpow_natCast, ← zpow_natCast, ← zpow_add₀ (by norm_num)]
    congr 1
    omega
  have scale : (0 : ℚ) < 10 ^ (-i).toNat * 2 ^ (-j).toNat := by positivity
  have left : ((a * Nat.pow 10 i.toNat * Nat.pow 2 (-j).toNat : ℕ) : ℚ) =
      (a : ℚ) * 10 ^ i * (10 ^ (-i).toNat * 2 ^ (-j).toNat) := by
    push_cast [Nat.pow_eq]
    rw [← ten]
    ring
  have right : ((n * Nat.pow 2 j.toNat * Nat.pow 10 (-i).toNat : ℕ) : ℚ) =
      (n : ℚ) * 2 ^ j * (10 ^ (-i).toNat * 2 ^ (-j).toNat) := by
    push_cast [Nat.pow_eq]
    rw [← two]
    ring
  calc
    compareScaled a i n j
      = cmp (a * Nat.pow 10 i.toNat * Nat.pow 2 (-j).toNat)
          (n * Nat.pow 2 j.toNat * Nat.pow 10 (-i).toNat) := (cmp_eq_compare _ _).symm
    _ = cmp ((a * Nat.pow 10 i.toNat * Nat.pow 2 (-j).toNat : ℕ) : ℚ)
          ((n * Nat.pow 2 j.toNat * Nat.pow 10 (-i).toNat : ℕ) : ℚ) :=
        (Nat.strictMono_cast.cmp_map_eq _ _).symm
    _ = cmp ((a : ℚ) * 10 ^ i) ((n : ℚ) * 2 ^ j) := by
        rw [left, right, cmp_mul_pos_right scale]

theorem readsBack_iff {x : Magnitude} {d : Decimal} :
    readsBack x d = true ↔ x.Holds d.value := by
  have low : (if x.narrowBelow = true then 4 * x.significand - 1 else 4 * x.significand - 2) =
      x.quartersBelow := rfl
  simp only [readsBack, low, Bool.and_eq_true, Bool.or_eq_true, beq_iff_eq]
  rw [compareScaled_eq, compareScaled_eq, cmp_eq_gt_iff, cmp_eq_eq_iff, cmp_eq_lt_iff,
    cmp_eq_eq_iff]
  rfl

/-! ## The shortest decimal -/

theorem value_strip (d : Decimal) (steps : Nat) : (strip d steps).value = d.value := by
  induction steps generalizing d with
  | zero => rfl
  | succ steps ih =>
      rw [strip]
      split
      · next zero =>
          -- The digits are ten times those that are kept.
          have digits : d.digits = d.digits / 10 * 10 := by omega
          rw [ih, value, value, zpow_add_one₀ (by norm_num)]
          conv_rhs => rw [digits]
          push_cast
          ring
      · rfl

theorem nearer_eq_or (x : Magnitude) (tie : Tie) (below above : Decimal) :
    nearer x tie below above = below ∨ nearer x tie below above = above := by
  unfold nearer
  cases compareScaled (below.digits + above.digits) below.exponent (2 * x.significand)
      x.exponent with
  | lt => exact .inr rfl
  | gt => exact .inl rfl
  | eq =>
      cases tie with
      | up => exact .inr rfl
      | toEven =>
          by_cases even : below.digits % 2 = 0
          · exact .inl (if_pos even)
          · exact .inr (if_neg even)

theorem holds_onGrid {x : Magnitude} {tie : Tie} {exponent : Int} {d : Decimal}
    (found : onGrid x tie exponent = some d) : x.Holds d.value := by
  rw [← readsBack_iff]
  unfold onGrid at found
  simp only at found
  split at found
  · next below above =>
      cases found
      rcases nearer_eq_or x tie (floorAt x exponent)
        ⟨(floorAt x exponent).digits + 1, exponent⟩ with same | same
      · rw [same]
        exact below
      · rw [same]
        exact above
  · next below _ =>
      cases found
      exact below
  · next _ above =>
      cases found
      exact above
  · cases found

/-- Powers of two below one are powers of five with as many decimal places. -/
theorem value_exact (x : Magnitude) : (exact x).value = x.value := by
  unfold exact value Magnitude.value
  push_cast [Nat.pow_eq]
  rcases le_total 0 x.exponent with whole | fraction
  · have none : (-x.exponent).toNat = 0 := by omega
    have places : min x.exponent 0 = 0 := min_eq_right whole
    have power : (2 : ℚ) ^ x.exponent.toNat = 2 ^ x.exponent := by
      rw [← zpow_natCast, Int.toNat_of_nonneg whole]
    rw [none, places, power, pow_zero, zpow_zero, mul_one, mul_one]
  · have none : x.exponent.toNat = 0 := by omega
    have places : min x.exponent 0 = x.exponent := min_eq_left fraction
    have five : (5 : ℚ) ^ (-x.exponent).toNat * 5 ^ x.exponent = 1 := by
      rw [← zpow_natCast, ← zpow_add₀ (by norm_num), Int.toNat_of_nonneg (by omega),
        neg_add_cancel, zpow_zero]
    have ten : (10 : ℚ) ^ x.exponent = 5 ^ x.exponent * 2 ^ x.exponent := by
      rw [← mul_zpow]
      norm_num
    calc
      (x.significand : ℚ) * 2 ^ x.exponent.toNat * 5 ^ (-x.exponent).toNat *
            10 ^ min x.exponent 0
        = x.significand * (5 ^ (-x.exponent).toNat * 5 ^ x.exponent) * 2 ^ x.exponent := by
          rw [none, places, ten]
          ring
      _ = x.significand * 2 ^ x.exponent := by rw [five, mul_one]

/-- A decimal is found on a grid on which it reads back, or else the number is written in full. -/
theorem holds_shortest {x : Magnitude} (positive : 0 < x.significand) (tie : Tie) :
    x.Holds (shortest x tie).value := by
  unfold shortest
  simp only
  rw [value_strip]
  cases found : (List.range 17).findSome? fun n => onGrid x tie (scale x - (n + 1 : Nat)) with
  | none =>
      rw [Option.getD_none, value_exact]
      exact Magnitude.holds_value positive
  | some d =>
      rcases List.exists_of_findSome?_eq_some found with ⟨n, _, grid⟩
      rw [Option.getD_some]
      exact holds_onGrid grid

end Decimal

/-! ## Neighbours -/

namespace Binary64

/-- A number is its sign and the bits below it. -/
theorem eq_of_abs_of_sign {x y : Binary64} (abs : x.absBits = y.absBits)
    (sign : x.isNegative = y.isNegative) : x = y := by
  have bits : x.bits.toNat = y.bits.toNat := by
    have bound := x.bits.toNat_lt
    have bound' := y.bits.toNat_lt
    have sides : signBit ≤ x.bits.toNat ↔ signBit ≤ y.bits.toNat := by
      simpa [isNegative] using sign
    simp only [absBits, signBit, Nat.pow_eq] at abs sides
    omega
  exact congrArg Binary64.mk (UInt64.toNat_inj.1 bits)

/-- The magnitude of the number with the given bits below its sign. -/
def magnitudeAt (abs : Nat) : Magnitude :=
  if abs / Nat.pow 2 52 = 0 then ⟨abs % Nat.pow 2 52, -1074, false⟩
  else ⟨Nat.pow 2 52 + abs % Nat.pow 2 52, (abs / Nat.pow 2 52 : Nat) - 1075,
    decide (abs % Nat.pow 2 52 = 0 ∧ 1 < abs / Nat.pow 2 52)⟩

theorem magnitude_eq (x : Binary64) : x.magnitude = magnitudeAt x.absBits := rfl

theorem magnitudeAt_small {a : Nat} (small : a < 2 ^ 52) : magnitudeAt a = ⟨a, -1074, false⟩ := by
  have field : a / 2 ^ 52 = 0 := Nat.div_eq_of_lt small
  have fraction : a % 2 ^ 52 = a := Nat.mod_eq_of_lt small
  simp only [magnitudeAt, Nat.pow_eq, field, fraction, if_true]

theorem magnitudeAt_large (k : Nat) {f : Nat} (below : f < 2 ^ 52) :
    magnitudeAt ((k + 1) * 2 ^ 52 + f) =
      ⟨2 ^ 52 + f, (k : Int) - 1074, decide (f = 0 ∧ 0 < k)⟩ := by
  have field : ((k + 1) * 2 ^ 52 + f) / 2 ^ 52 = k + 1 := by omega
  have fraction : ((k + 1) * 2 ^ 52 + f) % 2 ^ 52 = f := by omega
  have exponent : ((k + 1 : Nat) : Int) - 1075 = k - 1074 := by omega
  have narrow : (1 < k + 1) = (0 < k) := by simp
  simp only [magnitudeAt, Nat.pow_eq, field, fraction, exponent, narrow, Nat.add_one_ne_zero,
    if_false]

theorem small_or_large (a : Nat) :
    a < 2 ^ 52 ∨ ∃ k f, f < 2 ^ 52 ∧ a = (k + 1) * 2 ^ 52 + f := by
  by_cases small : a < 2 ^ 52
  · exact .inl small
  · exact .inr ⟨a / 2 ^ 52 - 1, a % 2 ^ 52, by omega, by omega⟩

/-- The interval of a number begins where that of the number before it ends, and of the two
significands one is even. -/
theorem magnitudeAt_succ (a : Nat) :
    (magnitudeAt (a + 1)).low = (magnitudeAt a).high ∧
      ((magnitudeAt a).significand + (magnitudeAt (a + 1)).significand) % 2 = 1 := by
  rcases small_or_large a with small | ⟨k, f, below, rfl⟩
  · by_cases next : a + 1 < 2 ^ 52
    · rw [magnitudeAt_small small, magnitudeAt_small next]
      refine ⟨Magnitude.low_eq_high rfl ?_, by simp only; omega⟩
      simp only [Magnitude.quartersBelow, Bool.false_eq_true, if_false]
      omega
    · -- The first number with a leading bit has the same last place.
      have same : a + 1 = (0 + 1) * 2 ^ 52 + 0 := by omega
      rw [same, magnitudeAt_small small, magnitudeAt_large 0 (by norm_num)]
      refine ⟨Magnitude.low_eq_high rfl ?_, by simp only; omega⟩
      simp only [Magnitude.quartersBelow, lt_irrefl, and_false, decide_false, Bool.false_eq_true,
        if_false]
      omega
  · by_cases next : f + 1 < 2 ^ 52
    · rw [add_assoc, magnitudeAt_large k below, magnitudeAt_large k next]
      refine ⟨Magnitude.low_eq_high rfl ?_, by simp only; omega⟩
      simp only [Magnitude.quartersBelow, Nat.add_one_ne_zero, false_and, decide_false,
        Bool.false_eq_true, if_false]
      omega
    · -- The last place doubles, but the gap below is still the old one.
      have same : (k + 1) * 2 ^ 52 + f + 1 = (k + 1 + 1) * 2 ^ 52 + 0 := by omega
      rw [same, magnitudeAt_large k below, magnitudeAt_large (k + 1) (by norm_num)]
      refine ⟨Magnitude.low_eq_high_of_double ?_ ?_, by simp only; omega⟩
      · simp only
        omega
      · simp only [Magnitude.quartersBelow, Nat.zero_lt_succ, and_self, decide_true, if_true]
        omega

/-- Of two numbers, the interval of the smaller one ends before that of the larger one begins, or
there, and then one of the significands is odd. -/
theorem high_le_low {a b : Nat} (less : a < b) :
    (magnitudeAt a).high < (magnitudeAt b).low ∨
      (magnitudeAt a).high = (magnitudeAt b).low ∧
        ((magnitudeAt a).significand + (magnitudeAt b).significand) % 2 = 1 := by
  induction b, less using Nat.le_induction with
  | base =>
      rcases magnitudeAt_succ a with ⟨meet, parity⟩
      exact .inr ⟨meet.symm, parity⟩
  | succ b _ ih =>
      rcases magnitudeAt_succ b with ⟨meet, _⟩
      have wide := (magnitudeAt b).low_lt_high
      left
      rcases ih with apart | ⟨touch, _⟩
      · linarith
      · linarith

theorem not_holds_of_lt {a b : Nat} (less : a < b) {q : ℚ} (first : (magnitudeAt a).Holds q) :
    ¬ (magnitudeAt b).Holds q := by
  intro second
  rcases first with ⟨_, below⟩
  rcases second with ⟨above, _⟩
  -- The point lies between the two ends, so it is both of them, and both significands are even.
  rcases high_le_low less with apart | ⟨touch, parity⟩
  · rcases below with below | ⟨_, below⟩ <;> rcases above with above | ⟨_, above⟩ <;> linarith
  · rcases below with below | ⟨even, below⟩
    · rcases above with above | ⟨_, above⟩ <;> linarith
    · rcases above with above | ⟨even', _⟩
      · linarith
      · omega

theorem eq_of_holds {a b : Nat} {q : ℚ} (first : (magnitudeAt a).Holds q)
    (second : (magnitudeAt b).Holds q) : a = b := by
  rcases lt_trichotomy a b with less | same | more
  · exact absurd second (not_holds_of_lt less first)
  · exact same
  · exact absurd first (not_holds_of_lt more second)

end Binary64
end CiPipeline
