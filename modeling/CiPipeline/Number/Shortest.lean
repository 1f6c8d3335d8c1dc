import CiPipeline.Number.Binary64

/-!
# Shortest — the fewest digits that read back

A positive finite number stands for the interval of reals that round to it.  Its shortest decimal
is the one with the fewest digits inside that interval and, of several, the nearest to the number.

* `Decimal`: a decimal `digits * 10 ^ exponent`;
* `Decimal.readsBack`: membership in the interval of a number;
* `Decimal.shortest`: the shortest decimal of a number.
-/

namespace CiPipeline

/-- The value `digits * 10 ^ exponent`. -/
structure Decimal where
  digits : Nat
  exponent : Int
deriving Repr, DecidableEq

/-- Where a decimal goes that lies midway between two candidates. -/
inductive Tie where
  | toEven
  | up
deriving Repr, DecidableEq

namespace Decimal

open Binary64

/-- Comparison of `a * 10 ^ i` with `n * 2 ^ j`. -/
def compareScaled (a : Nat) (i : Int) (n : Nat) (j : Int) : Ordering :=
  compare (a * Nat.pow 10 i.toNat * Nat.pow 2 (-j).toNat)
    (n * Nat.pow 2 j.toNat * Nat.pow 10 (-i).toNat)

/-- Whether the decimal rounds to the number, ties to even. -/
def readsBack (x : Magnitude) (d : Decimal) : Bool :=
  let low := if x.narrowBelow then 4 * x.significand - 1 else 4 * x.significand - 2
  let atLow := compareScaled d.digits d.exponent low (x.exponent - 2)
  let atHigh := compareScaled d.digits d.exponent (4 * x.significand + 2) (x.exponent - 2)
  let even := x.significand % 2 == 0
  (atLow == .gt || (even && atLow == .eq)) && (atHigh == .lt || (even && atHigh == .eq))

/-- The largest multiple of `10 ^ exponent` that does not exceed the number. -/
def floorAt (x : Magnitude) (exponent : Int) : Decimal :=
  ⟨(x.significand * Nat.pow 2 x.exponent.toNat * Nat.pow 10 (-exponent).toNat)
      / (Nat.pow 2 (-x.exponent).toNat * Nat.pow 10 exponent.toNat), exponent⟩

/-- Of two neighbours on a grid the nearer to the number. -/
def nearer (x : Magnitude) (tie : Tie) (below above : Decimal) : Decimal :=
  match compareScaled (below.digits + above.digits) below.exponent
      (2 * x.significand) x.exponent with
  | .lt => above
  | .gt => below
  | .eq =>
    match tie with
    | .up => above
    | .toEven => if below.digits % 2 = 0 then below else above

/-- The decimal on the grid `10 ^ exponent` that reads back, if there is one. -/
def onGrid (x : Magnitude) (tie : Tie) (exponent : Int) : Option Decimal :=
  let below := floorAt x exponent
  let above : Decimal := ⟨below.digits + 1, exponent⟩
  match readsBack x below, readsBack x above with
  | true, true => some (nearer x tie below above)
  | true, false => some below
  | false, true => some above
  | false, false => none

/-- The least `k` with the number below `10 ^ k`, sought upwards from an estimate. -/
def scaleFrom (x : Magnitude) (k : Int) : Nat → Int
  | 0 => k
  | steps + 1 =>
    if compareScaled 1 k x.significand x.exponent == .gt then k else scaleFrom x (k + 1) steps

def scale (x : Magnitude) : Int :=
  scaleFrom x ((((x.significand.log2 : Int) + x.exponent) * 30103).fdiv 100000) 4

/-- Moves trailing zeros of the digits into the exponent. -/
def strip (d : Decimal) : Nat → Decimal
  | 0 => d
  | steps + 1 =>
    if d.digits % 10 = 0 ∧ d.digits ≠ 0 then strip ⟨d.digits / 10, d.exponent + 1⟩ steps else d

/-- The value written out in full. -/
def exact (x : Magnitude) : Decimal :=
  ⟨x.significand * Nat.pow 2 x.exponent.toNat * Nat.pow 5 (-x.exponent).toNat, min x.exponent 0⟩

def shortest (x : Magnitude) (tie : Tie) : Decimal :=
  let k := scale x
  let found := (List.range 17).findSome? fun n => onGrid x tie (k - (n + 1 : Nat))
  strip (found.getD (exact x)) 20

end Decimal
end CiPipeline
