/-!
# Binary64 — double precision numbers as bit patterns

A number is its 64 bits: a sign, eleven bits of exponent, 52 bits of fraction.  Equality is
equality of bits.  All arithmetic is exact arithmetic on natural numbers followed by one rounding
to the nearest number, a tie going to the even neighbour.

* `Binary64.magnitude`: the absolute value of a finite number as `significand * 2 ^ exponent`;
* `Binary64.rounded`: the number nearest to a fraction times a power of two;
* `Binary64.mul`, `Binary64.div`, `Binary64.ofNat`, `Binary64.ofInt`.
-/

namespace CiPipeline

structure Binary64 where
  bits : UInt64
deriving DecidableEq, Repr, Inhabited

namespace Binary64

/-! ## Fields -/

/-- The bits of infinity without its sign. -/
def infinityBits : Nat := 0x7FF0000000000000

def signBit : Nat := Nat.pow 2 63

def isNegative (x : Binary64) : Bool := decide (signBit ≤ x.bits.toNat)

/-- The bits without the sign. -/
def absBits (x : Binary64) : Nat := x.bits.toNat % signBit

def isNaN (x : Binary64) : Bool := decide (infinityBits < x.absBits)

def isInfinite (x : Binary64) : Bool := decide (x.absBits = infinityBits)

def isFinite (x : Binary64) : Bool := decide (x.absBits < infinityBits)

def isZero (x : Binary64) : Bool := decide (x.absBits = 0)

/-- A positive value `significand * 2 ^ exponent`; `narrowBelow` when the gap to the next smaller
number is half the gap to the next larger one. -/
structure Magnitude where
  significand : Nat
  exponent : Int
  narrowBelow : Bool
deriving Repr, DecidableEq

def magnitude (x : Binary64) : Magnitude :=
  let field : Nat := x.absBits / Nat.pow 2 52
  let fraction : Nat := x.absBits % Nat.pow 2 52
  if field = 0 then ⟨fraction, -1074, false⟩
  else ⟨Nat.pow 2 52 + fraction, (field : Int) - 1075, decide (fraction = 0 ∧ 1 < field)⟩

/-! ## Construction -/

/-- The number with the given sign and the given bits below it. -/
def ofParts (negative : Bool) (abs : Nat) : Binary64 :=
  ⟨UInt64.ofNat (abs + if negative then signBit else 0)⟩

def zero (negative : Bool) : Binary64 := ofParts negative 0

def infinity (negative : Bool) : Binary64 := ofParts negative infinityBits

def nan : Binary64 := ⟨0x7FF8000000000000⟩

def neg (x : Binary64) : Binary64 := ofParts (!x.isNegative) x.absBits

/-- The quotient rounded to the nearest natural number, a tie to the even one. -/
def roundQuotient (num den : Nat) : Nat :=
  let q := num / den
  let twice := 2 * (num % den)
  if twice > den ∨ (twice = den ∧ q % 2 = 1) then q + 1 else q

/-- `num / den * 2 ^ exponent` divided by `2 ^ target`, as a fraction. -/
def scaled (num den : Nat) (exponent target : Int) : Nat × Nat :=
  let shift := exponent - target
  (num * Nat.pow 2 shift.toNat, den * Nat.pow 2 (-shift).toNat)

/-- The exponent of the last place of the rounded value of `num / den * 2 ^ exponent`. -/
def lastPlace (num den : Nat) (exponent : Int) : Int :=
  let guess := exponent + (num.log2 : Int) - den.log2 - 53
  let (n, d) := scaled num den exponent guess
  max (-1074) (if n / d < Nat.pow 2 53 then guess else guess + 1)

/-- The bits of the number nearest to `num / den * 2 ^ exponent`. -/
def roundedBits (num den : Nat) (exponent : Int) : Nat :=
  if num = 0 then 0
  else
    let place := lastPlace num den exponent
    let (n, d) := scaled num den exponent place
    min infinityBits ((place + 1074).toNat * Nat.pow 2 52 + roundQuotient n d)

def rounded (negative : Bool) (num den : Nat) (exponent : Int) : Binary64 :=
  ofParts negative (roundedBits num den exponent)

def ofNat (n : Nat) : Binary64 := rounded false n 1 0

def ofInt (i : Int) : Binary64 := rounded (decide (i < 0)) i.natAbs 1 0

/-! ## Arithmetic -/

/-- The product of two finite numbers. -/
def mul (x y : Binary64) : Binary64 :=
  let a := x.magnitude
  let b := y.magnitude
  rounded (x.isNegative != y.isNegative) (a.significand * b.significand) 1
    (a.exponent + b.exponent)

/-- The quotient of two finite numbers, the second not zero. -/
def div (x y : Binary64) : Binary64 :=
  let a := x.magnitude
  let b := y.magnitude
  rounded (x.isNegative != y.isNegative) a.significand b.significand (a.exponent - b.exponent)

end Binary64
end CiPipeline
