import CiPipeline.Number.Shortest

/-!
# Notation — how numbers are written

A number is written with its shortest decimal, laid out positionally or with an exponent.  Each
kind of text the program writes makes its own choices, held in one record.

* `NumberStyle`: the choices;
* `NumberStyle.display`: numbers inside messages and printed lines, always positional;
* `NumberStyle.json`: numbers inside JSON texts;
* `NumberStyle.write`: the text of a number.
-/

namespace CiPipeline

structure NumberStyle where
  /-- Whether a leading digit at this power of ten is written positionally. -/
  positional : Int → Bool
  /-- Whether a whole number written positionally ends in `.0`. -/
  pointZero : Bool
  /-- Whether a positive exponent has a sign. -/
  exponentPlus : Bool
  tie : Tie
  nan : String
  infinity : String
  negativeInfinity : String

namespace NumberStyle

/-- Numbers in messages: no exponent, no fraction for whole numbers. -/
def display : NumberStyle where
  positional := fun _ => true
  pointZero := false
  exponentPlus := false
  tie := .up
  nan := "NaN"
  infinity := "inf"
  negativeInfinity := "-inf"

/-- Numbers in JSON: an exponent outside `10 ^ -5` … `10 ^ 15`, always a fraction or an exponent. -/
def json : NumberStyle where
  positional := fun e => decide (-5 ≤ e ∧ e ≤ 15)
  pointZero := true
  exponentPlus := true
  tie := .toEven
  nan := "null"
  infinity := "null"
  negativeInfinity := "null"

/-! ## Layout -/

def digitsOf (n : Nat) : List Char := Nat.toDigits 10 n

/-- Digits with the point after the first `before` of them; `before` may lie outside the digits. -/
def layPositional (style : NumberStyle) (digits : List Char) (before : Int) : List Char :=
  if before ≤ 0 then
    "0.".toList ++ List.replicate (-before).toNat '0' ++ digits
  else
    let n := before.toNat
    if digits.length ≤ n then
      digits ++ List.replicate (n - digits.length) '0' ++ (if style.pointZero then ".0".toList else [])
    else
      digits.take n ++ '.' :: digits.drop n

/-- One digit, the other digits after a point, and the power of ten. -/
def layScientific (style : NumberStyle) (digits : List Char) (power : Int) : List Char :=
  let mantissa :=
    match digits with
    | [] => []
    | [d] => [d]
    | d :: ds => d :: '.' :: ds
  let sign := if power < 0 then ['-'] else if style.exponentPlus then ['+'] else []
  mantissa ++ 'e' :: sign ++ digitsOf power.natAbs

def layDecimal (style : NumberStyle) (d : Decimal) : List Char :=
  let digits := digitsOf d.digits
  let power := d.exponent + digits.length - 1
  if style.positional power then layPositional style digits (power + 1)
  else layScientific style digits power

/-- The text of a number without its sign. -/
def writeMagnitude (style : NumberStyle) (x : Binary64) : List Char :=
  if x.isZero then layPositional style ['0'] 1
  else layDecimal style (Decimal.shortest x.magnitude style.tie)

def write (style : NumberStyle) (x : Binary64) : String :=
  if x.isNaN then style.nan
  else if x.isInfinite then (if x.isNegative then style.negativeInfinity else style.infinity)
  else String.ofList ((if x.isNegative then ['-'] else []) ++ writeMagnitude style x)

end NumberStyle
end CiPipeline
