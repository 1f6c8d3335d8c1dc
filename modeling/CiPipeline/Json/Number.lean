import CiPipeline.Data.Datum
import CiPipeline.Number.Literal

/-!
# Number — the numbers of JSON texts

Integers that fit 64 bits are read exactly.  All other numbers are read as a significand of at most
64 bits that is multiplied or divided by a rounded power of ten, so a long fraction may be read as
a neighbour of the nearest number.

* `Json.absorb`: as many digits as fit the significand;
* `Json.scaleBy`: multiplication or division by a power of ten;
* `Json.readNumber`: the number at the front of a text.
-/

namespace CiPipeline
namespace Json

open Numeral

/-- The largest significand. -/
def significandLimit : Nat := Nat.pow 2 64 - 1

/-- Appends digits to the significand until one does not fit; also the digits left over. -/
def absorb (significand : Nat) : List Char → Nat × List Char
  | [] => (significand, [])
  | c :: cs =>
    let next := 10 * significand + digitValue c
    if next ≤ significandLimit then absorb next cs else (significand, c :: cs)

/-- Division by powers of ten in steps of at most `10 ^ 308`; three steps reach zero. -/
def divideBy (x : Binary64) (power : Nat) : Nat → Binary64
  | 0 => .zero false
  | steps + 1 =>
    if power ≤ 308 then x.div (.ofNat (Nat.pow 10 power))
    else divideBy (x.div (.ofNat (Nat.pow 10 308))) (power - 308) steps

/-- `significand * 10 ^ power`, nothing when that is out of range. -/
def scaleBy (significand : Nat) (power : Int) : Option Binary64 :=
  let x := Binary64.ofNat significand
  if significand = 0 then some x
  else if power < 0 then some (divideBy x power.natAbs 4)
  else if power ≤ 308 then
    let y := x.mul (.ofNat (Nat.pow 10 power.toNat))
    if y.isInfinite then none else some y
  else none

def signed (negative : Bool) (x : Binary64) : Binary64 := if negative then x.neg else x

def scaledDatum (negative : Bool) (significand : Nat) (power : Int) : Option Datum :=
  (scaleBy significand power).map fun x => .number (signed negative x)

/-- A number without fraction and exponent. -/
def integerDatum (negative : Bool) (significand : Nat) : Datum :=
  if negative then
    if significand = 0 ∨ Nat.pow 2 63 < significand then .number (Binary64.ofNat significand).neg
    else .int (-(significand : Int))
  else .int significand

/-- The exponent after its mark, and the rest of the text. -/
def readExponent (cs : List Char) : Option (Int × List Char) :=
  let (negative, cs) :=
    match cs with
    | '-' :: rest => (true, rest)
    | '+' :: rest => (false, rest)
    | rest => (false, rest)
  let digits := cs.takeWhile isDigit
  if digits.isEmpty then none
  else
    let power : Int := digitsValue digits
    some (if negative then -power else power, cs.dropWhile isDigit)

/-- What may follow the digits: an exponent, or nothing. -/
def readScaled (negative : Bool) (significand : Nat) (power : Int) (cs : List Char) :
    Option (Datum × List Char) :=
  match cs with
  | [] => (scaledDatum negative significand power).map (·, [])
  | c :: rest =>
    if c = 'e' ∨ c = 'E' then do
      let (exponent, rest) ← readExponent rest
      let d ← scaledDatum negative significand (power + exponent)
      some (d, rest)
    else (scaledDatum negative significand power).map (·, c :: rest)

/-- The number after its sign. -/
def readMagnitude (negative : Bool) (cs : List Char) : Option (Datum × List Char) :=
  let whole := cs.takeWhile isDigit
  let rest := cs.dropWhile isDigit
  if whole.isEmpty || (whole.head? == some '0' && whole.length != 1) then none
  else
    let (significand, left) := absorb 0 whole
    match rest with
    | '.' :: rest =>
      let fraction := rest.takeWhile isDigit
      if fraction.isEmpty then none
      else
        let (longer, unread) := absorb significand fraction
        readScaled negative longer ((left.length : Int) - (fraction.length - unread.length))
          (rest.dropWhile isDigit)
    | c :: _ =>
      if c = 'e' ∨ c = 'E' ∨ !left.isEmpty then readScaled negative significand left.length rest
      else some (integerDatum negative significand, rest)
    | [] =>
      if left.isEmpty then some (integerDatum negative significand, [])
      else readScaled negative significand left.length []

def readNumber (cs : List Char) : Option (Datum × List Char) :=
  match cs with
  | '-' :: rest => readMagnitude true rest
  | rest => readMagnitude false rest

end Json
end CiPipeline
