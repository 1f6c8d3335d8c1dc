import CiPipeline.Number.Binary64

/-!
# Literal — numbers as they are written

A numeral has a sign, digits with or without a point, and a power of ten.

* `Numeral.read`: splits a text into the parts of a numeral;
* `Numeral.value`: the number nearest to a numeral;
* `Binary64.ofText?`: the number a whole text denotes, with the words for infinity and for no
  number.
-/

namespace CiPipeline

/-- The value `digits * 10 ^ exponent`, with its sign. -/
structure Numeral where
  negative : Bool
  digits : Nat
  exponent : Int
deriving Repr, DecidableEq

namespace Numeral

def isDigit (c : Char) : Bool := '0' ≤ c && c ≤ '9'

def digitValue (c : Char) : Nat := c.toNat - '0'.toNat

def digitsValue (cs : List Char) : Nat := cs.foldl (fun n c => 10 * n + digitValue c) 0

/-- The power of ten after an exponent mark: an optional sign and at least one digit. -/
def readPower (cs : List Char) : Option Int :=
  let (negative, digits) :=
    match cs with
    | '-' :: rest => (true, rest)
    | '+' :: rest => (false, rest)
    | rest => (false, rest)
  if digits.isEmpty || !digits.all isDigit then none
  else if negative then some (-(digitsValue digits : Int)) else some (digitsValue digits)

/-- The parts of a text without a sign: digits, an optional fraction, an optional exponent. -/
def readUnsigned (negative : Bool) (cs : List Char) : Option Numeral :=
  let whole := cs.takeWhile isDigit
  let (fraction, rest) :=
    match cs.dropWhile isDigit with
    | '.' :: rest => (rest.takeWhile isDigit, rest.dropWhile isDigit)
    | rest => ([], rest)
  if whole.isEmpty && fraction.isEmpty then none
  else
    let digits := digitsValue (whole ++ fraction)
    match rest with
    | [] => some ⟨negative, digits, -(fraction.length : Int)⟩
    | c :: rest =>
      if c = 'e' ∨ c = 'E' then
        (readPower rest).map fun power => ⟨negative, digits, power - fraction.length⟩
      else none

def read (cs : List Char) : Option Numeral :=
  match cs with
  | '-' :: rest => readUnsigned true rest
  | '+' :: rest => readUnsigned false rest
  | rest => readUnsigned false rest

/-- The number nearest to the numeral.  Far outside the range of numbers the power of ten itself
is not computed. -/
def value (n : Numeral) : Binary64 :=
  let top := n.exponent + (Nat.toDigits 10 n.digits).length
  if n.digits = 0 then .zero n.negative
  else if top > 400 then .infinity n.negative
  else if top < -400 then .zero n.negative
  else Binary64.rounded n.negative (n.digits * Nat.pow 10 n.exponent.toNat)
    (Nat.pow 10 (-n.exponent).toNat) 0

end Numeral

namespace Binary64

/-- The value of a word, whatever its case. -/
def ofWord? (negative : Bool) (cs : List Char) : Option Binary64 :=
  let word := String.ofList (cs.map Char.toLower)
  if word = "inf" ∨ word = "infinity" then some (.infinity negative)
  else if word = "nan" then some (if negative then nan.neg else nan)
  else none

def ofText? (s : String) : Option Binary64 :=
  match Numeral.read s.toList with
  | some n => some n.value
  | none =>
    match s.toList with
    | '-' :: rest => ofWord? true rest
    | '+' :: rest => ofWord? false rest
    | rest => ofWord? false rest

end Binary64
end CiPipeline
