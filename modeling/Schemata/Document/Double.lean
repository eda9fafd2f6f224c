import Schemata.Text.Range

/-!
Binary floating-point numbers of 64 bits, by exact arithmetic on natural numbers. A decimal is read
as the nearest number, with ties to the even mantissa, and a number is written with the fewest
digits that read back as it.
-/

namespace Schemata

/-- A finite number is `mantissa * 2 ^ exponent`. -/
inductive Double
  | finite (negative : Bool) (mantissa : Nat) (exponent : Int)
  | infinite (negative : Bool)
  | nan
deriving DecidableEq, Repr

namespace Double

/-- The least exponent of a finite number. -/
def leastExponent : Int := -1074

def zero (negative : Bool) : Double := .finite negative 0 leastExponent

/-- The integer nearest to a quotient, the even one of two. -/
def roundedQuotient (numerator denominator : Nat) : Nat :=
  let quotient := numerator / denominator
  let twice := 2 * (numerator % denominator)
  if denominator < twice || (denominator == twice && quotient % 2 == 1) then quotient + 1
  else quotient

/-- A fraction divided by a power of two. -/
def scaledDown (numerator denominator : Nat) (exponent : Int) : Nat × Nat :=
  if 0 ≤ exponent then (numerator, denominator * Nat.pow 2 exponent.toNat)
  else (numerator * Nat.pow 2 (-exponent).toNat, denominator)

/-- The number nearest to a positive fraction. -/
def ofFraction (negative : Bool) (numerator denominator : Nat) : Double :=
  let size : Int := (numerator.log2 : Int) - denominator.log2
  let low := max leastExponent (size - 53)
  let (n, d) := scaledDown numerator denominator low
  let exponent := if n / d < Nat.pow 2 53 then low else low + 1
  let (n, d) := scaledDown numerator denominator exponent
  let mantissa := roundedQuotient n d
  let (mantissa, exponent) :=
    if mantissa = Nat.pow 2 53 then (Nat.pow 2 52, exponent + 1) else (mantissa, exponent)
  if 971 < exponent then .infinite negative else .finite negative mantissa exponent

def decimalLength (n : Nat) : Nat :=
  (Nat.toDigits 10 n).length

/-- The number nearest to `digits * 10 ^ exponent`. -/
def ofDecimal (negative : Bool) (digits : Nat) (exponent : Int) : Double :=
  if digits = 0 then zero negative
  else
    let size := exponent + decimalLength digits
    if 310 < size then .infinite negative
    else if size < -330 then zero negative
    else if 0 ≤ exponent then ofFraction negative (digits * Nat.pow 10 exponent.toNat) 1
    else ofFraction negative digits (Nat.pow 10 (-exponent).toNat)

/-- The positive fraction that a mantissa and an exponent stand for. -/
def fraction (mantissa : Nat) (exponent : Int) : Nat × Nat :=
  if 0 ≤ exponent then (mantissa * Nat.pow 2 exponent.toNat, 1) else (mantissa, Nat.pow 2 (-exponent).toNat)

/-- The number of digits before the decimal point; zero or less for fractions below one tenth. -/
def pointPosition (numerator denominator : Nat) : Int :=
  let estimate : Int := (decimalLength numerator : Int) - decimalLength denominator
  let reaches (position : Int) : Bool :=
    if 0 ≤ position then denominator * Nat.pow 10 position.toNat ≤ numerator
    else denominator ≤ numerator * Nat.pow 10 (-position).toNat
  if reaches estimate then estimate + 1 else estimate

/-- The decimal of `count` digits that reads back as the number, the nearer one of two. -/
def decimalOf? (mantissa : Nat) (exponent : Int) (count : Nat) : Option (Nat × Int) :=
  let (numerator, denominator) := fraction mantissa exponent
  let place := pointPosition numerator denominator - count
  let (n, d) :=
    if 0 ≤ place then (numerator, denominator * Nat.pow 10 place.toNat)
    else (numerator * Nat.pow 10 (-place).toNat, denominator)
  let below := n / d
  let readsBack (digits : Nat) : Bool := ofDecimal false digits place == .finite false mantissa exponent
  if 2 * (n % d) ≤ d then
    if readsBack below then some (below, place)
    else if readsBack (below + 1) then some (below + 1, place) else none
  else
    if readsBack (below + 1) then some (below + 1, place)
    else if readsBack below then some (below, place) else none

/-- The shortest decimal that reads back as the number. -/
def shortest (mantissa : Nat) (exponent : Int) : Nat × Int :=
  ((List.range' 1 17).findSome? (decimalOf? mantissa exponent)).getD (mantissa, 0)

def zeros (count : Nat) : Text :=
  List.replicate count '0'

/-- Digits with the point after `position` of them: positional from one ten-thousandth up to below
`10 ^ 16`, and with an exponent of two digits or more elsewhere. -/
def placed (digits : Text) (position : Int) : Text :=
  if -4 < position ∧ position ≤ 16 then
    if position ≤ 0 then "0.".toList ++ zeros (-position).toNat ++ digits
    else if digits.length ≤ position.toNat then
      digits ++ zeros (position.toNat - digits.length) ++ ".0".toList
    else digits.take position.toNat ++ '.' :: digits.drop position.toNat
  else
    let exponent := position - 1
    let size := Nat.toDigits 10 exponent.natAbs
    digits.take 1 ++ (if digits.length ≤ 1 then [] else '.' :: digits.drop 1) ++
      ['e', if exponent < 0 then '-' else '+'] ++ zeros (2 - size.length) ++ size

def withoutTrailingZeros (digits : Text) : Text :=
  (digits.reverse.dropWhile (· == '0')).reverse

def sign (negative : Bool) : Text :=
  if negative then ['-'] else []

/-- The text of the number. -/
def text : Double → Text
  | .nan => "nan".toList
  | .infinite negative => sign negative ++ "inf".toList
  | .finite negative 0 _ => sign negative ++ "0.0".toList
  | .finite negative mantissa exponent =>
      let (digits, place) := shortest mantissa exponent
      let written := Nat.toDigits 10 digits
      sign negative ++ placed (withoutTrailingZeros written) (place + written.length)

/-- The integer part of a finite number. -/
def truncated? : Double → Option Int
  | .finite negative mantissa exponent =>
      let (numerator, denominator) := fraction mantissa exponent
      let whole : Int := (numerator / denominator : Nat)
      some (if negative then -whole else whole)
  | _ => none

/-- The number nearest to a natural number. -/
def ofNat (n : Nat) : Double :=
  if n = 0 then zero false else ofFraction false n 1

/-- The number nearest to a fraction with a sign. -/
def ofRatio (numerator : Int) (denominator : Nat) : Double :=
  if numerator = 0 then zero false
  else ofFraction (numerator < 0) numerator.natAbs denominator

def signed (negative : Bool) (n : Nat) : Int :=
  if negative then -n else n

/-- The rounded sum. A sum of zero is negative only if both numbers are negative zeros. -/
def add : Double → Double → Double
  | .nan, _ => .nan
  | _, .nan => .nan
  | .infinite a, .infinite b => if a = b then .infinite a else .nan
  | .infinite a, _ => .infinite a
  | _, .infinite b => .infinite b
  | .finite true 0 _, .finite true 0 _ => zero true
  | .finite a m e, .finite b n f =>
      let (left, leftPart) := fraction m e
      let (right, rightPart) := fraction n f
      ofRatio (signed a left * rightPart + signed b right * leftPart) (leftPart * rightPart)

def isZero : Double → Bool
  | .finite _ 0 _ => true
  | _ => false

def isNegative : Double → Bool
  | .finite negative _ _ => negative
  | .infinite negative => negative
  | .nan => false

/-- The rounded product. -/
def mul (x y : Double) : Double :=
  let negative := x.isNegative != y.isNegative
  match x, y with
  | .nan, _ => .nan
  | _, .nan => .nan
  | .finite _ m e, .finite _ n f =>
      if m = 0 ∨ n = 0 then zero negative
      else
        let (left, leftPart) := fraction m e
        let (right, rightPart) := fraction n f
        ofFraction negative (left * right) (leftPart * rightPart)
  | a, b => if a.isZero || b.isZero then .nan else .infinite negative

def negate : Double → Double
  | .finite negative mantissa exponent => .finite (!negative) mantissa exponent
  | .infinite negative => .infinite (!negative)
  | .nan => .nan

/-- The number that is greater by one, rounded. -/
def next (x : Double) : Double :=
  add x (ofNat 1)

/-- Equality of numbers: zeros of both signs are equal, and what is not a number equals nothing. -/
def same (one other : Double) : Bool :=
  match one, other with
  | .nan, _ => false
  | a, b => a == b || (a.isZero && b.isZero)

def isInteger (x : Double) (n : Int) : Bool :=
  match x with
  | .finite _ mantissa exponent =>
      let (numerator, denominator) := fraction mantissa exponent
      numerator % denominator == 0 && x.truncated? == some n
  | _ => false

end Double

end Schemata
