namespace Reactivity.Number

/-!
# Magnitudes of numeric literals

A numeric literal denotes the double-precision number nearest to what it spells;
of two equally near ones the one with the even significand. Literals carry no
sign. All computation is exact arithmetic on natural numbers.
-/

/-- A nonnegative double: `significand` times two to the `exponent`, or infinity. -/
inductive Magnitude where
  | finite (significand : Nat) (exponent : Int)
  | infinite
  deriving Repr, DecidableEq

/-- Two to the `exponent`. -/
def twoTo
    (exponent : Nat) :
    Nat :=
  Nat.pow 2 exponent

/-- Ten to the `exponent`. -/
def tenTo
    (exponent : Nat) :
    Nat :=
  Nat.pow 10 exponent

/-- The quotient rounded to the nearest natural number, a half to the even one. -/
def roundQuotient
    (numerator denominator : Nat) :
    Nat :=
  let quotient := numerator / denominator
  let remainder := numerator % denominator
  if denominator < 2 * remainder ||
      (denominator == 2 * remainder && quotient % 2 == 1) then
    quotient + 1
  else
    quotient

/-- The number of bits in a significand. -/
def significandBits : Nat := 53

/-- The exponent of the smallest positive double. -/
def leastExponent : Int := -1074

/-- The largest exponent of a finite double. -/
def greatestExponent : Int := 971

/-- Divide a ratio by two to the `exponent` and round. -/
def roundScaled
    (numerator denominator : Nat)
    (exponent : Int) :
    Nat :=
  if 0 ≤ exponent then
    roundQuotient numerator (denominator * twoTo exponent.toNat)
  else
    roundQuotient (numerator * twoTo (-exponent).toNat) denominator

/-- The exponent at which a positive ratio fills a significand. -/
def fittingExponent
    (numerator denominator : Nat) :
    Int :=
  let estimate : Int := (Nat.log2 numerator : Int) - (Nat.log2 denominator : Int) - 52
  let fills :=
    if 0 ≤ estimate then
      denominator * twoTo (estimate.toNat + 52) ≤ numerator
    else
      denominator * twoTo 52 ≤ numerator * twoTo (-estimate).toNat
  max leastExponent (if fills then estimate else estimate - 1)

namespace Magnitude

/-- The number zero. -/
def zero : Magnitude := .finite 0 0

/-- The magnitude nearest to a ratio. -/
def ofRatio
    (numerator denominator : Nat) :
    Magnitude :=
  if numerator == 0 then
    zero
  else
    let exponent := fittingExponent numerator denominator
    let significand := roundScaled numerator denominator exponent
    if significand == twoTo significandBits then
      if greatestExponent ≤ exponent then
        .infinite
      else
        .finite (twoTo (significandBits - 1)) (exponent + 1)
    else if greatestExponent < exponent then
      .infinite
    else if significand == 0 then
      zero
    else
      .finite significand exponent

/-- The magnitude nearest to a natural number. -/
def ofNat
    (value : Nat) :
    Magnitude :=
  ofRatio value 1

/--
The magnitude nearest to `digits` times ten to the `exponent`.

Numbers far outside the range of doubles are decided by their size alone.
-/
def ofDecimal
    (digits : Nat)
    (exponent : Int) :
    Magnitude :=
  let point := ((Nat.toDigits 10 digits).length : Int) + exponent
  if digits == 0 || point < -400 then
    zero
  else if 400 < point then
    .infinite
  else if 0 ≤ exponent then
    ofRatio (digits * tenTo exponent.toNat) 1
  else
    ofRatio digits (tenTo (-exponent).toNat)

/-- The natural number that a magnitude is, if it is one. -/
def toNat? :
    Magnitude →
    Option Nat
  | .infinite => none
  | .finite significand exponent =>
      if 0 ≤ exponent then
        some (significand * twoTo exponent.toNat)
      else
        let unit := twoTo (-exponent).toNat
        if significand % unit == 0 then some (significand / unit) else none

end Magnitude

end Reactivity.Number
