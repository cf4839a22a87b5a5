import Reactivity.Number.Magnitude

namespace Reactivity.Number

/-!
# Shortest decimals

The decimal with the fewest digits that reads back as a given double; of those
with that many digits, the one nearest to the double.
-/

/-- The decimal `0.d₁d₂…` times ten to the `point`, for the digits of `digits`. -/
structure Decimal where
  digits : Nat
  point : Int
  deriving Repr, DecidableEq

/-- A positive ratio with the interval of ratios that round to it. -/
structure Neighbourhood where
  /-- Lower end, value and upper end, over a common denominator. -/
  lower : Nat
  value : Nat
  upper : Nat
  denominator : Nat
  /-- Both ends round to the value. -/
  closed : Bool
  deriving Repr, DecidableEq

namespace Neighbourhood

/-- The interval of the double `significand` times two to the `exponent`. -/
def ofDouble
    (significand : Nat)
    (exponent : Int) :
    Neighbourhood :=
  let scale := if 0 ≤ exponent then twoTo exponent.toNat else 1
  let below :=
    if significand == twoTo (significandBits - 1) && leastExponent < exponent then 1 else 2
  { lower := (4 * significand - below) * scale
    value := 4 * significand * scale
    upper := (4 * significand + 2) * scale
    denominator := if 0 ≤ exponent then 4 else 4 * twoTo (-exponent).toNat
    closed := significand % 2 == 0 }

/-- Compare `digits` times ten to the `unit` with a numerator over the denominator. -/
def compareGrid
    (near : Neighbourhood)
    (digits : Nat)
    (unit : Int)
    (numerator : Nat) :
    Ordering :=
  if 0 ≤ unit then
    compare (digits * tenTo unit.toNat * near.denominator) numerator
  else
    compare (digits * near.denominator) (numerator * tenTo (-unit).toNat)

/-- A grid point that rounds to the value. -/
def holds
    (near : Neighbourhood)
    (digits : Nat)
    (unit : Int) :
    Bool :=
  match near.compareGrid digits unit near.lower, near.compareGrid digits unit near.upper with
  | .gt, .lt => true
  | .eq, _ | _, .eq => near.closed
  | _, _ => false

/-- The largest grid point not above the value. -/
def floorGrid
    (near : Neighbourhood)
    (unit : Int) :
    Nat :=
  if 0 ≤ unit then
    near.value / (near.denominator * tenTo unit.toNat)
  else
    near.value * tenTo (-unit).toNat / near.denominator

/-- The upper of two neighbouring grid points is nearer to the value. -/
def upperIsNearer
    (near : Neighbourhood)
    (digits : Nat)
    (unit : Int) :
    Bool :=
  match near.compareGrid (2 * digits + 1) unit (2 * near.value) with
  | .lt => true
  | .eq => digits % 2 == 1
  | .gt => false

/-- The point position of the value: it lies below ten to the `point` and not a place lower. -/
def pointFrom
    (near : Neighbourhood)
    (point : Int) :
    Nat →
    Int
  | 0 => point
  | steps + 1 =>
      if near.compareGrid 1 (point - 1) near.value == .gt then
        pointFrom near (point - 1) steps
      else
        point

/-- Search the grids of `count`, `count + 1`, … digits for a point that rounds to the value. -/
def searchGrids
    (near : Neighbourhood)
    (point : Int)
    (count : Nat) :
    Nat →
    Decimal
  | 0 => { digits := near.floorGrid (point - count), point := point }
  | steps + 1 =>
      let unit := point - count
      let low := near.floorGrid unit
      let chosen :=
        match near.holds low unit, near.holds (low + 1) unit with
        | true, true => some (if near.upperIsNearer low unit then low + 1 else low)
        | true, false => some low
        | false, true => some (low + 1)
        | false, false => none
      match chosen with
      | none => searchGrids near point (count + 1) steps
      | some digits =>
          if digits == tenTo count then
            { digits := 1, point := point + 1 }
          else
            { digits := digits, point := point }

end Neighbourhood

/-- The shortest decimal of a positive double. -/
def shortest
    (significand : Nat)
    (exponent : Int) :
    Decimal :=
  let near := Neighbourhood.ofDouble significand exponent
  let point := near.pointFrom 310 640
  near.searchGrids point 1 17

end Reactivity.Number
