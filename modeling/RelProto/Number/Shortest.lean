import RelProto.Number.Binary

/-! The shortest decimal that reads back as a given floating-point number. Decimals of more and more
digits are tried: of each number of digits, the two next to the value. -/
namespace RelProto

/-- The number `digits * 10 ^ exponent`. -/
structure Decimal where
  digits : Nat
  exponent : Int
  deriving DecidableEq

/-- A rational number that is not negative. -/
structure Ratio where
  numerator : Nat
  denominator : Nat

namespace Ratio

/-- The number `n * base ^ exponent`. -/
def ofPower (n base : Nat) (exponent : Int) : Ratio :=
  ⟨n * Nat.pow base exponent.toNat, Nat.pow base (-exponent).toNat⟩

def le (x y : Ratio) : Bool := x.numerator * y.denominator ≤ y.numerator * x.denominator

def lt (x y : Ratio) : Bool := !y.le x

/-- The largest multiple of `10 ^ exponent` that is not above the number, in these units. -/
def floorAt (x : Ratio) (exponent : Int) : Nat :=
  x.numerator * Nat.pow 10 (-exponent).toNat / (x.denominator * Nat.pow 10 exponent.toNat)

/-- How many digits a positive number has before the point. It is negative for the zeros that follow
the point. No number is smaller than `10 ^ -400`. -/
def magnitude (x : Ratio) : Int :=
  (toString (x.floorAt (-400))).length - 400

end Ratio

def Decimal.toRatio (x : Decimal) : Ratio := .ofPower x.digits 10 x.exponent

/-- The real numbers that round to a floating-point number. The ends belong to it if the significand
is even. -/
structure RoundingInterval where
  lower : Ratio
  value : Ratio
  upper : Ratio
  closed : Bool

namespace RoundingInterval

/-- The gap below a power of two is half as wide as the one above. -/
def of (format : Binary.Format) (x : Binary) : RoundingInterval :=
  let isPower := x.significand = Nat.pow 2 format.fractionWidth
  let lower := if isPower && format.leastExponent < x.exponent then 1 else 2
  let at4 (n : Nat) := Ratio.ofPower n 2 (x.exponent - 2)
  ⟨at4 (4 * x.significand - lower), at4 (4 * x.significand), at4 (4 * x.significand + 2),
   x.significand % 2 = 0⟩

def contains (interval : RoundingInterval) (x : Ratio) : Bool :=
  if interval.closed then interval.lower.le x && x.le interval.upper
  else interval.lower.lt x && x.lt interval.upper

/-- Whether the multiple `n + 1` of a power of ten is nearer to the value than `n`. -/
def prefersAbove (interval : RoundingInterval) (n : Nat) (exponent : Int) : Bool :=
  (Ratio.ofPower (2 * n + 1) 10 exponent).le
    ⟨2 * interval.value.numerator, interval.value.denominator⟩

/-- A decimal of this exponent in the interval, the one nearest to the value. -/
def decimalAt? (interval : RoundingInterval) (exponent : Int) : Option Decimal :=
  let n := interval.value.floorAt exponent
  let below : Decimal := ⟨n, exponent⟩
  let above : Decimal := ⟨n + 1, exponent⟩
  match interval.contains below.toRatio, interval.contains above.toRatio with
  | true, true => some (if interval.prefersAbove n exponent then above else below)
  | true, false => some below
  | false, true => some above
  | false, false => none

end RoundingInterval

/-- Leaves zeros at the end of the digits to the exponent. -/
def Decimal.trimmed (x : Decimal) : Decimal :=
  if _h : 0 < x.digits ∧ x.digits % 10 = 0 then trimmed ⟨x.digits / 10, x.exponent + 1⟩ else x
  termination_by x.digits
  decreasing_by omega

/-- The decimal of fewest digits that rounds to the absolute value of a number, and of those the
nearest. Seventeen digits are always enough. -/
def Binary.shortest (format : Binary.Format) (x : Binary) : Decimal :=
  if x.significand = 0 then ⟨0, 0⟩
  else
    let interval := RoundingInterval.of format x
    let magnitude := interval.value.magnitude
    let found := (List.range 17).findSome? fun n : Nat =>
      interval.decimalAt? (magnitude - (n + 1))
    (found.getD ⟨x.significand, 0⟩).trimmed

end RelProto
