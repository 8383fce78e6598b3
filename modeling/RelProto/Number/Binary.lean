/-! Binary numbers, which a finite floating-point number is without loss. -/
namespace RelProto

/-- The number `significand * 2 ^ exponent`, negated if so marked. -/
structure Binary where
  negative : Bool
  significand : Nat
  exponent : Int
  deriving DecidableEq

namespace Binary

def ofInt (n : Int) : Binary := ⟨n < 0, n.natAbs, 0⟩

/-- How wide the parts of a floating-point number are. A sign comes before them. -/
structure Format where
  exponentWidth : Nat
  fractionWidth : Nat
  deriving DecidableEq

namespace Format

def single : Format := ⟨8, 23⟩
def double : Format := ⟨11, 52⟩

/-- The exponent of the numbers next to zero. -/
def leastExponent (format : Format) : Int :=
  2 - Nat.pow 2 (format.exponentWidth - 1) - format.fractionWidth

end Format

/-- The value of a finite number, by its bits. -/
def ofBits? (format : Format) (bits : Nat) : Option Binary :=
  let fractions := Nat.pow 2 format.fractionWidth
  let exponents := Nat.pow 2 format.exponentWidth
  let exponent : Nat := bits / fractions % exponents
  let negative := exponents * fractions ≤ bits
  if exponent = exponents - 1 then none
  else if exponent = 0 then some ⟨negative, bits % fractions, format.leastExponent⟩
  else some ⟨negative, fractions + bits % fractions, format.leastExponent + exponent - 1⟩

def ofFloat? (x : Float) : Option Binary := ofBits? .double x.toBits.toNat

def ofFloat32? (x : Float32) : Option Binary := ofBits? .single x.toBits.toNat

/-- The number as a multiple of `2 ^ unit`, where `unit` is not above the exponent. -/
def multiple (x : Binary) (unit : Int) : Int :=
  (if x.negative then -1 else 1) * (x.significand * Nat.pow 2 (x.exponent - unit).toNat : Nat)

/-- Compares by value. -/
def order (x y : Binary) : Ordering :=
  let unit := min x.exponent y.exponent
  compare (x.multiple unit) (y.multiple unit)

end Binary

end RelProto
