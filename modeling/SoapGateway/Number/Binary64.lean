import SoapGateway.Number.Power

/-!
# Binary floating point

Non-negative finite numbers of the 64-bit binary format, as a whole number times a power of two, and
rounding of an exact quotient to the nearest of them, ties to even. Arithmetic on them is exact
arithmetic followed by this rounding.
-/
namespace SoapGateway.Number

/-- The number `mantissa * 2 ^ exponent`. -/
structure Binary64 where
  mantissa : Nat
  exponent : Int
  deriving DecidableEq, Repr

namespace Binary64

def zero : Binary64 := ⟨0, -1074⟩

/-- `a / b` rounded to the nearest whole number, ties to even. -/
def roundDiv (a b : Nat) : Nat :=
  let q := a / b
  let r := a % b
  if 2 * r < b then q else if b < 2 * r then q + 1 else if q % 2 = 0 then q else q + 1

def atLeastPow (num den : Nat) (e : Int) : Bool :=
  let (p, r) := powerRatio 2 e
  den * p ≤ num * r

def floorLog (num den : Nat) : Int :=
  let e : Int := (num.log2 : Int) - den.log2
  if atLeastPow num den e then e else e - 1

/-- The nearest number to `num / den`, or `none` when that is beyond the largest one. -/
def ofRatio (num den : Nat) : Option Binary64 :=
  if num = 0 then some zero
  else
    let q : Int := max (floorLog num den - 52) (-1074)
    let (p, r) := powerRatio 2 q
    let m := roundDiv (num * r) (den * p)
    let x : Binary64 := if m = twoPow 53 then ⟨twoPow 52, q + 1⟩ else ⟨m, q⟩
    if x.exponent > 971 then none else some x

def ratio (x : Binary64) : Nat × Nat :=
  let (p, r) := powerRatio 2 x.exponent
  (x.mantissa * p, r)

def mul (x y : Binary64) : Option Binary64 :=
  ofRatio (x.ratio.1 * y.ratio.1) (x.ratio.2 * y.ratio.2)

def div (x y : Binary64) : Option Binary64 :=
  ofRatio (x.ratio.1 * y.ratio.2) (x.ratio.2 * y.ratio.1)

/-- The nearest number to `n * 10 ^ e`. -/
def ofScientific (n : Nat) (e : Int) : Option Binary64 :=
  let (p, r) := powerRatio 10 e
  ofRatio (n * p) r

end Binary64

end SoapGateway.Number
