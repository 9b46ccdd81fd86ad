/-!
# Powers

Powers of whole numbers: how many words have a number of bits, and powers with exponents of either
sign as fractions.
-/
namespace SoapGateway.Number

/-- How many words have `bits` bits. -/
def twoPow (bits : Nat) : Nat := Nat.pow 2 bits

/-- Numerator and denominator of `base ^ e`. -/
def powerRatio (base : Nat) (e : Int) : Nat × Nat :=
  if 0 ≤ e then (Nat.pow base e.toNat, 1) else (1, Nat.pow base (-e).toNat)

end SoapGateway.Number
