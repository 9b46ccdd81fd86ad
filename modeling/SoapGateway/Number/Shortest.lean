import SoapGateway.Text.Decimal
import SoapGateway.Number.Binary64

/-!
# Shortest decimal text

The fewest digits that read back as a given binary number, and of those the nearest to it; then the
two layouts in which messages show such digits. A decimal reads back when it lies between the
midpoints to the neighbouring numbers, the midpoints included when the mantissa is even.
-/
namespace SoapGateway.Number

/-- Digits `d₁d₂…` with the value `0.d₁d₂… * 10 ^ point`. -/
structure DecimalDigits where
  digits : List Char
  point : Int
  deriving DecidableEq, Repr

namespace Shortest

/-- Whether the decimal `n * 10 ^ k` reads back as the positive number `x`. -/
def readsBack (x : Binary64) (n : Nat) (k : Int) : Bool :=
  -- All quantities are scaled by `4 * 2 ^ -exponent`, or by the powers that clear denominators.
  let (ten, tenDen) := powerRatio 10 k
  let (two, twoDen) := powerRatio 2 x.exponent
  let value := 4 * n * ten * twoDen
  let lowGap := if x.mantissa = twoPow 52 ∧ x.exponent > -1074 then 1 else 2
  let low := (4 * x.mantissa - lowGap) * two * tenDen
  let high := (4 * x.mantissa + 2) * two * tenDen
  if x.mantissa % 2 = 0 then low ≤ value ∧ value ≤ high else low < value ∧ value < high

/-- Whether `10 ^ e` is at most the positive number `x`. -/
def powAtMost (x : Binary64) (e : Int) : Bool :=
  let (num, den) := x.ratio
  let (p, r) := powerRatio 10 e
  p * den ≤ num * r

/-- The largest `e` at or below `start` for which `10 ^ e` is at most `x`. -/
def floorLogTen (x : Binary64) (start : Int) : Nat → Int
  | 0 => start
  | n + 1 => if powAtMost x start then start else floorLogTen x (start - 1) n

/-- The decimal with unit `10 ^ k` that reads back as `x` and is nearest to it, if there is one. -/
def onGrid (x : Binary64) (k : Int) : Option Nat :=
  let (num, den) := x.ratio
  let (p, r) := powerRatio 10 k
  let (a, b) := (num * r, den * p)
  let d := a / b
  let rest := a % b
  match readsBack x d k, readsBack x (d + 1) k with
  | true, true => some (if 2 * rest < b ∨ (2 * rest = b ∧ d % 2 = 0) then d else d + 1)
  | true, false => some d
  | false, true => some (d + 1)
  | false, false => none

/-- Tries grids of more and more places; `e` is the power of ten of the leading digit. -/
def search (x : Binary64) (e : Int) (places : Nat) : Nat → DecimalDigits
  | 0 => ⟨['0'], 1⟩
  | n + 1 =>
    let k := e - places
    match onGrid x k with
    | some d =>
      let ds := Text.digits d
      ⟨((ds.reverse.dropWhile (· == '0')).reverse), k + ds.length⟩
    | none => search x e (places + 1) n

def ofBinary (x : Binary64) : DecimalDigits :=
  if x.mantissa = 0 then ⟨['0'], 1⟩
  else
    let (num, den) := x.ratio
    let guess : Int := ((num.log2 : Int) - den.log2) * 30103 / 100000 + 2
    search x (floorLogTen x guess 8) 0 18

end Shortest

namespace DecimalDigits

/-- Positional text with at least one digit on both sides of the point. -/
def positional (d : DecimalDigits) : String :=
  let n := d.digits.length
  if d.point ≤ 0 then
    String.ofList ("0.".toList ++ List.replicate (-d.point).toNat '0' ++ d.digits)
  else if d.point.toNat < n then
    String.ofList (d.digits.take d.point.toNat ++ '.' :: d.digits.drop d.point.toNat)
  else
    String.ofList (d.digits ++ List.replicate (d.point.toNat - n) '0' ++ ".0".toList)

/-- Text that is positional from `1e-5` to below `1e16`, and has a signed exponent elsewhere. -/
def general (d : DecimalDigits) : String :=
  if -5 < d.point ∧ d.point ≤ 16 then d.positional
  else
    let e := d.point - 1
    let mark := if e < 0 then "e-" else "e+"
    let head := match d.digits with
      | [] => "0"
      | [c] => String.singleton c
      | c :: rest => String.ofList (c :: '.' :: rest)
    head ++ mark ++ Text.ofNat e.natAbs

end DecimalDigits

end SoapGateway.Number
