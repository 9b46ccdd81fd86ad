/-!
# Whole numbers in decimal

Digits of natural numbers and integers, padding to a width, and reading digits back.
-/
namespace SoapGateway.Text

def digitChar (d : Nat) : Char := Char.ofNat (48 + d % 10)

def digitValue? (c : Char) : Option Nat :=
  if '0' ≤ c ∧ c ≤ '9' then some (c.toNat - 48) else none

def hexValue? (c : Char) : Option Nat :=
  if '0' ≤ c ∧ c ≤ '9' then some (c.toNat - 48)
  else if 'a' ≤ c ∧ c ≤ 'f' then some (c.toNat - 87)
  else if 'A' ≤ c ∧ c ≤ 'F' then some (c.toNat - 55)
  else none

def isDigit (c : Char) : Bool := (digitValue? c).isSome

/-- Decimal digits of a number, most significant first, without leading zeros. -/
def digits (n : Nat) : List Char :=
  if n < 10 then [digitChar n] else digits (n / 10) ++ [digitChar n]
termination_by n
decreasing_by omega

def ofNat (n : Nat) : String := String.ofList (digits n)

def ofInt (n : Int) : String :=
  if n < 0 then "-" ++ ofNat n.natAbs else ofNat n.natAbs

/-- Fills a text up to `width` characters on the left. -/
def padLeft (fill : Char) (width : Nat) (s : List Char) : List Char :=
  List.replicate (width - s.length) fill ++ s

/-- Digits of a number with leading zeros up to `width` places. -/
def padded (width n : Nat) : String := String.ofList (padLeft '0' width (digits n))

/-- The number that a run of digits writes in a base; a foreign character counts as zero. -/
def valueOf (base : Nat) (s : List Char) : Nat :=
  s.foldl (fun n c => n * base + (hexValue? c).getD 0) 0

def readNat? (s : List Char) : Option Nat :=
  if s.isEmpty || !s.all isDigit then none else some (valueOf 10 s)

def hexChar (d : Nat) : Char := if d < 10 then Char.ofNat (48 + d) else Char.ofNat (87 + d % 16)

def hexDigits (n : Nat) : List Char :=
  if n < 16 then [hexChar n] else hexDigits (n / 16) ++ [hexChar (n % 16)]
termination_by n
decreasing_by omega

end SoapGateway.Text
