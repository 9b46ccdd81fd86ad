import SoapGateway.Text.Decimal
import SoapGateway.Text.Utf8

/-!
# Percent escapes

An octet may be written as a percent sign and two hexadecimal digits. Decoding keeps what is no
escape; encoding escapes every octet of the characters that a predicate picks.
-/
namespace SoapGateway.Text

def percentDecode : List UInt8 → List UInt8
  | [] => []
  | 0x25 :: a :: b :: rest =>
    match hexValue? (Char.ofNat a.toNat), hexValue? (Char.ofNat b.toNat) with
    | some x, some y => UInt8.ofNat (x * 16 + y) :: percentDecode rest
    | _, _ => 0x25 :: percentDecode (a :: b :: rest)
  | b :: rest => b :: percentDecode rest

def upperHexChar (d : Nat) : Char :=
  if d < 10 then Char.ofNat (48 + d) else Char.ofNat (55 + d % 16)

def percentByte (b : UInt8) : List Char :=
  ['%', upperHexChar (b.toNat / 16), upperHexChar (b.toNat % 16)]

/-- Escapes the characters for which `p` holds. -/
def percentEncode (p : Char → Bool) (s : List Char) : List Char :=
  s.flatMap fun c => if p c then (Utf8.encode [c]).flatMap percentByte else [c]

end SoapGateway.Text
