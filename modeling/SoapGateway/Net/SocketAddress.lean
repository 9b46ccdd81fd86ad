import SoapGateway.Number.Power
import SoapGateway.Text.Decimal

/-!
# Socket addresses

The written form of an address to listen on: an IPv4 address, or an IPv6 address in brackets with
an optional scope, and a port. Each `skip` function drops one part from the front of a text, if the
text begins with such a part.
-/
namespace SoapGateway.Net

open SoapGateway.Text (isDigit hexValue? valueOf)

def skipChar (c : Char) : List Char → Option (List Char)
  | d :: rest => if d = c then some rest else none
  | [] => none

/-- Drops a decimal number that is at most `limit`. Leading zeros are allowed. -/
def skipNumber (limit : Nat) (s : List Char) : Option (List Char) :=
  let ds := s.takeWhile isDigit
  if ds.isEmpty ∨ limit < valueOf 10 ds then none else some (s.dropWhile isDigit)

/-- Drops one number of an IPv4 address, which has no leading zero. -/
def skipOctet (s : List Char) : Option (List Char) :=
  match s.takeWhile isDigit with
  | '0' :: _ :: _ => none
  | _ => skipNumber 255 s

def skipIpv4 (s : List Char) : Option (List Char) := do
  let s ← skipChar '.' (← skipOctet s)
  let s ← skipChar '.' (← skipOctet s)
  let s ← skipChar '.' (← skipOctet s)
  skipOctet s

/-- Drops one group of an IPv6 address: one to four hexadecimal digits. -/
def skipGroup (s : List Char) : Option (List Char) :=
  let ds := s.takeWhile fun c => (hexValue? c).isSome
  if ds.isEmpty ∨ 4 < ds.length then none else some (s.drop ds.length)

/-- Drops groups with colons between them, as many as there are up to `limit`. The last two may be
written as an IPv4 address. Returns how many groups were dropped, and whether an IPv4 address was
among them. -/
def skipGroups (first : Bool) : Nat → List Char → Nat × Bool × List Char
  | 0, s => (0, false, s)
  | limit + 1, s =>
    let item := if first then some s else skipChar ':' s
    match (if limit = 0 then none else item.bind skipIpv4) with
    | some rest => (2, true, rest)
    | none =>
      match item.bind skipGroup with
      | none => (0, false, s)
      | some rest =>
        let (n, ipv4, rest) := skipGroups false limit rest
        (n + 1, ipv4, rest)

/-- Drops an IPv6 address. A double colon stands for one group of zeros at least. -/
def skipIpv6 (s : List Char) : Option (List Char) :=
  match skipGroups true 8 s with
  | (8, _, rest) => some rest
  | (_, true, _) => none
  | (n, false, rest) =>
    ((skipChar ':' rest).bind (skipChar ':')).map fun rest => (skipGroups true (7 - n) rest).2.2

def skipScope (s : List Char) : List Char :=
  ((skipChar '%' s).bind (skipNumber (Number.twoPow 32 - 1))).getD s

def skipPort (s : List Char) : Option (List Char) :=
  (skipChar ':' s).bind (skipNumber (Number.twoPow 16 - 1))

def skipBracketed (s : List Char) : Option (List Char) := do
  let s ← skipIpv6 (← skipChar '[' s)
  skipChar ']' (skipScope s)

def isSocketAddress (s : String) : Bool :=
  let host := match s.toList with
    | '[' :: _ => skipBracketed s.toList
    | s => skipIpv4 s
  host.bind skipPort == some []

end SoapGateway.Net
