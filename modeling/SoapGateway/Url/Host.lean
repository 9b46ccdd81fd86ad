import SoapGateway.Idna.Domain
import SoapGateway.Number.Power
import SoapGateway.Text.Percent

/-!
# Hosts

The host of a URL: a domain name in ASCII, an IPv4 or IPv6 address, or an opaque text where the
scheme has no special rules. A name whose last label is a number has to be an IPv4 address, whose
numbers may be written in three systems.
-/
namespace SoapGateway.Url

inductive Fault where
  | relative
  | emptyHost
  | port
  | ipv6
  | ipv4
  /-- A name that cannot be sent. -/
  | domain
  /-- A character that no host may have. -/
  | hostCharacter
  deriving DecidableEq, Repr

def Fault.message : Fault → String
  | relative => "relative URL without a base"
  | emptyHost => "empty host"
  | port => "invalid port number"
  | ipv6 => "invalid IPv6 address"
  | ipv4 => "invalid IPv4 address"
  | domain => "invalid international domain name"
  | hostCharacter => "invalid domain character"

inductive Host where
  /-- No host, though the URL has a place for one. -/
  | empty
  | name (s : List Char)
  | ipv4 (address : Nat)
  | ipv6 (groups : List Nat)
  deriving DecidableEq, Repr

open SoapGateway.Text (isDigit hexValue? valueOf splitAll)

def isForbiddenInHost (c : Char) : Bool :=
  ['\x00', '\t', '\n', '\r', ' ', '#', '/', ':', '<', '>', '?', '@', '[', '\\', ']', '^',
    '|'].contains c

/-- Characters that no domain name may have: those, the percent sign and all controls. -/
def isForbiddenInName (c : Char) : Bool :=
  isForbiddenInHost c || c.toNat ≤ 0x20 || c == '%' || c.toNat == 0x7F

/-- The base of a number of an IPv4 address and its digits: hexadecimal after `0x`, octal after
another zero, else decimal. -/
def numeral : List Char → Nat × List Char
  | '0' :: 'x' :: rest => (16, rest)
  | '0' :: 'X' :: rest => (16, rest)
  | '0' :: c :: rest => (8, c :: rest)
  | s => (10, s)

/-- A number of an IPv4 address. No digits after the sign of a base are zero. -/
def ipv4Number? (s : List Char) : Option Nat :=
  let (base, ds) := numeral s
  if s.isEmpty then none
  else if ds.all fun c => (hexValue? c).any (· < base) then some (valueOf base ds)
  else none

/-- Whether the last label of a name, empty ones aside, is a number. -/
def endsInNumber (s : List Char) : Bool :=
  let last := match (splitAll '.' s).reverse with
    | [] :: before :: _ => before
    | last :: _ => last
    | [] => []
  (!last.isEmpty && last.all isDigit) || (ipv4Number? last).isSome

/-- The address that numbers write: all but the last stand for one octet each. -/
def ipv4OfNumbers (numbers : List Nat) : Except Fault Nat :=
  match numbers.reverse with
  | [] => .error .ipv4
  | last :: before =>
    let n := before.length
    if 3 < n ∨ Number.twoPow (8 * (4 - n)) ≤ last ∨ before.any (255 < ·) then .error .ipv4
    else .ok (before.reverse.foldl (fun sum x => sum * 256 + x) 0 * Number.twoPow (8 * (4 - n)) + last)

def allNumbers : List (List Char) → Option (List Nat)
  | [] => some []
  | s :: rest =>
    match ipv4Number? s, allNumbers rest with
    | some n, some ns => some (n :: ns)
    | _, _ => none

/-- Reads an IPv4 address. A point may stand at its end. -/
def ipv4Of (s : List Char) : Except Fault Nat :=
  let parts := splitAll '.' s
  let parts := if parts.getLast? = some [] then parts.dropLast else parts
  match allNumbers parts with
  | some numbers => ipv4OfNumbers numbers
  | none => .error .ipv4

/-- Two groups from the four octets of an IPv4 address, which are plain decimal numbers. -/
def ipv4Groups? (s : List Char) : Option (List Nat) :=
  let octet? (p : List Char) : Option Nat :=
    if p.isEmpty || !p.all isDigit || (1 < p.length && p.head? == some '0') then none
    else if valueOf 10 p ≤ 255 then some (valueOf 10 p) else none
  match (splitAll '.' s).map octet? with
  | [some a, some b, some c, some d] => some [a * 256 + b, c * 256 + d]
  | _ => none

def ipv6Group? (s : List Char) : Option Nat :=
  if s.isEmpty || 4 < s.length || !s.all (fun c => (hexValue? c).isSome) then none
  else some (valueOf 16 s)

/-- Groups with colons between them; the last two may be written as an IPv4 address. -/
def ipv6Groups? : List (List Char) → Option (List Nat)
  | [] => some []
  | [s] => if s.contains '.' then ipv4Groups? s else (ipv6Group? s).map fun n => [n]
  | s :: rest =>
    match ipv6Group? s, ipv6Groups? rest with
    | some n, some ns => some (n :: ns)
    | _, _ => none

/-- Groups of a part of an address, which may be empty. -/
def ipv6Part? (s : List Char) : Option (List Nat) :=
  if s.isEmpty then some [] else ipv6Groups? (splitAll ':' s)

/-- Reads an IPv6 address. A double colon stands for one group of zeros at least. -/
def ipv6Of (s : List Char) : Except Fault (List Nat) :=
  match Text.pieces "::".toList s with
  | [whole] =>
    match ipv6Groups? (splitAll ':' whole) with
    | some groups => if groups.length = 8 then .ok groups else .error .ipv6
    | none => .error .ipv6
  | [before, after] =>
    match ipv6Part? before, ipv6Part? after with
    | some a, some b =>
      if before.contains '.' ∨ 8 ≤ a.length + b.length then .error .ipv6
      else .ok (a ++ List.replicate (8 - a.length - b.length) 0 ++ b)
    | _, _ => .error .ipv6
  | _ => .error .ipv6

/-- Reads what stands between brackets and the closing one. -/
def bracketed (s : List Char) : Except Fault Host :=
  if s.getLast? = some ']' then (ipv6Of s.dropLast).map .ipv6 else .error .ipv6

def Host.ofSpecial : List Char → Except Fault Host
  | '[' :: rest => bracketed rest
  | s =>
    let decoded := Utf8.decode? (Text.percentDecode (Utf8.encode s))
    match decoded.bind fun t => Idna.toAscii? t.toList with
    | none => .error .domain
    | some sent =>
      if sent.any isForbiddenInName then .error .domain
      else if sent.isEmpty then .error .emptyHost
      else if endsInNumber sent then (ipv4Of sent).map .ipv4
      else .ok (.name sent)

/-- Octets that are escaped wherever they stand: controls and all beyond ASCII. -/
def isControl (c : Char) : Bool := c.toNat < 0x20 || 0x7E < c.toNat

def Host.ofOpaque : List Char → Except Fault Host
  | [] => .ok .empty
  | '[' :: rest => bracketed rest
  | s =>
    if s.any isForbiddenInHost then .error .hostCharacter
    else .ok (.name (Text.percentEncode isControl s))

def ipv4Text (n : Nat) : List Char :=
  Text.digits (n / Number.twoPow 24) ++ '.' :: Text.digits (n / Number.twoPow 16 % 256) ++ '.' ::
    Text.digits (n / Number.twoPow 8 % 256) ++ '.' :: Text.digits (n % 256)

/-- Length and place of the first of the longest runs of zeros. -/
def longestZeros (place : Nat) : List Nat → Nat × Nat
  | [] => (0, place)
  | g :: rest =>
    let here := ((g :: rest).takeWhile (· == 0)).length
    let later := longestZeros (place + 1) rest
    if later.1 ≤ here then (here, place) else later

def groupsText : List Nat → List Char
  | [] => []
  | [g] => Text.hexDigits g
  | g :: rest => Text.hexDigits g ++ ':' :: groupsText rest

/-- The text of an IPv6 address, in which the first of the longest runs of at least two zeros is
left out. -/
def ipv6Text (groups : List Nat) : List Char :=
  let (length, place) := longestZeros 0 groups
  if length < 2 then groupsText groups
  else groupsText (groups.take place) ++ "::".toList ++ groupsText (groups.drop (place + length))

def Host.text : Host → List Char
  | empty => []
  | name s => s
  | ipv4 n => ipv4Text n
  | ipv6 groups => '[' :: ipv6Text groups ++ [']']

end SoapGateway.Url
