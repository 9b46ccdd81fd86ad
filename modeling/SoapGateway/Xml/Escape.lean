import SoapGateway.Number.Power
import SoapGateway.Text.Decimal
import SoapGateway.Text.Utf8

/-!
# Escaped text

Writing character data and attribute values, and reading references back. A reference is `&name;`
with one of the five predefined names, or `&#n;` or `&#xn;` for a code point.
-/
namespace SoapGateway.Xml

def escapeTextChar (c : Char) : List Char :=
  if c = '<' then "&lt;".toList
  else if c = '>' then "&gt;".toList
  else if c = '&' then "&amp;".toList
  else [c]

/-- A character of an attribute value between double quotes. -/
def escapeAttributeChar (c : Char) : List Char :=
  if c = '"' then "&quot;".toList else escapeTextChar c

def escapeText (s : List Char) : List Char := s.flatMap escapeTextChar

def escapeAttribute (s : List Char) : List Char := s.flatMap escapeAttributeChar

inductive EscapeFault where
  | unknownEntity (start stop : Nat) (name : String)
  | unterminated (start stop : Nat)
  | nullCharacter
  | noCodepoint (n : Nat)
  | signedNumber
  | emptyNumber
  | badDigit
  | numberTooLarge
  deriving DecidableEq, Repr

def EscapeFault.message : EscapeFault → String
  | unknownEntity start stop name =>
    "at " ++ Text.ofNat start ++ ".." ++ Text.ofNat stop ++ ": unrecognized entity `" ++ name ++ "`"
  | unterminated start stop =>
    "Error while escaping character at range " ++ Text.ofNat start ++ ".." ++ Text.ofNat stop ++
      ": Cannot find ';' after '&'"
  | nullCharacter => "invalid character reference: 0x0 character is not permitted in XML"
  | noCodepoint n =>
    "invalid character reference: `" ++ Text.ofNat n ++ "` is not a valid codepoint"
  | signedNumber => "invalid character reference: unexpected number sign"
  | emptyNumber => "invalid character reference: cannot parse integer from empty string"
  | badDigit => "invalid character reference: invalid digit found in string"
  | numberTooLarge => "invalid character reference: number too large to fit in target type"

/-- Adds digits in a base to `n`; the number has to fit 32 bits. -/
def readDigits (base n : Nat) : List Char → Except EscapeFault Nat
  | [] => .ok n
  | c :: rest =>
    match Text.hexValue? c with
    | some d =>
      if base ≤ d then .error .badDigit
      else if n * base + d < Number.twoPow 32 then readDigits base (n * base + d) rest
      else .error .numberTooLarge
    | none => .error .badDigit

def readBase (base : Nat) (s : List Char) : Except EscapeFault Nat :=
  match s with
  | [] => .error .emptyNumber
  | c :: rest =>
    if c = '+' ∨ c = '-' then .error .signedNumber else readDigits base 0 (c :: rest)

/-- The character that the number after `&#` stands for. -/
def characterReference (s : List Char) : Except EscapeFault Char :=
  let number := match s with
    | 'x' :: hex => readBase 16 hex
    | s => readBase 10 s
  match number with
  | .error e => .error e
  | .ok n =>
    if n = 0 then .error .nullCharacter
    else if n.isValidChar then .ok (Char.ofNat n)
    else .error (.noCodepoint n)

def entity? (name : List Char) : Option Char :=
  [("lt", '<'), ("gt", '>'), ("amp", '&'), ("apos", '\''), ("quot", '"')].lookup
    (String.ofList name)

/-- The character that a reference stands for; `offset` is where its name begins. -/
def reference (offset : Nat) (name : List Char) : Except EscapeFault Char :=
  match name with
  | '#' :: number => characterReference number
  | name =>
    match entity? name with
    | some c => .ok c
    | none => .error (.unknownEntity offset (offset + Utf8.octets name) (String.ofList name))

/-- Replaces the references of a text; `offset` octets of it have been read. -/
def unescapeFrom (offset : Nat) (acc : List Char) : Nat → List Char → Except EscapeFault (List Char)
  | 0, _ => .ok acc.reverse
  | _ + 1, [] => .ok acc.reverse
  | n + 1, c :: rest =>
    if c ≠ '&' then unescapeFrom (offset + c.utf8Size) (c :: acc) n rest
    else
      let inside := fun d => d != '&' && d != ';'
      let name := rest.takeWhile inside
      match rest.dropWhile inside with
      | ';' :: after =>
        match reference (offset + 1) name with
        | .error e => .error e
        | .ok d => unescapeFrom (offset + Utf8.octets name + 2) (d :: acc) n after
      | _ => .error (.unterminated offset (offset + Utf8.octets (c :: rest)))

def unescape (s : List Char) : Except EscapeFault (List Char) := unescapeFrom 0 [] s.length s

end SoapGateway.Xml
