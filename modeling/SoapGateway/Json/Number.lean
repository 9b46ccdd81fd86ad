import SoapGateway.Json.Fault
import SoapGateway.Number.Shortest

/-!
# JSON numbers

Reading a number, either for its value or only to pass over it. Whole numbers of 64 bits are exact.
Anything else becomes a binary number: as many leading digits as fit into 64 bits, times or divided
by a power of ten, each step rounded to the nearest.
-/
namespace SoapGateway.Json

open SoapGateway.Number (Binary64 twoPow)

inductive Number where
  | whole (n : Int)
  | binary (negative : Bool) (x : Binary64)
  deriving DecidableEq, Repr

namespace Number

/-- How a message shows a number that is out of place. -/
def shown : Number → String
  | whole n => "integer `" ++ Text.ofInt n ++ "`"
  | binary negative x =>
    "floating point `" ++ (if negative then "-" else "") ++
      (SoapGateway.Number.Shortest.ofBinary x).general ++ "`"

end Number

def isDigitByte (b : UInt8) : Bool := 0x30 ≤ b && b ≤ 0x39

def digitOf (b : UInt8) : Nat := b.toNat - 0x30

def maxWord : Nat := twoPow 64 - 1

def powerOfTen (e : Nat) : Binary64 := (Binary64.ofScientific 1 e).getD Binary64.zero

/-- `x * 10 ^ e`, in steps of at most `10 ^ 308`; `none` when it grows too large. -/
def scale (x : Binary64) (e : Int) : Nat → Option Binary64
  | 0 => some x
  | n + 1 =>
    if e.natAbs ≤ 308 then
      if 0 ≤ e then x.mul (powerOfTen e.natAbs) else x.div (powerOfTen e.natAbs)
    else if x.mantissa = 0 then some x
    else if 0 ≤ e then none
    else match x.div (powerOfTen 308) with
      | some y => scale y (e + 308) n
      | none => none

/-- The binary number with the given leading digits and decimal exponent. -/
def binaryOf (negative : Bool) (significand : Nat) (e : Int) (rest : List UInt8) :
    Except Fault (Number × List UInt8) :=
  match (Binary64.ofRatio significand 1).bind (scale · e (e.natAbs / 308 + 2)) with
  | some x => .ok (.binary negative x, rest)
  | none => failHere .numberOutOfRange rest

/-- Adds digits to `n` while the sum stays within `limit`; what remains may begin with a digit. -/
def takeDigits (limit n : Nat) : List UInt8 → Nat × List UInt8
  | [] => (n, [])
  | b :: rest =>
    if isDigitByte b ∧ n * 10 + digitOf b ≤ limit then takeDigits limit (n * 10 + digitOf b) rest
    else (n, b :: rest)

def skipDigits (input : List UInt8) : List UInt8 := input.dropWhile isDigitByte

def startsWithDigit : List UInt8 → Bool
  | [] => false
  | b :: _ => isDigitByte b

/-- Splits off an optional sign; `true` means minus. -/
def takeSign : List UInt8 → Bool × List UInt8
  | 0x2B :: rest => (false, rest)
  | 0x2D :: rest => (true, rest)
  | rest => (false, rest)

def readExponent (negative : Bool) (significand : Nat) (start : Int) (input : List UInt8) :
    Except Fault (Number × List UInt8) :=
  let (minus, rest) := takeSign input
  match rest with
  | [] => failHere .unfinishedValue []
  | b :: rest =>
    if isDigitByte b then
      let (e, rest) := takeDigits (twoPow 31 - 1) (digitOf b) rest
      if startsWithDigit rest then
        if significand ≠ 0 ∧ minus = false then failHere .numberOutOfRange (rest.drop 1)
        else .ok (.binary negative Binary64.zero, skipDigits rest)
      else binaryOf negative significand (if minus then start - e else start + e) rest
    else failHere .invalidNumber rest

def readTail (negative : Bool) (significand : Nat) (e : Int) (input : List UInt8) :
    Except Fault (Number × List UInt8) :=
  match input with
  | 0x65 :: rest => readExponent negative significand e rest
  | 0x45 :: rest => readExponent negative significand e rest
  | rest => binaryOf negative significand e rest

def readFraction (negative : Bool) (significand : Nat) (e : Int) (input : List UInt8) :
    Except Fault (Number × List UInt8) :=
  let (n, rest) := takeDigits maxWord significand input
  let places := input.length - rest.length
  if startsWithDigit rest then readTail negative n (e - places) (skipDigits rest)
  else if places = 0 then
    match rest with
    | [] => failNext .unfinishedValue []
    | rest => failNext .invalidNumber rest
  else readTail negative n (e - places) rest

/-- Reads a number; the minus sign, if there was one, has been read. -/
def readNumber (negative : Bool) (input : List UInt8) : Except Fault (Number × List UInt8) :=
  let finish (significand : Nat) (rest : List UInt8) : Except Fault (Number × List UInt8) :=
    match rest with
    | 0x2E :: rest => readFraction negative significand 0 rest
    | 0x65 :: rest => readExponent negative significand 0 rest
    | 0x45 :: rest => readExponent negative significand 0 rest
    | rest =>
      if negative = false then .ok (.whole significand, rest)
      else if significand = 0 ∨ twoPow 63 < significand then binaryOf true significand 0 rest
      else .ok (.whole (-significand), rest)
  match input with
  | [] => failHere .unfinishedValue []
  | 0x30 :: rest => if startsWithDigit rest then failNext .invalidNumber rest else finish 0 rest
  | b :: rest =>
    if isDigitByte b then
      let (n, rest) := takeDigits maxWord (digitOf b) rest
      if startsWithDigit rest then
        -- Digits beyond 64 bits only count.
        let after := skipDigits rest
        let e : Int := (rest.length - after.length : Nat)
        match after with
        | 0x2E :: rest => readFraction negative n e rest
        | rest => readTail negative n e rest
      else finish n rest
    else failHere .invalidNumber rest

/-- Passes over an exponent after its letter. -/
def skipExponent (input : List UInt8) : Except Fault (List UInt8) :=
  match (takeSign input).2 with
  | [] => failHere .invalidNumber []
  | b :: rest => if isDigitByte b then .ok (skipDigits rest) else failHere .invalidNumber rest

def skipFractionAndExponent (input : List UInt8) : Except Fault (List UInt8) :=
  match input with
  | 0x2E :: rest =>
    if startsWithDigit rest then
      match skipDigits rest with
      | 0x65 :: rest => skipExponent rest
      | 0x45 :: rest => skipExponent rest
      | rest => .ok rest
    else failNext .invalidNumber rest
  | 0x65 :: rest => skipExponent rest
  | 0x45 :: rest => skipExponent rest
  | rest => .ok rest

/-- Passes over a number after its sign. -/
def skipNumber (input : List UInt8) : Except Fault (List UInt8) :=
  match input with
  | [] => failHere .invalidNumber []
  | 0x30 :: rest =>
    if startsWithDigit rest then failNext .invalidNumber rest else skipFractionAndExponent rest
  | b :: rest =>
    if isDigitByte b then skipFractionAndExponent (skipDigits rest)
    else failHere .invalidNumber rest

end SoapGateway.Json
