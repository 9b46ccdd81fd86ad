import SoapGateway.Number.Power
import SoapGateway.Text.Blank

/-!
# Punycode

RFC 3492: any text as letters, digits and hyphens. The characters of ASCII come first; the others
follow as numbers, each of which holds a code point and a place, in digits of base 36 whose weights
adapt to what has been written so far.
-/
namespace SoapGateway.Idna.Punycode

def digitChar (d : Nat) : Char := if d < 26 then Char.ofNat (97 + d) else Char.ofNat (22 + d % 36)

def digitValue? (c : Char) : Option Nat :=
  let c := Text.lowerAscii c
  if 'a' ≤ c ∧ c ≤ 'z' then some (c.toNat - 97)
  else if '0' ≤ c ∧ c ≤ '9' then some (c.toNat - 22)
  else none

/-- The bound below which a digit is the last one of its number; `k` counts the places before it. -/
def threshold (bias k : Nat) : Nat := min 26 (max 1 (36 * (k + 1) - bias))

/-- Divides by 35 until the number is small; `k` counts the divisions. -/
def adaptFrom (k : Nat) (delta : Nat) : Nat :=
  if 455 < delta then adaptFrom (k + 1) (delta / 35) else 36 * k + 36 * delta / (delta + 38)
termination_by delta
decreasing_by omega

/-- The bias after the number `delta`, when `count` characters are in place. -/
def adapt (delta count : Nat) (first : Bool) : Nat :=
  let delta := if first then delta / 700 else delta / 2
  adaptFrom 0 (delta + delta / count)

/-- Digits of a number, the least first; there are no more of them than `fuel`. -/
def number (bias : Nat) : Nat → Nat → Nat → List Char
  | 0, _, _ => []
  | fuel + 1, k, q =>
    let t := threshold bias k
    if q < t then [digitChar q]
    else digitChar (t + (q - t) % (36 - t)) :: number bias fuel (k + 1) ((q - t) / (36 - t))

/-- What is known while a text is written: the digits so far, the distance to the next character,
the bias, and how many characters are in place. -/
structure Writer where
  digits : List Char
  delta : Nat
  bias : Nat
  count : Nat

/-- Passes a character of the text while those of the code point `n` are written. -/
def Writer.pass (basic n : Nat) (w : Writer) (c : Char) : Writer :=
  if c.toNat < n then { w with delta := w.delta + 1 }
  else if c.toNat = n then
    ⟨w.digits ++ number w.bias (w.delta + 1) 0 w.delta, 0,
      adapt w.delta (w.count + 1) (w.count == basic), w.count + 1⟩
  else w

/-- Writes the characters with the code points in the list, which increase; `n` is the least code
point that has not been passed. -/
def Writer.run (text : List Char) (basic : Nat) : Nat → Writer → List Nat → Writer
  | _, w, [] => w
  | n, w, m :: rest =>
    let w := { w with delta := w.delta + (m - n) * (w.count + 1) }
    let w := text.foldl (pass basic m) w
    run text basic (m + 1) { w with delta := w.delta + 1 } rest

def encode (text : List Char) : List Char :=
  let basic := text.filter fun c => c.toNat < 128
  let others := ((text.filter fun c => 128 ≤ c.toNat).map Char.toNat).mergeSort.eraseDups
  let w := Writer.run text basic.length 128 ⟨[], 0, 72, basic.length⟩ others
  (if basic.isEmpty then [] else basic ++ ['-']) ++ w.digits

/-- Reads a number from the front; `k` counts the places before it and `weight` is that of the next
digit. -/
def readNumber (bias : Nat) : Nat → Nat → Nat → List Char → Option (Nat × List Char)
  | _, _, _, [] => none
  | k, weight, sum, c :: rest =>
    match digitValue? c with
    | none => none
    | some d =>
      let sum := sum + d * weight
      let t := threshold bias k
      if Number.twoPow 32 ≤ sum then none
      else if d < t then some (sum, rest)
      else readNumber bias (k + 1) (weight * (36 - t)) sum rest

def insertAt (c : Char) (place : Nat) (text : List Char) : List Char :=
  text.take place ++ c :: text.drop place

/-- Reads numbers and puts their characters into the text; `n` and `place` are the code point and
the place that a number is counted from. There are no more numbers than `fuel`. -/
def insertAll : Nat → Nat → Nat → Nat → List Char → List Char → Option (List Char)
  | _, _, _, _, text, [] => some text
  | 0, _, _, _, _, _ => none
  | fuel + 1, n, place, bias, text, s =>
    match readNumber bias 0 1 0 s with
    | none => none
    | some (delta, rest) =>
      let size := text.length + 1
      let n' := n + (place + delta) / size
      let place' := (place + delta) % size
      if n'.isValidChar then
        insertAll fuel n' (place' + 1) (adapt delta size (place == 0))
          (insertAt (Char.ofNat n') place' text) rest
      else none

/-- The parts before and after the last hyphen. A hyphen at the very beginning separates nothing. -/
def splitLastHyphen (s : List Char) : List Char × List Char :=
  let tail := (s.reverse.takeWhile (· != '-')).reverse
  let front := s.take (s.length - tail.length)
  if front.length ≤ 1 then ([], s) else (front.dropLast, tail)

/-- The text that is written in Punycode. -/
def decode? (s : List Char) : Option (List Char) :=
  let (basic, digits) := splitLastHyphen s
  insertAll digits.length 128 0 72 basic digits

end SoapGateway.Idna.Punycode
