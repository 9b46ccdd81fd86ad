import SoapGateway.Calendar.Date
import SoapGateway.Number.Power
import SoapGateway.Toml.Lexeme
import SoapGateway.Toml.Value

/-!
# Numbers and moments of TOML

Whole numbers have 64 bits and a sign; in the decimal system they have no leading zero. An
underscore may stand between digits. Floating-point numbers are rounded to the nearest. Dates and
times are checked and passed over.
-/
namespace SoapGateway.Toml

open SoapGateway.Number (Binary64)
open SoapGateway.Text (isDigit)

/-- Takes digits, and single underscores between them, off the front. -/
def moreDigits (p : Char → Bool) : List Char → List Char × List Char
  | [] => ([], [])
  | '_' :: c :: rest =>
    if p c then
      let (ds, rest) := moreDigits p rest
      (c :: ds, rest)
    else ([], '_' :: c :: rest)
  | c :: rest =>
    if p c then
      let (ds, rest) := moreDigits p rest
      (c :: ds, rest)
    else ([], c :: rest)

def digitRun (p : Char → Bool) : Reader (List Char)
  | [] => none
  | c :: rest =>
    if p c then
      let (ds, rest) := moreDigits p rest
      some (c :: ds, rest)
    else none

/-- Splits off an optional sign; `true` means minus. -/
def takeSign : List Char → Bool × List Char
  | '+' :: rest => (false, rest)
  | '-' :: rest => (true, rest)
  | rest => (false, rest)

def wholeDigits : Reader (List Char)
  | '0' :: rest => some (['0'], rest)
  | s => digitRun isDigit s

/-- A whole number, unless it needs more than 64 bits. -/
def integerOf (negative : Bool) (n : Nat) (rest : List Char) : Option (Value × List Char) :=
  if n < Number.twoPow 63 ∨ (negative ∧ n = Number.twoPow 63) then
    some (.integer (if negative then -(n : Int) else n), rest)
  else none

def fraction : Reader (List Char)
  | '.' :: rest => digitRun isDigit rest
  | s => some ([], s)

/-- Reads an exponent; zero, if there is none. -/
def exponent : Reader Int
  | c :: rest =>
    if c = 'e' ∨ c = 'E' then
      let (negative, rest) := takeSign rest
      (digitRun isDigit rest).map fun (ds, rest) =>
        let e : Int := Text.valueOf 10 ds
        (if negative then -e else e, rest)
    else some (0, c :: rest)
  | [] => some (0, [])

/-- The nearest number to `n * 10 ^ e`; `none` when that is beyond the largest one. An exponent far
out of reach is not raised to. -/
def nearest (n : Nat) (e : Int) : Option Binary64 :=
  let size : Int := (Text.digits n).length
  if n = 0 ∨ size + e < -400 then some Binary64.zero
  else if 400 < size + e then none
  else Binary64.ofScientific n e

/-- A floating-point number. Those too large to be written are refused, unless they are negative. -/
def realOf (negative : Bool) (whole part : List Char) (e : Int) (rest : List Char) :
    Option (Value × List Char) :=
  match nearest (Text.valueOf 10 (whole ++ part)) (e - part.length) with
  | some x => some (.real (.finite negative x), rest)
  | none => if negative then some (.real (.infinite true), rest) else none

/-- Reads what follows the sign of a decimal number. -/
def decimal (negative : Bool) : Reader Value := fun s =>
  match wholeDigits s with
  | none => none
  | some (whole, rest) =>
    match fraction rest with
    | none => none
    | some (part, rest') =>
      match exponent rest' with
      | none => none
      | some (e, rest'') =>
        if rest''.length = rest.length then integerOf negative (Text.valueOf 10 whole) rest
        else realOf negative whole part e rest''

/-- Reads the digits of a whole number in another system. -/
def inBase (base : Nat) (p : Char → Bool) : Reader Value := fun s =>
  (digitRun p s).bind fun (ds, rest) => integerOf false (Text.valueOf base ds) rest

def number : Reader Value
  | '0' :: 'x' :: rest => inBase 16 (fun c => (Text.hexValue? c).isSome) rest
  | '0' :: 'o' :: rest => inBase 8 (fun c => '0' ≤ c && c ≤ '7') rest
  | '0' :: 'b' :: rest => inBase 2 (fun c => c == '0' || c == '1') rest
  | s =>
    match takeSign s with
    | (negative, 'i' :: 'n' :: 'f' :: rest) => some (.real (.infinite negative), rest)
    | (_, 'n' :: 'a' :: 'n' :: rest) => some (.real .notANumber, rest)
    | (negative, rest) => decimal negative rest

/-- Reads two digits whose value lies between two bounds. -/
def twoDigits (low high : Nat) : Reader Nat
  | a :: b :: rest =>
    match Text.digitValue? a, Text.digitValue? b with
    | some x, some y =>
      let n := x * 10 + y
      if low ≤ n ∧ n ≤ high then some (n, rest) else none
    | _, _ => none
  | _ => none

def after? (c : Char) : List Char → Option (List Char)
  | d :: rest => if d = c then some rest else none
  | [] => none

def date? (s : List Char) : Option (List Char) := do
  let (century, s) ← twoDigits 0 99 s
  let (year, s) ← twoDigits 0 99 s
  let s ← after? '-' s
  let (month, s) ← twoDigits 1 12 s
  let s ← after? '-' s
  let (day, s) ← twoDigits 1 31 s
  if day ≤ Calendar.daysInMonth (century * 100 + year : Nat) month then some s else none

def skipPlaces : List Char → List Char
  | '.' :: c :: rest => if isDigit c then rest.dropWhile isDigit else '.' :: c :: rest
  | s => s

def time? (s : List Char) : Option (List Char) := do
  let (_, s) ← twoDigits 0 23 s
  let s ← after? ':' s
  let (_, s) ← twoDigits 0 59 s
  let s ← after? ':' s
  let (_, s) ← twoDigits 0 60 s
  return skipPlaces s

def offset? (s : List Char) : Option (List Char) := do
  let (_, s) ← twoDigits 0 23 s
  let s ← after? ':' s
  let (_, s) ← twoDigits 0 59 s
  return s

def skipZone : List Char → List Char
  | [] => []
  | c :: rest =>
    if c = 'Z' ∨ c = 'z' then rest
    else if c = '+' ∨ c = '-' then (offset? rest).getD (c :: rest)
    else c :: rest

def skipTime : List Char → List Char
  | [] => []
  | c :: rest =>
    if c = 'T' ∨ c = 't' ∨ c = ' ' then
      match time? rest with
      | some rest => skipZone rest
      | none => c :: rest
    else c :: rest

/-- Reads a date with or without a time, or a time. -/
def moment : Reader Value := fun s =>
  match date? s with
  | some rest => some (.moment, skipTime rest)
  | none => (time? s).map fun rest => (.moment, rest)

/-- Reads a value that begins like a number. -/
def numberOrMoment : Reader Value := fun s =>
  match moment s with
  | some r => some r
  | none => number s

end SoapGateway.Toml
