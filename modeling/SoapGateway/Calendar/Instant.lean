import SoapGateway.Calendar.Date

/-!
# Instants and spans of time

An instant is a number of microseconds since the beginning of 1970, which may be negative. It is
written as a UTC date and time, with as many places of the second as are asked for. A span is a
number of nanoseconds, written in the largest unit that it fills.
-/
namespace SoapGateway.Calendar

/-- Microseconds since 1970-01-01T00:00:00Z. -/
abbrev Instant := Int

def epochDay : Int := 719162

def microsPerDay : Int := 86400000000

def Instant.date (t : Instant) : Date := Date.ofDayNumber (epochDay + t / microsPerDay)

def Instant.timeOfDay (t : Instant) : Nat := (t % microsPerDay).toNat

/-- `HH:MM:SS` of a number of seconds since midnight. -/
def clockText (seconds : Nat) : String :=
  Text.padded 2 (seconds / 3600) ++ ":" ++ Text.padded 2 (seconds / 60 % 60) ++ ":" ++
    Text.padded 2 (seconds % 60)

/-- UTC text up to the second. -/
def Instant.secondText (t : Instant) : String :=
  (Instant.date t).text ++ "T" ++ clockText (Instant.timeOfDay t / 1000000)

/-- UTC text with three places of the second, the rest cut off. -/
def Instant.milliText (t : Instant) : String :=
  Instant.secondText t ++ "." ++ Text.padded 3 (Instant.timeOfDay t / 1000 % 1000) ++ "Z"

/-- UTC text with no, three or six places of the second, as few as are exact. -/
def Instant.exactText (t : Instant) : String :=
  let micros := Instant.timeOfDay t % 1000000
  let fraction :=
    if micros = 0 then ""
    else if micros % 1000 = 0 then "." ++ Text.padded 3 (micros / 1000)
    else "." ++ Text.padded 6 micros
  Instant.secondText t ++ fraction ++ "Z"

abbrev Span := Nat

/-- A whole number of units and the rest, in parts of which `10 ^ places` make a unit. -/
def fractionText (whole part places : Nat) : String :=
  let digits := (Text.padLeft '0' places (Text.digits part)).reverse.dropWhile (· == '0')
  if part = 0 then Text.ofNat whole
  else Text.ofNat whole ++ "." ++ String.ofList digits.reverse

def Span.text (n : Span) : String :=
  if 1000000000 ≤ n then fractionText (n / 1000000000) (n % 1000000000) 9 ++ "s"
  else if 1000000 ≤ n then fractionText (n / 1000000) (n % 1000000) 6 ++ "ms"
  else if 1000 ≤ n then fractionText (n / 1000) (n % 1000) 3 ++ "µs"
  else Text.ofNat n ++ "ns"

end SoapGateway.Calendar
