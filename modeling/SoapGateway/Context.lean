import SoapGateway.Number.Power

/-!
# Request contexts

The life span of one request: it may be cancelled, and it may have a deadline. Time is counted in
milliseconds and given by the caller; its origin lies one second after the start of the clock, which
counts its seconds in 63 bits and so has no name for a moment later than that. Work that a context
drives loses against a cancellation and against the deadline, also when it would finish at that very
moment.
-/
namespace SoapGateway

structure Context where
  cancelled : Bool := false
  /-- The millisecond from which on the context is expired. -/
  deadline : Option Nat := none
  requestId : Option String := none
  deriving DecidableEq, Repr

namespace Context

/-- The last second, counted from the origin of the time, that the clock can show. -/
def lastSecond : Nat := Number.twoPow 63 - 2

/-- Sets the deadline `ms` milliseconds after `now`. If the clock never shows that moment, the
context stays as it is: it keeps the deadline it had. -/
def withTimeout (c : Context) (now ms : Nat) : Context :=
  if (now + ms) / 1000 ≤ lastSecond then { c with deadline := some (now + ms) } else c

def cancel (c : Context) : Context := { c with cancelled := true }

def isOver (c : Context) (now : Nat) : Bool :=
  match c.deadline with
  | some d => d ≤ now
  | none => false

def isExpired (c : Context) (now : Nat) : Bool := c.cancelled || c.isOver now

def name (c : Context) : String := c.requestId.getD "unknown"

/-- Drives work that takes `ms` milliseconds from `now` on: whether it finishes, and when the wait
is over. -/
def drive (c : Context) (now ms : Nat) : Bool × Nat :=
  if c.isExpired now then (false, now)
  else
    match c.deadline with
    | some d => if d ≤ now + ms then (false, d) else (true, now + ms)
    | none => (true, now + ms)

end Context

end SoapGateway
