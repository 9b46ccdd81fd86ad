import SoapGateway.Text.Decimal

/-!
# The shutdown signal

A signal that is broadcast to everyone who has subscribed. A receiver keeps only the newest signal;
one that has missed others is told how many before it gets that one.
-/
namespace SoapGateway

/-- Receivers in the order of their subscription, each with the number of signals that it has not
yet taken, or `none` once it is gone. -/
structure Shutdown where
  receivers : List (Option Nat) := []
  deriving DecidableEq, Repr

inductive Received where
  | signal
  | empty
  /-- Signals that were missed. -/
  | lagged (missed : Nat)
  deriving DecidableEq, Repr

def Received.message : Received → String
  | signal => "signal"
  | empty => "channel empty"
  | lagged missed => "channel lagged by " ++ Text.ofNat missed

namespace Shutdown

/-- Adds a receiver and answers its index. It sees later signals only. -/
def subscribe (s : Shutdown) : Nat × Shutdown :=
  (s.receivers.length, ⟨s.receivers ++ [some 0]⟩)

def trigger (s : Shutdown) : Shutdown := ⟨s.receivers.map fun r => r.map (· + 1)⟩

/-- The signals that wait for a receiver, if it is there. -/
def pending? (s : Shutdown) (index : Nat) : Option Nat := (s.receivers[index]?).join

/-- Removes a receiver, and says whether it was there. -/
def drop (s : Shutdown) (index : Nat) : Bool × Shutdown :=
  ((s.pending? index).isSome, ⟨s.receivers.set index none⟩)

/-- What a receiver takes when `waiting` signals wait for it, and how many wait afterwards. -/
def take (waiting : Nat) : Received × Nat :=
  match waiting with
  | 0 => (.empty, 0)
  | 1 => (.signal, 0)
  | n + 2 => (.lagged (n + 1), 1)

/-- Lets a receiver take what waits for it; `none` if there is no such receiver. -/
def receive (s : Shutdown) (index : Nat) : Option Received × Shutdown :=
  match s.pending? index with
  | none => (none, s)
  | some waiting =>
    let (received, left) := take waiting
    (some received, ⟨s.receivers.set index (some left)⟩)

def receiverCount (s : Shutdown) : Nat := s.receivers.countP Option.isSome

end Shutdown

end SoapGateway
