import SoapGateway.Http.Server
import SoapGateway.Traffic

/-!
# Clients

The server under any number of clients at once. A request is answered as it arrives or starts a run
of the dispatcher, which goes on like all traffic and may take turns with the runs and requests of
other clients. A client that goes away takes the context of its run with it.
-/
namespace SoapGateway.Http

open Calendar (Instant)
open Traffic (Arrival Scene)

inductive Event where
  /-- A request is there with its whole body. -/
  | arrive (r : Request)
  /-- Looks at a run; its call may end. -/
  | look (id : Nat) (arrival : Option Arrival)
  /-- The client of a run goes away. -/
  | leave (id : Nat)
  | wait (ms : Nat)
  | setClock (t : Instant)

namespace Server

/-- The server before any request. -/
def opening (s : Server) (clock : Instant) (time : Nat) : Scene := ⟨s.shelf, clock, time, []⟩

def serve (s : Server) (w : Scene) : Event → Scene
  | .arrive r =>
    match s.accept s.dispatcher w.shelf r with
    | .answered _ shelf => { w with shelf }
    | .running o => w.start s.dispatcher o r.body .cached (s.context w.time r)
  | .look id arrival => w.poll id arrival
  | .leave id => w.cancel id
  | .wait ms => { w with time := w.time + ms }
  | .setClock t => { w with clock := t }

def serveAll (s : Server) (w : Scene) (events : List Event) : Scene := events.foldl s.serve w

/-- What the client of a request gets once its run has ended. -/
def reply? (s : Server) (freshId : String) (r : Request) (run : Traffic.Run) : Option Response :=
  run.ending.map fun ending => s.complete freshId r (ofResult ending.2.answer)

end Server

end SoapGateway.Http
