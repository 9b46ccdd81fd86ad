import SoapGateway.Calendar.Parse
import SoapGateway.Failure
import SoapGateway.Text.Quoted

/-!
# The two date layouts of the gateway

Dates arrive in one layout and are sent on in another. A date that cannot be read is the caller's
fault, a layout that cannot be written is a fault of the envelope.
-/
namespace SoapGateway

/-- Layout of dates in requests, and of the date-times that the remote service gets. -/
structure Layouts where
  request : String := "%Y-%m-%d"
  response : String := "%Y-%m-%dT%H:%M:%S"
  deriving DecidableEq, Repr

namespace Layouts

/-- Reads the date in a field, blanks around it aside. -/
def readDate (l : Layouts) (field value : String) : Except Failure Calendar.Date :=
  match Calendar.Layout.parse l.request (Text.trim value) with
  | .ok d => .ok d
  | .error f =>
    .error (.badBody (field ++ " " ++ Text.quoted value ++ " does not match " ++ l.request ++
      ": " ++ f.message))

def writeDate (l : Layouts) (d : Calendar.Date) : Except Failure String :=
  match Calendar.Layout.format? l.response d with
  | some s => .ok s
  | none => .error (.envelope ("invalid response layout " ++ Text.quoted l.response))

end Layouts

end SoapGateway
