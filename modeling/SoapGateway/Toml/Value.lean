import SoapGateway.Number.Shortest
import SoapGateway.Text.Quoted

/-!
# TOML values

What a TOML document holds. Members of a table keep the order in which they come to stand. Of dates
and times only the fact is kept, since no setting of the gateway takes one. `shown` is how a message
names a value that is out of place.
-/
namespace SoapGateway.Toml

open SoapGateway.Number (Binary64)

inductive Real where
  | finite (negative : Bool) (x : Binary64)
  | infinite (negative : Bool)
  | notANumber
  deriving DecidableEq, Repr

inductive Value where
  | text (s : String)
  | integer (n : Int)
  | real (x : Real)
  | boolean (b : Bool)
  | moment
  | array (items : List Value)
  | table (members : List (String × Value))
  deriving Repr, Inhabited

/-- A minus sign, if there has to be one. -/
def minus (negative : Bool) : String := if negative then "-" else ""

def Real.text : Real → String
  | finite negative x => minus negative ++ (SoapGateway.Number.Shortest.ofBinary x).positional
  | infinite negative => minus negative ++ "inf"
  | notANumber => "NaN"

def Value.shown : Value → String
  | text s => "string " ++ Text.quoted s
  | integer n => "integer `" ++ Text.ofInt n ++ "`"
  | real x => "floating point `" ++ x.text ++ "`"
  | boolean b => "boolean `" ++ (if b then "true" else "false") ++ "`"
  | array _ => "sequence"
  | moment | table _ => "map"

end SoapGateway.Toml
