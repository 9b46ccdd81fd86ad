import SoapGateway.Text.Alphanumeric
import SoapGateway.Text.Blank
import SoapGateway.Text.Decimal
import SoapGateway.Text.Pieces
import SoapGateway.Text.Quoted
import SoapGateway.Text.Utf8

/-!
# Log filters

Which texts say what to log. A filter is a list of directives between commas; a directive names a
target, a span with fields, a level, or several of them: `target[span{field}]=level`. Blanks around
a directive are passed over, but a level is cut out of the directive as if they were not.
-/
namespace SoapGateway

inductive LogFilterFault where
  | directive
  | level
  deriving DecidableEq, Repr

def LogFilterFault.message : LogFilterFault → String
  | directive => "invalid filter directive"
  | level => "error parsing level filter: expected one of \"off\", \"error\", \"warn\", " ++
      "\"info\", \"debug\", \"trace\", or a number 0-5"

namespace LogFilter

def levelNames : List String := ["off", "error", "warn", "info", "debug", "trace"]

/-- Whether a text is a number up to five, with an optional plus sign. -/
def isLevelNumber (s : List Char) : Bool :=
  let digits := match s with
    | '+' :: rest => rest
    | rest => rest
  match Text.readNat? digits with
  | some n => n ≤ 5
  | none => false

/-- Whether a text names a level. Nothing at all names one, too. -/
def isLevel (s : List Char) : Bool :=
  s.isEmpty || isLevelNumber s || levelNames.any fun name => Text.sameAscii name.toList s

/-- How far a directive has been read. -/
inductive State where
  | start
  | levelOrTarget
  | span
  /-- Inside the fields of a span; `empty` if the open field has no character yet. -/
  | field (empty : Bool)
  | fields
  | target
  /-- Inside a level that begins at the octet `start`. -/
  | level (start : Nat)
  deriving DecidableEq, Repr

/-- Whether a directive may begin with a character other than a bracket. -/
def beginsDirective (c : Char) : Bool :=
  c == '-' || c == ':' || c == '_' || Text.isAlphanumeric c

/-- The state after the character `c`, which is followed by the octet `next`. -/
def step (next : Nat) (c : Char) : State → Option State
  | .start =>
    if c = '[' then some .span else if beginsDirective c then some .levelOrTarget else none
  | .levelOrTarget =>
    some (if c = '=' then .level next else if c = '[' then .span else .levelOrTarget)
  | .span => some (if c = ']' then .target else if c = '\x7b' then .field true else .span)
  | .field empty =>
    if c = '\x7d' then (if empty then none else some .fields) else some (.field false)
  | .fields => if c = ']' then some .target else none
  | .target => if c = '=' then some (.level next) else none
  | .level start => some (.level start)

/-- Reads characters, of which the first begins at the octet `at_`. -/
def run (at_ : Nat) : State → List Char → Option State
  | s, [] => some s
  | s, c :: rest =>
    match step (at_ + c.utf8Size) c s with
    | none => none
    | some s => run (at_ + c.utf8Size) s rest

/-- Whether what stands after the first `start` octets of a directive is a level. -/
def endsInLevel (directive : List Char) (start : Nat) : Bool :=
  isLevel (Utf8.decodeLossy ((Utf8.encode directive).drop start)).toList

def checkDirective (directive : List Char) : Except LogFilterFault Unit :=
  match run 0 .start (Text.trimBy Text.isBlank directive) with
  | some .levelOrTarget | some .target => .ok ()
  | some (.level start) => if endsInLevel directive start then .ok () else .error .level
  | _ => .error .directive

def checkAll : List (List Char) → Except LogFilterFault Unit
  | [] => .ok ()
  | d :: rest =>
    match checkDirective d with
    | .error f => .error f
    | .ok () => checkAll rest

def check (text : String) : Except LogFilterFault Unit :=
  checkAll ((Text.splitAll ',' text.toList).filter fun d => !d.isEmpty)

end LogFilter

end SoapGateway
