import SoapGateway.Calendar.Layout
import SoapGateway.Net.SocketAddress
import SoapGateway.Settings
import SoapGateway.Text.Quoted
import SoapGateway.Url

/-!
# Rules for settings

What settings have to fulfil before the gateway may start with them. Every violated rule is
reported, in the order of the rules.
-/
namespace SoapGateway.Settings

/-- A rule about one field; `check` gives the complaint about settings that violate it. -/
structure Rule where
  field : String
  check : Settings → Option String

structure Violation where
  field : String
  complaint : String
  deriving DecidableEq, Repr

def Violation.message (v : Violation) : String := v.field ++ ": " ++ v.complaint

/-- A complaint that is made unless a condition holds. -/
def require (ok : Bool) (complaint : String) : Option String := if ok then none else some complaint

/-- The longest timeout, in seconds: one day. -/
def maxTimeoutSecs : Nat := 86400

def checkAddress (address : String) : Option String :=
  require (Net.isSocketAddress address) (Text.quoted address ++ " is not a socket address")

def checkEndpoint (endpoint : String) : Option String :=
  match Url.parse endpoint with
  | .error f => some f.message
  | .ok u =>
    require (u.scheme == "http".toList || u.scheme == "https".toList)
      ("unsupported scheme " ++ Text.quoted (String.ofList u.scheme))

def checkPositive (n : Nat) : Option String := require (0 < n) "must be greater than 0"

def checkTimeout (seconds : Nat) : Option String :=
  match checkPositive seconds with
  | some complaint => some complaint
  | none => require (seconds ≤ maxTimeoutSecs) ("must be at most " ++ Text.ofNat maxTimeoutSecs)

def checkLayout (layout : String) : Option String :=
  require (Calendar.Layout.isValid layout) (Text.quoted layout ++ " is not a valid date layout")

def checkKey (key : String) : Option String :=
  require (key != "" && key != placeholderKey) "must be set to a real key when admin is enabled"

/-- All rules, in the order in which they are reported. -/
def rules : List Rule := [
  ⟨"listener.bind_address", fun s => checkAddress s.listener.bindAddress⟩,
  ⟨"remote.endpoint", fun s => checkEndpoint s.remote.endpoint⟩,
  ⟨"remote.timeout_secs", fun s => checkTimeout s.remote.timeoutSecs⟩,
  ⟨"remote.soap_action_namespace", fun s =>
    require (Text.trim s.remote.actionNamespace != "") "must not be empty"⟩,
  ⟨"dates.request_layout", fun s => checkLayout s.dates.request⟩,
  ⟨"dates.response_layout", fun s => checkLayout s.dates.response⟩,
  ⟨"cache.ttl_secs", fun s => checkPositive s.cache.ttlSecs⟩,
  ⟨"timeouts.request_secs", fun s => checkTimeout s.timeouts.requestSecs⟩,
  ⟨"security.max_body_size", fun s => checkPositive s.security.maxBodySize⟩,
  ⟨"observability.metrics_address", fun s =>
    if s.observability.metricsEnabled then checkAddress s.observability.metricsAddress else none⟩,
  ⟨"admin.api_key", fun s => if s.admin.enabled then checkKey s.admin.apiKey else none⟩]

def violations (s : Settings) : List Violation :=
  rules.filterMap fun r => (r.check s).map fun complaint => ⟨r.field, complaint⟩

end SoapGateway.Settings
