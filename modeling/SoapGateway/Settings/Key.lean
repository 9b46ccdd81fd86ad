import SoapGateway.Settings

/-!
# Keys of the settings

Every setting has a key that says in which section it stands and what it is called there. What is
kept under a key is a text, a number of things or a truth value.
-/
namespace SoapGateway.Settings

inductive Kind where
  | text | count | flag
  deriving DecidableEq, Repr

def Kind.Carrier : Kind → Type
  | text => String
  | count => Nat
  | flag => Bool

inductive Key where
  | bindAddress
  | endpoint | callTimeout | actionNamespace | useSystemProxy
  | requestLayout | responseLayout
  | ttl | maxEntries
  | denyList
  | requestTimeout
  | maxBodySize
  | logLevel | jsonLogs | metricsEnabled | metricsAddress
  | adminEnabled | apiKey
  deriving DecidableEq, Repr

namespace Key

def all : List Key :=
  [bindAddress, endpoint, callTimeout, actionNamespace, useSystemProxy, requestLayout,
    responseLayout, ttl, maxEntries, denyList, requestTimeout, maxBodySize, logLevel, jsonLogs,
    metricsEnabled, metricsAddress, adminEnabled, apiKey]

/-- The section that a key stands in. -/
def group : Key → String
  | bindAddress => "listener"
  | endpoint | callTimeout | actionNamespace | useSystemProxy => "remote"
  | requestLayout | responseLayout => "dates"
  | ttl | maxEntries => "cache"
  | denyList => "permissions"
  | requestTimeout => "timeouts"
  | maxBodySize => "security"
  | logLevel | jsonLogs | metricsEnabled | metricsAddress => "observability"
  | adminEnabled | apiKey => "admin"

def name : Key → String
  | bindAddress => "bind_address"
  | endpoint => "endpoint"
  | callTimeout => "timeout_secs"
  | actionNamespace => "soap_action_namespace"
  | useSystemProxy => "use_system_proxy"
  | requestLayout => "request_layout"
  | responseLayout => "response_layout"
  | ttl => "ttl_secs"
  | maxEntries => "max_entries"
  | denyList => "deny_list"
  | requestTimeout => "request_secs"
  | maxBodySize => "max_body_size"
  | logLevel => "log_level"
  | jsonLogs => "json_logs"
  | metricsEnabled => "metrics_enabled"
  | metricsAddress => "metrics_address"
  | adminEnabled => "enabled"
  | apiKey => "api_key"

/-- How messages call a key. -/
def path (k : Key) : String := k.group ++ "." ++ k.name

def kind : Key → Kind
  | callTimeout | ttl | maxEntries | requestTimeout | maxBodySize => .count
  | useSystemProxy | jsonLogs | metricsEnabled | adminEnabled => .flag
  | _ => .text

def get : (k : Key) → Settings → k.kind.Carrier
  | bindAddress, s => s.listener.bindAddress
  | endpoint, s => s.remote.endpoint
  | callTimeout, s => s.remote.timeoutSecs
  | actionNamespace, s => s.remote.actionNamespace
  | useSystemProxy, s => s.remote.useSystemProxy
  | requestLayout, s => s.dates.request
  | responseLayout, s => s.dates.response
  | ttl, s => s.cache.ttlSecs
  | maxEntries, s => s.cache.maxEntries
  | denyList, s => s.permissions.denyList
  | requestTimeout, s => s.timeouts.requestSecs
  | maxBodySize, s => s.security.maxBodySize
  | logLevel, s => s.observability.logLevel
  | jsonLogs, s => s.observability.jsonLogs
  | metricsEnabled, s => s.observability.metricsEnabled
  | metricsAddress, s => s.observability.metricsAddress
  | adminEnabled, s => s.admin.enabled
  | apiKey, s => s.admin.apiKey

/-- Puts something under a key; the other keys keep what they have. -/
def put : (k : Key) → k.kind.Carrier → Settings → Settings
  | bindAddress, v, s => { s with listener := { s.listener with bindAddress := v } }
  | endpoint, v, s => { s with remote := { s.remote with endpoint := v } }
  | callTimeout, v, s => { s with remote := { s.remote with timeoutSecs := v } }
  | actionNamespace, v, s => { s with remote := { s.remote with actionNamespace := v } }
  | useSystemProxy, v, s => { s with remote := { s.remote with useSystemProxy := v } }
  | requestLayout, v, s => { s with dates := { s.dates with request := v } }
  | responseLayout, v, s => { s with dates := { s.dates with response := v } }
  | ttl, v, s => { s with cache := { s.cache with ttlSecs := v } }
  | maxEntries, v, s => { s with cache := { s.cache with maxEntries := v } }
  | denyList, v, s => { s with permissions := { s.permissions with denyList := v } }
  | requestTimeout, v, s => { s with timeouts := { s.timeouts with requestSecs := v } }
  | maxBodySize, v, s => { s with security := { s.security with maxBodySize := v } }
  | logLevel, v, s => { s with observability := { s.observability with logLevel := v } }
  | jsonLogs, v, s => { s with observability := { s.observability with jsonLogs := v } }
  | metricsEnabled, v, s => { s with observability := { s.observability with metricsEnabled := v } }
  | metricsAddress, v, s => { s with observability := { s.observability with metricsAddress := v } }
  | adminEnabled, v, s => { s with admin := { s.admin with enabled := v } }
  | apiKey, v, s => { s with admin := { s.admin with apiKey := v } }

end Key

end SoapGateway.Settings
