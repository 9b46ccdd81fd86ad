import SoapGateway.Settings
import SoapGateway.Toml.Shape

/-!
# Settings from a document

Where each setting stands in a TOML document: a section for each group of settings, a key for each
setting. Sections and keys may stand in any order and may be left out.
-/
namespace SoapGateway

open Toml (RecordField ShapeFault Value)

namespace Settings

def countOfSeconds : String := "u64"

def countOfThings : String := "usize"

def listenerFields : List (RecordField ListenerSettings) :=
  [.ofText "bind_address" fun s v => { s with bindAddress := v }]

def remoteFields : List (RecordField RemoteSettings) :=
  [.ofText "endpoint" fun s v => { s with endpoint := v },
    .ofCount countOfSeconds "timeout_secs" fun s v => { s with timeoutSecs := v },
    .ofText "soap_action_namespace" fun s v => { s with actionNamespace := v },
    .ofFlag "use_system_proxy" fun s v => { s with useSystemProxy := v }]

def layoutFields : List (RecordField Layouts) :=
  [.ofText "request_layout" fun s v => { s with request := v },
    .ofText "response_layout" fun s v => { s with response := v }]

def cacheFields : List (RecordField CacheSettings) :=
  [.ofCount countOfSeconds "ttl_secs" fun s v => { s with ttlSecs := v },
    .ofCount countOfThings "max_entries" fun s v => { s with maxEntries := v }]

def permissionFields : List (RecordField PermissionSettings) :=
  [.ofText "deny_list" fun s v => { s with denyList := v }]

def timeoutFields : List (RecordField TimeoutSettings) :=
  [.ofCount countOfSeconds "request_secs" fun s v => { s with requestSecs := v }]

def securityFields : List (RecordField SecuritySettings) :=
  [.ofCount countOfThings "max_body_size" fun s v => { s with maxBodySize := v }]

def observabilityFields : List (RecordField ObservabilitySettings) :=
  [.ofText "log_level" fun s v => { s with logLevel := v },
    .ofFlag "json_logs" fun s v => { s with jsonLogs := v },
    .ofFlag "metrics_enabled" fun s v => { s with metricsEnabled := v },
    .ofText "metrics_address" fun s v => { s with metricsAddress := v }]

def adminFields : List (RecordField AdminSettings) :=
  [.ofFlag "enabled" fun s v => { s with enabled := v },
    .ofText "api_key" fun s v => { s with apiKey := v }]

def sections : List (RecordField Settings) :=
  [.ofRecord "listener" "ListenerConfig" listenerFields listener
      fun s v => { s with listener := v },
    .ofRecord "remote" "RemoteConfig" remoteFields remote fun s v => { s with remote := v },
    .ofRecord "dates" "DateLayouts" layoutFields dates fun s v => { s with dates := v },
    .ofRecord "cache" "CacheConfig" cacheFields cache fun s v => { s with cache := v },
    .ofRecord "permissions" "PermissionsConfig" permissionFields permissions
      fun s v => { s with permissions := v },
    .ofRecord "timeouts" "TimeoutConfig" timeoutFields timeouts
      fun s v => { s with timeouts := v },
    .ofRecord "security" "SecurityConfig" securityFields security
      fun s v => { s with security := v },
    .ofRecord "observability" "ObservabilityConfig" observabilityFields observability
      fun s v => { s with observability := v },
    .ofRecord "admin" "AdminConfig" adminFields admin fun s v => { s with admin := v }]

/-- The settings that the members of a document give; the rest is as by default. -/
def ofToml (members : List (String × Value)) : Except ShapeFault Settings :=
  RecordField.putMembers sections {} members

end Settings

end SoapGateway
