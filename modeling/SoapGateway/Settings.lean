import SoapGateway.DenyList
import SoapGateway.Json.Value
import SoapGateway.Layouts

/-!
# Settings of the gateway

Everything that an operator can set, in sections, with the value that holds where nothing is said.
Durations are whole seconds. `json` shows all settings in the order of the sections.
-/
namespace SoapGateway

structure ListenerSettings where
  bindAddress : String := "0.0.0.0:8080"
  deriving DecidableEq, Repr

structure RemoteSettings where
  endpoint : String := "https://www.cbr.ru/DailyInfoWebServ/DailyInfo.asmx"
  timeoutSecs : Nat := 15
  /-- Namespace of the operations; it also begins every action. -/
  actionNamespace : String := "http://web.cbr.ru/"
  useSystemProxy : Bool := true
  deriving DecidableEq, Repr

/-- How long results are kept, and how many; zero entries mean no bound. -/
structure CacheSettings where
  ttlSecs : Nat := 60
  maxEntries : Nat := 10000
  deriving DecidableEq, Repr

/-- Names of refused operations, between blanks. -/
structure PermissionSettings where
  denyList : String := ""
  deriving DecidableEq, Repr

structure TimeoutSettings where
  requestSecs : Nat := 30
  deriving DecidableEq, Repr

structure SecuritySettings where
  maxBodySize : Nat := 65536
  deriving DecidableEq, Repr

structure ObservabilitySettings where
  logLevel : String := "info"
  jsonLogs : Bool := false
  metricsEnabled : Bool := false
  metricsAddress : String := "0.0.0.0:9090"
  deriving DecidableEq, Repr

/-- The key that nobody may keep. -/
def placeholderKey : String := "CHANGE_ME_IN_PRODUCTION"

/-- Access to the administrative routes. -/
structure AdminSettings where
  enabled : Bool := false
  apiKey : String := placeholderKey
  deriving DecidableEq, Repr

structure Settings where
  listener : ListenerSettings := {}
  remote : RemoteSettings := {}
  dates : Layouts := {}
  cache : CacheSettings := {}
  permissions : PermissionSettings := {}
  timeouts : TimeoutSettings := {}
  security : SecuritySettings := {}
  observability : ObservabilitySettings := {}
  admin : AdminSettings := {}
  deriving DecidableEq, Repr

namespace Settings

open Json (Value)

def json (s : Settings) : Value :=
  .object [
    ("listener", .object [("bind_address", .text s.listener.bindAddress)]),
    ("remote", .object [("endpoint", .text s.remote.endpoint),
      ("timeout_secs", .number s.remote.timeoutSecs),
      ("soap_action_namespace", .text s.remote.actionNamespace),
      ("use_system_proxy", .bool s.remote.useSystemProxy)]),
    ("dates", .object [("request_layout", .text s.dates.request),
      ("response_layout", .text s.dates.response)]),
    ("cache", .object [("ttl_secs", .number s.cache.ttlSecs),
      ("max_entries", .number s.cache.maxEntries)]),
    ("permissions", .object [("deny_list", .text s.permissions.denyList)]),
    ("timeouts", .object [("request_secs", .number s.timeouts.requestSecs)]),
    ("security", .object [("max_body_size", .number s.security.maxBodySize)]),
    ("observability", .object [("log_level", .text s.observability.logLevel),
      ("json_logs", .bool s.observability.jsonLogs),
      ("metrics_enabled", .bool s.observability.metricsEnabled),
      ("metrics_address", .text s.observability.metricsAddress)]),
    ("admin", .object [("enabled", .bool s.admin.enabled), ("api_key", .text s.admin.apiKey)])]

def unknownDenied (s : Settings) : List String := DenyList.unknownNames s.permissions.denyList

end Settings

end SoapGateway
