import SoapGateway.LogFilter
import SoapGateway.Settings

/-!
# Startup

The first step of starting the gateway is to set up logging, which can be done once in a process. A
log filter that cannot be read is found out first.
-/
namespace SoapGateway

inductive LoggingFault where
  | filter (text : String) (fault : LogFilterFault)
  | alreadyInitialized
  deriving DecidableEq, Repr

def LoggingFault.message : LoggingFault → String
  | filter text fault => "invalid log filter " ++ Text.quoted text ++ ": " ++ fault.message
  | alreadyInitialized =>
    "logging already initialized: a global default trace dispatcher has already been set"

namespace ObservabilitySettings

def checkFilter (s : ObservabilitySettings) : Except LoggingFault Unit :=
  match LogFilter.check s.logLevel with
  | .ok () => .ok ()
  | .error f => .error (.filter s.logLevel f)

/-- Sets up logging in a process where it may be set up already. -/
def startLogging (s : ObservabilitySettings) (installed : Bool) : Except LoggingFault Unit :=
  match s.checkFilter with
  | .error f => .error f
  | .ok () => if installed then .error .alreadyInitialized else .ok ()

end ObservabilitySettings

inductive StartupFault where
  | logging (fault : LoggingFault)
  deriving DecidableEq, Repr

def StartupFault.message : StartupFault → String
  | logging fault => "logging: " ++ fault.message

/-- Starts the gateway, up to the point from which on it serves requests. -/
def Settings.start (s : Settings) (loggingInstalled : Bool) : Except StartupFault Unit :=
  match s.observability.startLogging loggingInstalled with
  | .error f => .error (.logging f)
  | .ok () => .ok ()

end SoapGateway
