import GatewayAgent.Config.Basic
import GatewayAgent.Net.Uri
import GatewayAgent.Telemetry.LogFilter
import GatewayAgent.Text.Quoted

/-!
# Setting up log and metrics

The log takes its filter from the environment if there is one that can be read, and from the
configuration otherwise. Metrics are exported only if the configuration names where to.
-/

namespace GatewayAgent

/-- Why log or metrics cannot be set up. -/
inductive TelemetryError where
  | logLevel (level : String) (fault : LogFilterFault)
  /-- The endpoint is no address of a service. -/
  | metricsInit (reason : String)
  deriving DecidableEq, Repr

/-- The wording of an error. -/
def TelemetryError.message : TelemetryError → String
  | .logLevel level fault => "invalid log level " ++ Text.quote level ++ ": " ++ fault.message
  | .metricsInit reason => "failed to initialize metrics exporter: " ++ reason

/-- The filter of a log. `wanted` is the filter that the environment asks for. -/
def LogOptions.filter (s : LogOptions) (wanted : Option String) :
    Except TelemetryError LogFilter :=
  match wanted.bind fun w => (LogFilter.read w).toOption with
  | some f => .ok f
  | none => (LogFilter.read s.level).mapError (.logLevel s.level)

/-- Where metrics are exported to, if anywhere. -/
def TelemetryOptions.exportEndpoint (s : TelemetryOptions) :
    Except TelemetryError (Option String) :=
  match s.otlpEndpoint with
  | none => .ok none
  | some e => if Uri.WellFormed e then .ok (some e) else .error (.metricsInit "invalid endpoint")

end GatewayAgent
