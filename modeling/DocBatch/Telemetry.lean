import DocBatch.Error
import DocBatch.Net.Uri

/-!
# Setting up telemetry

Telemetry is set up once per process: a log subscriber is installed globally, and when an
export endpoint is given, exporters for traces, metrics and logs are built first. An
endpoint must be a URI the exporters' HTTP client accepts. The log filter never fails: a
filter that cannot be read filters by the default level.

`install` says what one set-up gives, knowing whether a subscriber is installed already.
-/

namespace DocBatch

/-- What telemetry is asked to set up. -/
structure TelemetrySetup where
  endpoint : Option String := none
  serviceName : String := "document-worker"
  logLevel : String := "info"
  deriving Repr, Inhabited

namespace TelemetrySetup

/-- The fault of installing a second subscriber. -/
def alreadyInstalled : Error :=
  .other "failed to init tracing subscriber: a global default trace dispatcher has already been set"

/-- Sets up telemetry; `installed` tells whether a subscriber is in place already. The
endpoint is checked before the subscriber. -/
def install (t : TelemetrySetup) (installed : Bool) : Except Error Unit := do
  if let some e := t.endpoint then
    match Uri.check e with
    | .error f =>
      throw (.other ("failed to create OTLP span exporter: invalid URI " ++ e ++ ". Reason " ++ f.message))
    | .ok () => pure ()
  if installed then throw alreadyInstalled

theorem install_none_fresh (t : TelemetrySetup) (h : t.endpoint = none) : t.install false = .ok () := by
  simp [install, h]; rfl

end TelemetrySetup

end DocBatch
