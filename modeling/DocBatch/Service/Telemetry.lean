import DocBatch.Telemetry
import DocBatch.Service.Basic

/-!
# Requests on telemetry

`telemetry` sets telemetry up in a fresh process, maybe twice, then maybe uses its metrics
and flushes it. Flushing needs the first set-up to have succeeded.
-/

namespace DocBatch

namespace Service

open Json

/-- A set-up's outcome as a reply shows it. -/
def installInfo (r : Except Error Unit) : Value :=
  match r with
  | .ok () => .str "ok"
  | .error e => ofError e

/-- `telemetry`: what setting telemetry up gives. -/
def telemetry (r : Value) : Reply := do
  let setup : TelemetrySetup :=
    { endpoint := ← text? r "endpoint", serviceName := ← textOr r "service_name" "document-worker",
      logLevel := ← textOr r "log_level" "info" }
  let first := setup.install false
  let second := if ← flag r "init_twice" then [("second_init", installInfo (setup.install (first matches .ok _)))] else []
  let exercised := if ← flag r "exercise" then [("exercised", Value.bool true)] else []
  let flushed := if (← flag r "flush") && (first matches .ok _) then [("flushed", Value.bool true)] else []
  return .obj ([("init", installInfo first)] ++ second ++ exercised ++ flushed)

end Service

end DocBatch
