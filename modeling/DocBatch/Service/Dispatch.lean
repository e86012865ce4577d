import DocBatch.Service.Engine
import DocBatch.Service.Envelope
import DocBatch.Service.Config
import DocBatch.Service.Telemetry
import DocBatch.Service.Database
import DocBatch.Service.Cli

/-!
# Serving a request

A request is one line of JSON text naming its operation under `op`; the reply is one line of
JSON text. A line that is not a JSON object, or names no known operation, is answered with
`BadInput`.
-/

namespace DocBatch

namespace Service

open Json

/-- A result with the events logged while computing it. -/
abbrev Logged := Except Value (Value × Array Event)

/-- A result computed without logging. -/
def quiet (r : Reply) : Logged := r.map fun v => (v, #[])

/-- The operation a request names. -/
def route (op : String) (r : Value) : Logged :=
  match op with
  | "field_value" => quiet (fieldValue r)
  | "change_set" => quiet (changeSet r)
  | "decode" => quiet (decode r)
  | "validate" => quiet (validate r)
  | "encode_result" => quiet (encodeResult r)
  | "content_address" => quiet (address r)
  | "store" => quiet (store r)
  | "error_display" => quiet (errorDisplay r)
  | "settings" => quiet (settings r)
  | "document" => document r
  | "batch" => batch r
  | "assemble" => assemble r
  | "host" => host r
  | "envelope" => quiet (envelope r)
  | "config" => quiet (config r)
  | "telemetry" => quiet (telemetry r)
  | "pg" => database r
  | "cli" => quiet (cli r)
  | other => badInput ("unknown op " ++ Quoted.json other)

/-- A result with its events added, when the request asks for them. -/
def withEvents (wanted : Bool) (v : Value) (events : Array Event) : Value :=
  match wanted, v with
  | true, .obj ms => .obj (ms ++ [("events", .arr (events.toList.map eventInfo))])
  | _, v => v

/-- Serves one request. -/
def serve (r : Value) : Value :=
  let reply : Logged := do
    match r with
    | .obj _ => route (← textOr r "op" "") r
    | _ => badInput "a request is a JSON object"
  match reply, flag r "events" with
  | .ok (v, events), .ok wanted => .obj [("ok", withEvents wanted v events)]
  | .ok _, .error e => e
  | .error e, _ => e

/-- Serves one line of JSON text. -/
def answer (line : String) : String :=
  match Value.parse line with
  | .ok r => (serve r).render
  | .error e => (errorObject "BadInput" ("request is not JSON: " ++ e.message)).render

end Service

end DocBatch
