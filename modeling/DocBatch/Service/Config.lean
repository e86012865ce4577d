import DocBatch.Config.Basic
import DocBatch.Service.Values
import DocBatch.Cli.Files

/-!
# Requests on configuration

`config` loads the configuration from the variables a request gives. The request may give
the text of a settings file; it is then the file `settings.toml` of the working directory,
which is otherwise empty, and `DOCWORKER_CONFIG` names it unless a variable says otherwise.
-/

namespace DocBatch

namespace Service

open Json

/-- The name of the settings file a request may give. -/
def settingsFileName : String := "settings.toml"

/-- What a reply shows of a configuration. -/
def configInfo (c : Config) : Value :=
  .obj [("database_url", .str c.databaseUrl), ("database_max_connections", .ofNat c.databaseMaxConnections),
    ("otel_endpoint", Value.ofOption c.otelEndpoint), ("log_level", .str c.logLevel),
    ("worker", .obj [("max_batch_size", .ofNat c.worker.maxBatchSize),
      ("max_batch_time_ms", .ofNat c.worker.maxBatchTimeMs),
      ("inline_threshold", .ofNat c.worker.inlineThreshold), ("store_retries", .ofNat c.worker.storeRetries)]),
    ("queue", .obj [("input_queue", .str c.queue.inputQueue), ("output_queue", .str c.queue.outputQueue),
      ("visibility_timeout", .ofInt c.queue.visibilityTimeout), ("poll_interval_ms", .ofNat c.queue.pollIntervalMs),
      ("redelivery_delay_secs", .ofInt c.queue.redeliveryDelaySecs)])]

/-- Reads variables given as an object of texts; the last of equal names counts. -/
def readVariables (r : Value) : Except Value (List (String × String)) := do
  let vars ← (← entries r "env").mapM fun (k, v) =>
    match v with
    | .str s => pure (k, s)
    | _ => badInput ("env." ++ k ++ " must be a string")
  return vars.reverse

/-- `config`: the configuration the request's variables and settings file give. -/
def config (r : Value) : Reply := do
  let vars ← readVariables r
  let settings ← text? r "toml"
  let preset := match settings with
    | some _ => [("DOCWORKER_CONFIG", settingsFileName)]
    | none => []
  let env : Environment :=
    { var := fun name => ((vars ++ preset).find? (·.1 == name)).map (·.2),
      read := Directory.read { files := (settings.map fun text => (settingsFileName, text)).toList } }
  lift (Config.fromEnv env |>.map configInfo)

end Service

end DocBatch
