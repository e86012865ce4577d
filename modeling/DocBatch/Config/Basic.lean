import DocBatch.Config.File
import DocBatch.Number.Digits

/-!
# Configuration

The worker is configured by environment variables and an optional settings file named by
`DOCWORKER_CONFIG`. The file gives the base worker and queue settings; variables override
single settings; then each group of settings is checked.

The steps run in a fixed order and the first fault stops them: the file; the worker
variables, then the worker check; the queue variables, then the queue check; the number of
database connections; the database address, which is required, last of all. A variable
that does not read as its setting's type is a fault naming the variable and its text.
-/

namespace DocBatch

/-- How the worker is configured. -/
structure Config where
  databaseUrl : String
  databaseMaxConnections : Nat
  otelEndpoint : Option String
  logLevel : String
  worker : WorkerSettings
  queue : QueueSettings
  deriving Repr, Inhabited

/-- Where configuration comes from: the value of each variable, and the text of each file
(or why it cannot be read). -/
structure Environment where
  var : String → Option String
  read : String → Except String String

namespace Config

/-- The database connections when no variable says otherwise. -/
def defaultMaxConnections : Nat := 10

/-- The settings of the file a path names. -/
def loadFile (env : Environment) (path : String) : Except Error SettingsFile :=
  match env.read path with
  | .error e => .error (.config ("cannot read settings file " ++ path ++ ": " ++ e))
  | .ok text => (SettingsFile.parse text).mapError fun m => .config ("bad settings file " ++ path ++ ": " ++ m)

/-- A setting replaced by the value of a variable, when it is set. -/
def override {α : Type} (env : Environment) (name : String) (read : String → Except IntegerFault α)
    (current : α) : Except Error α :=
  match env.var name with
  | none => .ok current
  | some raw =>
    (read raw).mapError fun e => .config (name ++ "=" ++ Quoted.debug raw ++ " is invalid: " ++ e.message)

/-- A text setting replaced by the value of a variable, when it is set. -/
def overrideText (env : Environment) (name : String) (current : String) : String :=
  (env.var name).getD current

/-- The largest value of a size. -/
def sizeMax : Nat := Nat.pow 2 64 - 1

/-- Worker settings with their variables applied. -/
def workerFrom (env : Environment) (w : WorkerSettings) : Except Error WorkerSettings := do
  let w := { w with maxBatchSize := ← override env "DOCWORKER_MAX_BATCH_SIZE" (readNatural sizeMax) w.maxBatchSize }
  let w := { w with maxBatchTimeMs := ← override env "DOCWORKER_MAX_BATCH_TIME_MS" (readNatural (Nat.pow 2 64 - 1)) w.maxBatchTimeMs }
  let w := { w with inlineThreshold := ← override env "DOCWORKER_INLINE_THRESHOLD" (readNatural sizeMax) w.inlineThreshold }
  let w := { w with storeRetries := ← override env "DOCWORKER_STORE_RETRIES" (readNatural (Nat.pow 2 32 - 1)) w.storeRetries }
  return w

/-- Queue settings with their variables applied. -/
def queueFrom (env : Environment) (q : QueueSettings) : Except Error QueueSettings := do
  let q := { q with inputQueue := overrideText env "DOCWORKER_INPUT_QUEUE" q.inputQueue }
  let q := { q with outputQueue := overrideText env "DOCWORKER_OUTPUT_QUEUE" q.outputQueue }
  let delay ← override env "DOCWORKER_REDELIVERY_DELAY_SECS" (readInteger (-(Int.pow 2 31)) (Int.pow 2 31 - 1))
    q.redeliveryDelaySecs
  return { q with redeliveryDelaySecs := delay }

/-- The configuration an environment gives, or the first fault. -/
def fromEnv (env : Environment) : Except Error Config := do
  let file ← match env.var "DOCWORKER_CONFIG" with
    | some path => loadFile env path
    | none => pure {}
  let worker ← workerFrom env file.worker
  worker.validate
  let queue ← queueFrom env file.queue
  queue.validate
  let connections ← override env "DATABASE_MAX_CONNECTIONS" (readNatural (Nat.pow 2 32 - 1)) defaultMaxConnections
  if connections = 0 then throw (.config "DATABASE_MAX_CONNECTIONS must be at least 1")
  let url ← match env.var "DATABASE_URL" with
    | some url => pure url
    | none => throw (.config "required environment variable DATABASE_URL is not set")
  return { databaseUrl := url, databaseMaxConnections := connections, otelEndpoint := env.var "OTEL_ENDPOINT",
           logLevel := (env.var "LOG_LEVEL").getD "info", worker := worker, queue := queue }

end Config

end DocBatch
