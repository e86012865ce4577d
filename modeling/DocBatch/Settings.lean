import DocBatch.Error
import DocBatch.Json.Decoder

/-!
# Settings of the worker and of its queues

Worker settings bound a batch (its size and how long it stays open after its first
document), say how large an inline value may be before it goes to the value store, and how
often a failed store is retried. Queue settings name the input and output queues and give
the visibility timeout, the poll interval and the delay before a rejected task comes back.

Every setting has a default, used for whatever a settings object leaves out. `validate`
checks what the types cannot: a batch holds at least one document; queue names are not
empty and differ; the visibility timeout is positive and the redelivery delay not negative.
-/

namespace DocBatch

/-- How batches are bounded and values offloaded. -/
structure WorkerSettings where
  maxBatchSize : Nat := 100
  maxBatchTimeMs : Nat := 2000
  inlineThreshold : Nat := 100
  storeRetries : Nat := 0
  deriving Repr, DecidableEq, Inhabited

namespace WorkerSettings

/-- Refuses a batch size of zero. -/
def validate (s : WorkerSettings) : Except Error Unit :=
  if s.maxBatchSize = 0 then .error (.config "max_batch_size must be a positive integer")
  else .ok ()

/-- The batch size the engine uses: at least one. -/
def batchLimit (s : WorkerSettings) : Nat := max 1 s.maxBatchSize

/-- The settings as a debugging view prints them. -/
def describe (s : WorkerSettings) : String :=
  "WorkerSettings \x7b max_batch_size: " ++ toString s.maxBatchSize ++
  ", max_batch_time_ms: " ++ toString s.maxBatchTimeMs ++
  ", inline_threshold: " ++ toString s.inlineThreshold ++
  ", store_retries: " ++ toString s.storeRetries ++ " \x7d"

/-- Reads worker settings; missing members keep their defaults. -/
def decoder : Json.Decoder WorkerSettings :=
  Json.Decoder.record "WorkerSettings"
    [{ key := "max_batch_size",
       isSet := fun (s : WorkerSettings × List String) => s.2.contains "max_batch_size",
       read := Json.Decoder.usize.map fun n s => ({ s.1 with maxBatchSize := n }, "max_batch_size" :: s.2) },
     { key := "max_batch_time_ms",
       isSet := fun s => s.2.contains "max_batch_time_ms",
       read := Json.Decoder.u64.map fun n s => ({ s.1 with maxBatchTimeMs := n }, "max_batch_time_ms" :: s.2) },
     { key := "inline_threshold",
       isSet := fun s => s.2.contains "inline_threshold",
       read := Json.Decoder.usize.map fun n s => ({ s.1 with inlineThreshold := n }, "inline_threshold" :: s.2) },
     { key := "store_retries",
       isSet := fun s => s.2.contains "store_retries",
       read := Json.Decoder.u32.map fun n s => ({ s.1 with storeRetries := n }, "store_retries" :: s.2) }]
    ({}, [])
    (·.1)

end WorkerSettings

/-- Where tasks come from and answers go, and how the queue is polled. -/
structure QueueSettings where
  inputQueue : String := "document_input"
  outputQueue : String := "document_output"
  visibilityTimeout : Int := 60
  pollIntervalMs : Nat := 250
  redeliveryDelaySecs : Int := 5
  deriving Repr, DecidableEq, Inhabited

namespace QueueSettings

/-- Checks the queue names, the visibility timeout and the redelivery delay, in that order. -/
def validate (s : QueueSettings) : Except Error Unit :=
  if s.inputQueue.isEmpty || s.outputQueue.isEmpty then
    .error (.config "queue names must not be empty")
  else if s.inputQueue == s.outputQueue then
    .error (.config ("input and output queue are both " ++ s.inputQueue))
  else if s.visibilityTimeout ≤ 0 then
    .error (.config "visibility_timeout must be positive")
  else if s.redeliveryDelaySecs < 0 then
    .error (.config "redelivery_delay_secs must not be negative")
  else .ok ()

/-- Reads queue settings; missing members keep their defaults. -/
def decoder : Json.Decoder QueueSettings :=
  Json.Decoder.record "QueueSettings"
    [{ key := "input_queue",
       isSet := fun (s : QueueSettings × List String) => s.2.contains "input_queue",
       read := Json.Decoder.string.map fun q s => ({ s.1 with inputQueue := q }, "input_queue" :: s.2) },
     { key := "output_queue",
       isSet := fun s => s.2.contains "output_queue",
       read := Json.Decoder.string.map fun q s => ({ s.1 with outputQueue := q }, "output_queue" :: s.2) },
     { key := "visibility_timeout",
       isSet := fun s => s.2.contains "visibility_timeout",
       read := Json.Decoder.i32.map fun n s =>
         ({ s.1 with visibilityTimeout := n }, "visibility_timeout" :: s.2) },
     { key := "poll_interval_ms",
       isSet := fun s => s.2.contains "poll_interval_ms",
       read := Json.Decoder.u64.map fun n s =>
         ({ s.1 with pollIntervalMs := n }, "poll_interval_ms" :: s.2) },
     { key := "redelivery_delay_secs",
       isSet := fun s => s.2.contains "redelivery_delay_secs",
       read := Json.Decoder.i32.map fun n s =>
         ({ s.1 with redeliveryDelaySecs := n }, "redelivery_delay_secs" :: s.2) }]
    ({}, [])
    (·.1)

end QueueSettings

end DocBatch
