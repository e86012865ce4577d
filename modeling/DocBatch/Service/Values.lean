import DocBatch.Service.Basic
import DocBatch.Field.Ledger
import DocBatch.Document.Codec
import DocBatch.Store.Memory
import DocBatch.Task.Validate

/-!
# Service operations on values

Operations that exercise one value type each: field values and their ledgers, task data and
patches through the JSON codec, task checks, content addresses and the memory store, error
texts, and settings.
-/

namespace DocBatch

namespace Service

open Json

/-- What a reply shows of a field value. -/
def fieldValueInfo (v : FieldValue) : Value :=
  .obj [("wire", .str v.toJson.render), ("encoding", .str v.encoding.name),
    ("data", .str v.data), ("is_reference", .bool v.isReference),
    ("reference_str", Value.ofOption v.referenceStr?),
    ("string_value", Value.ofOption v.stringValue?),
    ("bytes", inPlace ofBytes v.bytes)]

/-- Reads a field value in wire form. -/
def readFieldValue (v : Value) : Except Value FieldValue :=
  lift ((FieldValue.decoder.readValue v).mapError .codec)

/-- Reads a list of field values in wire form. -/
def readFieldValues (v : Value) : Except Value (List FieldValue) :=
  lift (((Decoder.list FieldValue.decoder).readValue v).mapError .codec)

/-- `field_value`: reads a value in wire form, or makes one. -/
def fieldValue (r : Value) : Reply := do
  match r.field? "value" with
  | some v => return fieldValueInfo (← readFieldValue v)
  | none =>
    let make ← textOr r "make" ""
    let octets ← data r
    let textual := (Utf8.decode? octets).getD ""
    match make with
    | "text" => return fieldValueInfo (.text textual)
    | "binary" => return fieldValueInfo (.binary octets)
    | "reference" => return fieldValueInfo (.reference textual)
    | other => badInput ("unknown make " ++ other)

/-- What a reply shows of a ledger against a field's original values. -/
def ledgerInfo (original : List FieldValue) (l : Ledger) : Value :=
  .obj [("action", .str l.action.name), ("pending", .arr (l.pending.map FieldValue.toJson)),
    ("has_changes", .bool l.hasChanges), ("has_values", .bool (l.hasValues original)),
    ("current", .arr ((l.current original).map FieldValue.toJson)),
    ("string_values", ofStrings (l.strings original)),
    ("to_changes", match l.toChange? with
      | some c => .str c.toJson.render
      | none => .null)]

/-- One step on a ledger. -/
def ledgerStep (l : Ledger) (step : Value) : Except Value Ledger := do
  match ← textOr step "op" "" with
  | "push" => return l.push (← readFieldValue ((step.field? "value").getD .null))
  | "clear" => return l.clear
  | "reset" => return l.reset
  | "inspect" => return l
  | other => badInput ("unknown change_set op " ++ other)

/-- The views after each of a list of steps on a ledger. -/
def ledgerSteps (original : List FieldValue) : Ledger → List Value → Except Value (List Value)
  | _, [] => .ok []
  | l, step :: rest => do
    let l ← ledgerStep l step
    return ledgerInfo original l :: (← ledgerSteps original l rest)

/-- `change_set`: a ledger under a list of edits, viewed after each. -/
def changeSet (r : Value) : Reply := do
  let original ← readFieldValues ((r.field? "original").getD (.arr []))
  let steps ← ledgerSteps original {} (← items r "ops")
  return .obj [("steps", .arr steps)]

/-- `decode`: task data read by the JSON codec. -/
def decode (r : Value) : Reply := do
  let p ← lift (Codec.json.decode (← data r))
  return .obj [("payload", p.toJson)]

/-- The data of a task given in a request: a JSON payload (written compactly, members
sorted), text or base64; none at all is empty data. -/
def taskData (r : Value) : Except Value Bytes := do
  match r.field? "payload" with
  | some p => return Utf8.encode p.canonical.render
  | none => return (← octets? r "payload_raw" "payload_b64").getD (← data r)

/-- A task given in a request. -/
def readTask (r : Value) : Except Value Task := do
  let version ← match member? r "api_version" with
    | some (.num (.int i)) =>
      if 0 ≤ i && i < Int.pow 2 32 then pure i.toNat
      else badInput "api_version must be a non-negative integer"
    | some _ => badInput "api_version must be a non-negative integer"
    | none => pure taskFormat
  return { id := (← int? r "id" (-(Int.pow 2 63)) (Int.pow 2 63 - 1)).getD 0,
           correlationId := ← text? r "correlation_id",
           classifier := ← textOr r "classifier" taskClassifier,
           apiVersion := version,
           data := ← taskData r }

/-- `validate`: the check of one task. -/
def validate (r : Value) : Reply := do
  let t ← readTask r
  match t.check Codec.json with
  | .ok p => return .obj [("valid", p.toJson)]
  | .error refusal =>
    let response := refusal.toResponse
    return .obj [("refused", .str refusal.kind), ("reason", .str refusal.reason),
      ("response", .str response.kind), ("is_success", .bool response.isSuccess)]

/-- `encode_result`: a patch written by the JSON codec. -/
def encodeResult (r : Value) : Reply := do
  let p ← lift ((Patch.decoder.readValue ((r.field? "result").getD .null)).mapError .codec)
  let bs ← lift (Codec.json.encode p)
  return .obj [("encoded", .str ((Utf8.decode? bs).getD "")), ("is_empty", .bool p.isEmpty)]

/-- `content_address`: the reference of some octets. -/
def address (r : Value) : Reply := do
  return .str (contentAddress (← data r) (← text? r "hint"))

/-- One step on a memory store. -/
def memoryStep (s : MemoryStore) (step : Value) : Except Value Value × MemoryStore :=
  match textOr step "op" "" with
  | .ok "store" =>
    match data step, text? step "hint" with
    | .ok bs, .ok hint => let (ref, s) := s.insert bs hint; (.ok (.str ref), s)
    | .error e, _ => (.error e, s)
    | _, .error e => (.error e, s)
  | .ok "retrieve" =>
    match textOr step "reference" "" with
    | .ok ref => (.ok (inPlace ofBytes (ValueStore.get s ref)), s)
    | .error e => (.error e, s)
  | .ok "len" => (.ok (.obj [("len", .ofNat s.size), ("is_empty", .bool s.isEmpty)]), s)
  | .ok other => (badInput ("unknown store op " ++ other), s)
  | .error e => (.error e, s)

/-- `store`: steps on one memory store. -/
def store (r : Value) : Reply := do
  let (steps, _) := eachStep memoryStep (← items r "ops") {}
  return .obj [("steps", .arr steps)]

/-- `error_display`: the text of an error of a given family. -/
def errorDisplay (r : Value) : Reply := do
  let message ← textOr r "message" ""
  let shown := fun (e : Error) => Except.ok (Value.obj [("display", .str e.message)])
  match ← textOr r "kind" "" with
  | "Config" => shown (.config message)
  | "Envelope" => shown (.envelope message)
  | "Store" => shown (.store message)
  | "NotFound" => shown (.notFound message)
  | "Other" => shown (.other message)
  | "Transient" =>
    let fresh : TransientError := ⟨message, none⟩
    return .obj [("display", .str fresh.display),
      ("from_error", .str (TransientError.ofError (.other message)).display),
      ("message", .str fresh.message)]
  | other => badInput ("unknown error kind " ++ other)

/-- What a reply shows of worker settings. -/
def workerInfo (s : WorkerSettings) : Value :=
  .obj [("max_batch_size", .ofNat s.maxBatchSize), ("max_batch_time_ms", .ofNat s.maxBatchTimeMs),
    ("inline_threshold", .ofNat s.inlineThreshold), ("store_retries", .ofNat s.storeRetries),
    ("max_batch_time_ms_as_duration", .ofNat s.maxBatchTimeMs),
    ("limits_max_batch_size", .ofNat s.batchLimit),
    ("validate", inPlace (fun _ => .str "ok") s.validate)]

/-- What a reply shows of queue settings. -/
def queueInfo (s : QueueSettings) : Value :=
  .obj [("input_queue", .str s.inputQueue), ("output_queue", .str s.outputQueue),
    ("visibility_timeout", .ofInt s.visibilityTimeout), ("poll_interval_ms", .ofNat s.pollIntervalMs),
    ("redelivery_delay_secs", .ofInt s.redeliveryDelaySecs),
    ("validate", inPlace (fun _ => .str "ok") s.validate)]

/-- `settings`: worker and queue settings read and checked. -/
def settings (r : Value) : Reply :=
  let worker := (r.field? "worker").map fun v =>
    ("worker", inPlace workerInfo ((WorkerSettings.decoder.readValue v).mapError .codec))
  let queue := (r.field? "queue").map fun v =>
    ("queue", inPlace queueInfo ((QueueSettings.decoder.readValue v).mapError .codec))
  .ok (.obj (worker.toList ++ queue.toList))

end Service

end DocBatch
