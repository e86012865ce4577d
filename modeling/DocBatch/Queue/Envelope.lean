import DocBatch.Task.Basic
import DocBatch.Json.Decoder
import DocBatch.Text.Base64

/-!
# Queue envelopes

A task travels through a message queue wrapped in an envelope: an optional correlation
identifier (`taskId`), the classifier, the format version and the task's data as base64
(`taskData`). An answer goes back in a response envelope that echoes the identifier,
classifier and version and adds a status, and either the data of a success or the reason
of an invalidity.

Written, an envelope has its members in that order, each optional member left out when
absent. Read, a missing `taskId`, `taskData` or `reason` is absent; every other member is
required.

`TaskEnvelope.task` is how a queue message becomes a task: the message's number is the
task's identifier, a missing `taskData` is empty data, and a message that is no envelope or
whose data is not base64 is an envelope error naming the message.
-/

namespace DocBatch

namespace Queue

/-- The status of a successful answer. -/
def statusSuccess : String := "RESULT_SUCCESS"

/-- The status of an answer saying the task can never be done. -/
def statusInvalid : String := "INVALID_TASK"

/-- A task as a queue message carries it. -/
structure TaskEnvelope where
  correlationId : Option String := none
  classifier : String
  apiVersion : Nat
  data : Option String := none
  deriving Repr, DecidableEq, Inhabited

/-- An answer as a queue message carries it. -/
structure ResponseEnvelope where
  correlationId : Option String := none
  classifier : String
  apiVersion : Nat
  status : String
  data : Option String := none
  reason : Option String := none
  deriving Repr, DecidableEq, Inhabited

/-- A member written only when present. -/
def member? (key : String) : Option String → List (String × Json.Value)
  | some s => [(key, .str s)]
  | none => []

/-- The wire form of a task envelope. -/
def TaskEnvelope.toJson (e : TaskEnvelope) : Json.Value :=
  .obj (member? "taskId" e.correlationId ++
    [("taskClassifier", .str e.classifier), ("taskApiVersion", .ofNat e.apiVersion)] ++
    member? "taskData" e.data)

/-- The wire form of a response envelope. -/
def ResponseEnvelope.toJson (e : ResponseEnvelope) : Json.Value :=
  .obj (member? "taskId" e.correlationId ++
    [("taskClassifier", .str e.classifier), ("taskApiVersion", .ofNat e.apiVersion),
     ("taskStatus", .str e.status)] ++
    member? "taskData" e.data ++ member? "reason" e.reason)

/-- The envelope of a document task of this worker's classifier and format. -/
def TaskEnvelope.document (correlationId : Option String) (data : Bytes) : TaskEnvelope :=
  { correlationId := correlationId, classifier := taskClassifier, apiVersion := taskFormat,
    data := some (Base64.encode data) }

/-- An optional text member of a record. -/
def optionalText {σ : Type} (key : String) (isSet : σ → Bool) (set : Option String → σ → σ) :
    Json.Decoder.Slot σ :=
  { key := key, isSet := isSet, read := (Json.Decoder.optional Json.Decoder.string).map set }

/-- Reads a task envelope. -/
def TaskEnvelope.decoder : Json.Decoder TaskEnvelope :=
  Json.Decoder.record "TaskEnvelope"
    [optionalText "taskId" (fun (s : Option (Option String) × Option String × Option Nat ×
        Option (Option String)) => s.1.isSome) fun i s => (some i, s.2),
     { key := "taskClassifier", required := true, requiredInArray := true,
       isSet := fun s => s.2.1.isSome,
       read := Json.Decoder.string.map fun c s => (s.1, some c, s.2.2) },
     { key := "taskApiVersion", required := true, requiredInArray := true,
       isSet := fun s => s.2.2.1.isSome,
       read := Json.Decoder.u32.map fun v s => (s.1, s.2.1, some v, s.2.2.2) },
     optionalText "taskData" (fun s => s.2.2.2.isSome) fun d s => (s.1, s.2.1, s.2.2.1, some d)]
    (none, none, none, none)
    fun s => { correlationId := s.1.getD none, classifier := s.2.1.getD "",
               apiVersion := s.2.2.1.getD 0, data := s.2.2.2.getD none }

/-- The parts of a response envelope read so far. -/
structure ResponseParts where
  correlationId : Option (Option String) := none
  classifier : Option String := none
  apiVersion : Option Nat := none
  status : Option String := none
  data : Option (Option String) := none
  reason : Option (Option String) := none

/-- Reads a response envelope. -/
def ResponseEnvelope.decoder : Json.Decoder ResponseEnvelope :=
  Json.Decoder.record "ResponseEnvelope"
    [optionalText "taskId" (fun (p : ResponseParts) => p.correlationId.isSome)
       fun i p => { p with correlationId := some i },
     { key := "taskClassifier", required := true, requiredInArray := true,
       isSet := fun p => p.classifier.isSome,
       read := Json.Decoder.string.map fun c p => { p with classifier := some c } },
     { key := "taskApiVersion", required := true, requiredInArray := true,
       isSet := fun p => p.apiVersion.isSome,
       read := Json.Decoder.u32.map fun v p => { p with apiVersion := some v } },
     { key := "taskStatus", required := true, requiredInArray := true,
       isSet := fun p => p.status.isSome,
       read := Json.Decoder.string.map fun t p => { p with status := some t } },
     optionalText "taskData" (fun p => p.data.isSome) fun d p => { p with data := some d },
     optionalText "reason" (fun p => p.reason.isSome) fun r p => { p with reason := some r }]
    {}
    fun p => { correlationId := p.correlationId.getD none, classifier := p.classifier.getD "",
               apiVersion := p.apiVersion.getD 0, status := p.status.getD "",
               data := p.data.getD none, reason := p.reason.getD none }

/-- The task a queue message carries, numbered by the message. -/
def TaskEnvelope.task (number : Int) (message : Json.Value) : Except Error Task := do
  let fault := fun (m : String) => Error.envelope ("message " ++ toString number ++ ": " ++ m)
  let e ← (TaskEnvelope.decoder.readValue message).mapError fun f => fault f.message
  let data ← (e.data.map Base64.decode).getD (pure []) |>.mapError fun f => fault ("taskData: " ++ f.message)
  return { id := number, correlationId := e.correlationId, classifier := e.classifier,
           apiVersion := e.apiVersion, data := data }

end Queue

end DocBatch
