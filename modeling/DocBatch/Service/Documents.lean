import DocBatch.Service.Values
import DocBatch.Document.Edit

/-!
# Service operations on documents

A document request decodes a task's data into a document and runs a list of steps on it or
on a subdocument reached by `path`. The steps add, clear and reset field values, read them,
load them from the value store, record failures, and report the document's changes and
patch. Each step answers in place, an error included, and the next step still runs.

The value store of a request is a memory store that counts its writes and may be told to
refuse them: all of them (`broken`) or the first few (`flaky`). Reads always succeed as the
memory store's do. The codec may be told to refuse every patch it is asked to write.
-/

namespace DocBatch

namespace Service

open Json

/-- Which writes a store refuses. -/
inductive Refusing where
  | none
  | all
  | first (count : Nat)
  deriving Repr, Inhabited

/-- A memory store that counts its writes and refuses some of them. -/
structure CountingStore where
  memory : MemoryStore := {}
  refusing : Refusing := .none
  attempts : Nat := 0
  deriving Inhabited

/-- Whether the write numbered `n` (from 0) is refused. -/
def Refusing.refuses : Refusing → Nat → Bool
  | .none, _ => false
  | .all, _ => true
  | .first k, n => n < k

instance : ValueStore CountingStore where
  put s data hint :=
    let s' := { s with attempts := s.attempts + 1 }
    if s.refusing.refuses s.attempts then (.error (.store "scripted store failure"), s')
    else
      let (r, m) := s.memory.insert data hint
      (.ok r, { s' with memory := m })
  get s reference := ValueStore.get s.memory reference

/-- The store a request asks for. -/
def readStore (r : Value) : Except Value CountingStore := do
  match member? r "store" with
  | none => return {}
  | some s =>
    match ← textOr s "kind" "memory" with
    | "memory" => return {}
    | "broken" => return { refusing := .all }
    | "flaky" => return { refusing := .first (← natOr s "fail_first" (Nat.pow 2 64 - 1) 0) }
    | other => badInput ("unknown store kind " ++ other)

/-- The codec a request asks for. -/
def readCodec (r : Value) : Except Value Codec := do
  match ← textOr r "codec" "json" with
  | "json" => return Codec.json
  | "failing_encode" => return { Codec.json with encode := fun _ => .error (.other "scripted encode failure") }
  | other => badInput ("unknown codec " ++ other)

/-- The worker settings a request gives, each missing one at its default. -/
def readSettings (r : Value) : Except Value WorkerSettings := do
  match member? r "settings" with
  | none => return {}
  | some s =>
    let d : WorkerSettings := {}
    return { maxBatchSize := ← natOr s "max_batch_size" (Nat.pow 2 64 - 1) d.maxBatchSize,
             maxBatchTimeMs := ← natOr s "max_batch_time_ms" (Nat.pow 2 64 - 1) d.maxBatchTimeMs,
             inlineThreshold := ← natOr s "inline_threshold" (Nat.pow 2 64 - 1) d.inlineThreshold,
             storeRetries := ← natOr s "store_retries" (Nat.pow 2 32 - 1) d.storeRetries }

/-- The context a request asks for. -/
def readContext (r : Value) : Except Value Context := do
  return { settings := ← readSettings r, codec := ← readCodec r }

/-- An event as a reply shows it. -/
def eventInfo (e : Event) : Value :=
  .obj [("level", .str e.level.name), ("message", .str e.message), ("fields", .obj (sortMembers e.fields))]

/-- A step's answer for a field's values. -/
def valuesInfo (vs : List FieldValue) : Value := .obj [("values", .arr (vs.map FieldValue.toJson))]

/-- A patch written by a codec, as a reply shows it. -/
def patchInfo (codec : Codec) (p : Patch) : Value :=
  inPlace (fun bs => .obj [("encoded", .str ((Utf8.decode? bs).getD "")), ("is_empty", .bool p.isEmpty)])
    (codec.encode p)

/-- What a reply shows of one field. -/
def fieldInfo (d : Document) (name : String) : Value :=
  let l := d.ledger name
  let original := d.original name
  .obj [("name", .str name), ("original", .arr (original.map FieldValue.toJson)),
    ("values", .arr ((l.current original).map FieldValue.toJson)),
    ("string_values", ofStrings (l.strings original)),
    ("has_changes", .bool l.hasChanges), ("has_values", .bool (l.hasValues original))]

/-- A step on a document, for the computations of processing code. -/
abbrev Step (σ ω : Type) := ExceptT Value (Work σ ω)

/-- Raises an error of a step. -/
def fail {σ ω α : Type} (e : Except Value α) : Step σ ω α := ExceptT.mk (pure e)

/-- Runs a computation of processing code as a step. -/
def work {σ ω α : Type} (w : Work σ ω α) : Step σ ω α := ExceptT.lift w

/-- The value of a field at an index of a step. -/
def valueAt {σ ω : Type} (d : Document) (name : String) (step : Value) : Step σ ω FieldValue := do
  let i ← fail (natOr step "index" (Nat.pow 2 64 - 1) 0)
  match (d.values name)[i]? with
  | some v => return v
  | none => fail (.error (errorObject "BadIndex" "no value at index"))

/-- Runs one step on a document and answers it. -/
def onDocument {σ ω : Type} [ValueStore σ] (ctx : Context) (op : String) (step : Value)
    (d : Document) : Step σ ω (Document × Value) := do
  let name ← fail (textOr step "field" "")
  match op with
  | "add" =>
    let d ← work (d.addText ctx name (← fail (textOr step "text" "")))
    return (d, valuesInfo (d.values name))
  | "add_bytes" =>
    let d ← work (d.addBytes ctx name ((← fail (octets? step "text" "b64")).getD []))
    return (d, valuesInfo (d.values name))
  | "add_reference" =>
    let d := (d.touch name).addReference name (← fail (textOr step "reference" ""))
    return (d, valuesInfo (d.values name))
  | "clear" => let d := d.clearField name; return (d, valuesInfo (d.values name))
  | "reset" => let d := d.resetField name; return (d, valuesInfo (d.values name))
  | "inspect" => let d := d.touch name; return (d, fieldInfo d name)
  | "value" => return (d.touch name, fieldValueInfo (← valueAt d name step))
  | "load" =>
    let v ← valueAt d name step
    return (d.touch name, inPlace ofBytes (← work (Document.load v)))
  | "add_failure" =>
    let d := d.addFailure (← fail (text? step "id")) (← fail (text? step "message"))
    return (d, .arr (d.failures.map Failure.toJson))
  | "custom_data" => return (d, Value.ofOption (d.customData? (← fail (textOr step "key" ""))))
  | "field_names" => return (d, ofStrings d.fieldNames)
  | "reference" => return (d, Value.ofOption d.reference)
  | "subdocuments" => return (d, .arr (d.subdocuments.map fun s => Value.ofOption s.reference))
  | "debug" => return (d, .str d.describe)
  | "context_debug" => return (d, .str ctx.describe)
  | "has_changes" => return (d, .bool d.hasChanges)
  | "changes" => return (d, .str d.changes.toJson.render)
  | "result" => return (d, patchInfo Codec.json d.toPatch)
  | other => fail (badInput ("unknown document op " ++ Quoted.json other))

/-- The path of a step: positions of subdocuments, one per level. -/
def pathOf (step : Value) : Except Value (List Nat) := do
  let xs ← items step "path"
  xs.mapM fun
    | .num (.int i) => if 0 ≤ i then pure i.toNat else badInput "path holds positions"
    | _ => badInput "path holds positions"

/-- Runs one step on a document or the subdocument its path reaches. -/
def documentStep {σ ω : Type} [ValueStore σ] (ctx : Context) (d : Document) (step : Value) :
    Work σ ω (Value × Document) := do
  let run : Step σ ω (Document × Value) := do
    let op ← fail (textOr step "op" "")
    let path ← fail (pathOf step)
    match ← Document.visit (onDocument ctx op step) path d with
    | some r => return r
    | none => fail (.error (errorObject "BadPath" "no subdocument at path"))
  match ← run.run with
  | .ok (d, v) => return (v, d)
  | .error e => return (e, d)

/-- Runs steps on a document in order, answering each. -/
def documentSteps {σ ω : Type} [ValueStore σ] (ctx : Context) :
    Document → List Value → Work σ ω (List Value × Document)
  | d, [] => return ([], d)
  | d, step :: rest => do
    let (v, d) ← documentStep ctx d step
    let (vs, d) ← documentSteps ctx d rest
    return (v :: vs, d)

/-- The task data a request gives for a document: a JSON payload (written compactly, members
sorted), text or base64, or none. -/
def payloadData (r : Value) : Except Value (Option Bytes) := do
  match member? r "payload" with
  | some p => return some (Utf8.encode p.canonical.render)
  | none => octets? r "payload_raw" "payload_b64"

/-- The document a request gives: its data decoded, or an empty one. -/
def readDocument (codec : Codec) (r : Value) : Except Value Document := do
  match ← payloadData r with
  | some bs => return Document.ofPayload (← lift (codec.decode bs))
  | none => return Document.ofPayload {}

/-- `document`: steps on one document, with the store's counts. -/
def document (r : Value) : Except Value (Value × Array Event) := do
  let ctx ← readContext r
  let store ← readStore r
  let d ← readDocument ctx.codec r
  let steps ← items r "ops"
  let ((answers, _), fx) := (documentSteps (ω := Unit) ctx d steps).run { store := store, own := () }
  return (.obj [("steps", .arr answers), ("store_attempts", .ofNat fx.store.attempts),
    ("store_len", .ofNat fx.store.memory.size)], fx.events)

end Service

end DocBatch
