import DocBatch.Service.Engine
import DocBatch.Queue.Source
import DocBatch.Text.Timestamp

/-!
# Requests on the database

A database session starts from a described database and runs a list of steps on it, one
after the other, on the virtual clock: the calls of the database itself, the queue source's
pulls and answers, and whole batch runs with the database as task source and value store.
Each step is answered in place, an error as its error object; a step that names an answer
of no known kind stops the session, and the request is answered with that error alone.
Otherwise the answer holds the steps' answers and the database as it is at the end.

A database is described by whether it is `migrated` (extension and value table exist, no
migration recorded) and has the `extension`, its `queues` (which need the extension) with
their messages, its `values` (which need the value table), and the calls made to `fail`.
-/

namespace DocBatch

namespace Service

open Json

/-- A database session's world. -/
abbrev Session := Env Database Notes

/-- Reads a described database. -/
def readDatabase (r : Value) : Except Value Database := do
  match member? r "db" with
  | none => return {}
  | some d =>
    let migrated ← flag d "migrated"
    let queues ← (← entries d "queues").mapM fun (name, v) => do
      match v with
      | .arr bodies =>
        let messages := (bodies.zip (List.range bodies.length)).map fun (body, i) =>
          ({ id := i + 1, body := body } : QueueMessage)
        pure (name, ({ messages := messages, lastId := bodies.length } : MessageQueue))
      | _ => badInput ("queue " ++ name ++ " must be an array")
    let values ← (← entries d "values").mapM fun (reference, v) => do
      match v with
      | .str s => pure (reference, Utf8.encode s)
      | _ => badInput ("value " ++ reference ++ " must be a string")
    let failures := (← entries d "fail").filterMap fun (name, v) =>
      match Call.ofName? name, v with
      | some c, .str m => some (c, m)
      | _, _ => none
    return { extension := migrated || (← flag d "extension") || !queues.isEmpty,
             valuesTable := migrated || !values.isEmpty,
             queues := queues, values := values, failures := failures }

/-- A message as a dump shows it. -/
def messageInfo (m : QueueMessage) : Value :=
  .obj [("msg_id", .ofNat m.id), ("read_ct", .ofNat m.readCount), ("visible", .bool m.visible),
    ("message", m.body)]

/-- The database as a dump shows it. -/
def databaseInfo (db : Database) : Value :=
  .obj [("extension", .bool db.extension), ("values_table", .bool db.valuesTable),
    ("migrations", .arr (db.migrations.map fun m =>
      .obj [("version", .ofNat m.version), ("description", .str m.description), ("success", .bool true)])),
    ("queues", .obj (db.queues.map fun (name, q) =>
      (name, .obj [("messages", .arr (q.messages.map messageInfo)), ("archive", .arr (q.archive.map messageInfo))]))),
    ("values", .obj (db.values.map fun (reference, data) => (reference, .str (Utf8.decodeLossy data))))]

/-- A message read from a queue, as a reply shows it. -/
def readInfo (m : QueueMessage) : Value :=
  .obj [("msg_id", .ofNat m.id), ("read_ct", .ofNat m.readCount),
    ("enqueued_at", .str (Timestamp.render Database.epoch)),
    ("vt", .str (Timestamp.render (Database.epoch + m.offset))), ("message", m.body)]

/-- A task as a reply shows it. -/
def taskInfo (t : Task) : Value :=
  .obj [("id", .ofInt t.id), ("correlation_id", Value.ofOption t.correlationId),
    ("classifier", .str t.classifier), ("api_version", .ofNat t.apiVersion), ("data", ofBytes t.data)]

/-- The answer of a step that gives nothing. -/
def done : Except Error Unit → Value := inPlace fun () => .str "ok"

/-- Reads the task of a `respond` step. -/
def readRespondTask (step : Value) : Except Value Task := do
  let t := (member? step "task").getD (.obj [])
  return { id := (← int? t "id" (-(Int.pow 2 63)) (Int.pow 2 63 - 1)).getD 0, correlationId := ← text? t "correlation_id",
           classifier := ← textOr t "classifier" taskClassifier,
           apiVersion := ← natOr t "api_version" (Nat.pow 2 32 - 1) taskFormat }

/-- Reads the answer of a `respond` step. -/
def readResponse (step : Value) : Except Value Response := do
  let r := (member? step "response").getD (.obj [])
  match ← textOr r "kind" "" with
  | "success" => return .success (← data r)
  | "invalid" => return .invalid (← textOr r "reason" "")
  | "rejected" => return .rejected (← textOr r "reason" "")
  | other => badInput ("unknown response kind " ++ Quoted.json other)

/-- A batch run of a session, with the worker's log and cursor answers of this run only. -/
def sessionBatch (ctx : Context) (q : QueueSettings) (step : Value) : Eng Database Notes (Except Value Value) := do
  match readWorker step with
  | .error e => return .error e
  | .ok (script, single) =>
    Eng.work (note fun n => { n with calls := 0, log := #[], steps := #[] })
    let report ← runBatch ctx (Queue.source q) (script.processor ctx single)
    let notes := (← Act.own).fx.own
    return .ok (.obj [("report", reportInfo report false), ("cursor", .arr notes.steps.toList),
      ("log", .arr notes.log.toList)])

/-- Runs one step of a session: its answer, or the error that stops the session. -/
def sessionStep (ctx : Context) (q : QueueSettings) (step : Value) : Eng Database Notes (Except Value Value) := do
  let queueOf := fun (s : Value) => (textOr s "queue" q.inputQueue).toOption.getD q.inputQueue
  let intOf := fun (s : Value) (key : String) (d : Int) =>
    ((int? s key (-(Int.pow 2 63)) (Int.pow 2 63 - 1)).toOption.bind id).getD d
  match (textOr step "op" "").toOption.getD "" with
  | "migrate" => return .ok (done (← Queue.change (·.migrate)))
  | "health" => return .ok (done ((← Act.own).fx.store.health))
  | "create_queue" => return .ok (done (← Queue.change (·.createQueue (queueOf step))))
  | "send" =>
    let body := (step.field? "message").getD .null
    return .ok (inPlace Value.ofNat (← Queue.call (·.send (queueOf step) body)))
  | "read" =>
    let r ← Eng.work (modifyGet fun s =>
      let (r, db) := s.store.read (queueOf step) (intOf step "vt" 30)
      (r, { s with store := db }))
    return .ok (inPlace (fun m => (m.map readInfo).getD .null) r)
  | "archive" => return .ok (done (← Queue.change (·.archive (queueOf step) (intOf step "msg_id" 0))))
  | "release" =>
    return .ok (done (← Queue.change (·.release (queueOf step) (intOf step "msg_id" 0) (intOf step "delay" 0))))
  | "store_value" =>
    match data step, text? step "hint" with
    | .ok bs, .ok hint => return .ok (inPlace Value.str (← Queue.call (·.storeValue bs hint)))
    | .error e, _ => return .ok e
    | _, .error e => return .ok e
  | "vs_store" =>
    match data step, text? step "hint" with
    | .ok bs, .ok hint =>
      let r ← Queue.call fun db => match ValueStore.put db bs hint with
        | (.ok reference, db) => .ok (reference, db)
        | (.error e, _) => .error e
      return .ok (inPlace Value.str r)
    | .error e, _ => return .ok e
    | _, .error e => return .ok e
  | "retrieve_value" =>
    let reference := (textOr step "reference" "").toOption.getD ""
    return .ok (inPlace ofBytes ((← Act.own).fx.store.retrieveValue reference))
  | "vs_retrieve" =>
    let reference := (textOr step "reference" "").toOption.getD ""
    return .ok (inPlace ofBytes (ValueStore.get (← Act.own).fx.store reference))
  | "ensure_queues" => return .ok (done (← Queue.ensureQueues q))
  | "next_task" =>
    let maxWait := ((nat? step "max_wait_ms" (Nat.pow 2 64 - 1)).toOption.bind id).getD 0
    return .ok (inPlace (fun t => (t.map taskInfo).getD .null) (← Queue.pull q maxWait))
  | "respond" =>
    match readRespondTask step, readResponse step with
    | .ok t, .ok r => return .ok (done (← Queue.respond q t r))
    | .error e, _ => return .error e
    | _, .error e => return .error e
  | "batch" => sessionBatch ctx q step
  | "fail" =>
    let failures := ((entries step "functions").toOption.getD []).filterMap fun (name, v) =>
      match Call.ofName? name, v with
      | some c, .str m => some (c, m)
      | _, _ => none
    Eng.work (modify fun s => { s with store := s.store.setFailures failures })
    return .ok (.str "ok")
  | "dump" => return .ok (databaseInfo (← Act.own).fx.store)
  | other => return .ok (errorObject "BadInput" ("unknown pg step " ++ Quoted.json other))

/-- Runs the steps of a session in order, noting their answers; an error that stops the
session is noted instead, and no later step runs. -/
def sessionSteps (ctx : Context) (q : QueueSettings) (steps : List Value) : Eng Database Notes Unit :=
  Proc.iterate steps fun
    | [] => return .inr ()
    | step :: rest => do
      match ← sessionStep ctx q step with
      | .ok v =>
        Eng.work (note fun n => { n with answers := n.answers.push v })
        return .inl rest
      | .error e =>
        Eng.work (note fun n => { n with stopped := some e })
        return .inr ()

/-- An event as a session reports it: the duration of a batch is left out. -/
def sessionEvent (e : Event) : Event :=
  if e.message == "batch completed" then { e with fields := e.fields.filter (·.1 != "duration_ms") } else e

/-- `pg`: a session on a database. -/
def database (r : Value) : Except Value (Value × Array Event) := do
  let db ← readDatabase r
  let q ← match member? r "queue" with
    | none => pure {}
    | some v =>
      match QueueSettings.decoder.readValue v with
      | .ok q => pure q
      | .error f => badInput ("bad queue settings: " ++ f.message)
  let ctx ← readContext r
  let steps ← items r "steps"
  let shared : Shared Session := { rest := { fx := { store := db, own := {} } } }
  let end_ := Schedule.run shared [sessionSteps ctx q steps] []
  let notes := end_.rest.fx.own
  match notes.stopped with
  | some e => throw e
  | none =>
    return (.obj [("steps", .arr notes.answers.toList), ("db", databaseInfo end_.rest.fx.store)],
      end_.rest.fx.events.map sessionEvent)

end Service

end DocBatch
