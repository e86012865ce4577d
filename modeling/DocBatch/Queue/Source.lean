import DocBatch.Engine.World
import DocBatch.Database.Queue
import DocBatch.Database.Values
import DocBatch.Queue.Envelope
import DocBatch.Settings

/-!
# Tasks from the database's queues

The queue source reads tasks from the input queue and sends answers to the output queue.

* A pull reads the input queue, hiding what it reads for the visibility timeout. A message
  that carries a task gives it, numbered by the message. A message that does not is
  answered on the spot as invalid (the answer keeps the message's `taskId` when that is a
  text, with an empty classifier and version 0) and archived, and the pull reads on unless
  its time is up. An empty queue is read again every poll interval until the time is up; with
  a poll interval of zero it is read again at once, the clock standing still.
* A success or an invalidity is sent to the output queue, echoing the task's correlation
  identifier, classifier and version, and the task's message is then archived. A rejection
  sends nothing: the message is released to come back after the redelivery delay.

A fault of the database ends the pull or the answer with that fault; what was done before
it stays done.
-/

namespace DocBatch

namespace Queue

variable {ω : Type}

/-- Runs a call of the database that gives a result. -/
def call {α : Type} (f : Database → Except Error (α × Database)) : Eng Database ω (Except Error α) :=
  Eng.work (modifyGet fun s =>
    match f s.store with
    | .ok (a, db) => (.ok a, { s with store := db })
    | .error e => (.error e, s))

/-- Runs a call of the database that gives nothing. -/
def change (f : Database → Except Error Database) : Eng Database ω (Except Error Unit) :=
  call fun db => (f db).map fun db => ((), db)

/-- Reads the input queue, hiding what it reads for the visibility timeout. -/
def readInput (q : QueueSettings) : Eng Database ω (Except Error (Option QueueMessage)) :=
  Eng.work (modifyGet fun s =>
    let (r, db) := s.store.read q.inputQueue q.visibilityTimeout
    (r, { s with store := db }))

/-- Creates the input and output queues unless they exist. -/
def ensureQueues (q : QueueSettings) : Eng Database ω (Except Error Unit) := do
  match ← change (·.createQueue q.inputQueue) with
  | .error e => return .error e
  | .ok () => change (·.createQueue q.outputQueue)

/-- Sends an answer to the output queue. -/
def sendResponse (q : QueueSettings) (e : ResponseEnvelope) : Eng Database ω (Except Error Unit) :=
  call fun db => (db.send q.outputQueue e.toJson).map fun (_, db) => ((), db)

/-- Sends an answer, then archives the task's message. -/
def answerAndArchive (q : QueueSettings) (e : ResponseEnvelope) (id : Int) : Eng Database ω (Except Error Unit) := do
  match ← sendResponse q e with
  | .error err => return .error err
  | .ok () => change (·.archive q.inputQueue id)

/-- The answer to a message that carries no task. -/
def unreadable (m : QueueMessage) (e : Error) : ResponseEnvelope :=
  { correlationId := (m.body.field? "taskId").bind Json.Value.str?, classifier := "", apiVersion := 0,
    status := statusInvalid, reason := some e.message }

/-- One read of a pull that ends at `deadline`: its result, or to read again. -/
def pullStep (q : QueueSettings) (deadline : Nat) : Eng Database ω (Unit ⊕ Except Error (Option Task)) := do
  match ← readInput q with
  | .error e => return .inr (.error e)
  | .ok (some m) =>
    match TaskEnvelope.task m.id m.body with
    | .ok t =>
      Eng.emit { level := .debug, message := "task read",
                 fields := [("task_id", .str (toString t.id)), ("read_ct", .ofNat m.readCount)] }
      return .inr (.ok (some t))
    | .error e =>
      Eng.emit { level := .warn, message := "discarding unreadable message",
                 fields := [("msg_id", .ofNat m.id), ("error", .str e.message)] }
      match ← answerAndArchive q (unreadable m e) m.id with
      | .error err => return .inr (.error err)
      | .ok () => if deadline ≤ (← Act.now) then return .inr (.ok none) else return .inl ()
  | .ok none =>
    let now ← Act.now
    if deadline ≤ now then return .inr (.ok none)
    Act.sleepUntil (min (now + q.pollIntervalMs) deadline)
    return .inl ()

/-- Pulls a task, waiting at most `maxWait` milliseconds. -/
def pull (q : QueueSettings) (maxWait : Nat) : Eng Database ω (Except Error (Option Task)) := do
  let deadline := (← Act.now) + maxWait
  Proc.iterate () fun () => pullStep q deadline

/-- Answers a task. -/
def respond (q : QueueSettings) (t : Task) (r : Response) : Eng Database ω (Except Error Unit) :=
  let envelope : ResponseEnvelope :=
    { correlationId := t.correlationId, classifier := t.classifier, apiVersion := t.apiVersion, status := "" }
  match r with
  | .success data =>
    answerAndArchive q { envelope with status := statusSuccess, data := some (Base64.encode data) } t.id
  | .invalid reason => answerAndArchive q { envelope with status := statusInvalid, reason := some reason } t.id
  | .rejected reason => do
    Eng.emit { level := .info, message := "task rejected, releasing for redelivery",
               fields := [("task_id", .str (toString t.id)), ("reason", .str reason),
                 ("delay_secs", .ofInt q.redeliveryDelaySecs)] }
    change (·.release q.inputQueue t.id q.redeliveryDelaySecs)

/-- The task source on the database's queues. -/
def source (q : QueueSettings) : Source Database ω := ⟨pull q, respond q⟩

end Queue

end DocBatch
