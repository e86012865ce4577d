import DocBatch.Proofs.Json.Yields
import DocBatch.Proofs.Queue.Redelivery
import DocBatch.Proofs.Text.RoundTrip
import DocBatch.Proofs.Engine.Verdicts
import DocBatch.Cli.Run

/-!
# Envelopes through the queues

A task goes to the input queue as the JSON value of its envelope, and an answer comes back on
the output queue as the JSON value of a response envelope. Both are read in the dictionary view
of values, with the task's data and a success's data in base64.

* Reading an envelope's value gives the envelope back, for a format version that fits 32 bits
  (`TaskEnvelope.decoder_readValue`, `ResponseEnvelope.decoder_readValue`). So the queue
  source reads the envelope of a document task as that task, numbered by its message
  (`TaskEnvelope.task_document`), and a pass of a pull that reads such a message ends the pull
  with it (`pullStep_document`).
* `submit` reads its file as a task's document and sends the envelope of that document's text
  (`Cli.Invocation.submit_sends`). A document read from text has sorted maps
  (`Payload.sorted_of_readBytes`), so the task the queue source builds from the message passes
  the checks with the same document when its text nests less than the reader allows
  (`Task.check_document`).
* A success goes out as a response envelope that echoes the task and whose data decodes to the
  success's data (`respond_success`).

What this does not say: a document nesting 127 levels in its file may nest 128 once written
with every member it has, and then the task built from it is refused (see
`Payload.decode_nested_iff`); the nesting condition of `Task.check_document` is that of the
written text.
-/

namespace DocBatch

namespace Json.Decoder

/-! ## Reading values -/

variable {α β σ : Type}

theorem map_value (f : α → β) (d : Decoder α) (v : Value) : (d.map f).value v = (d.value v).map f :=
  rfl

theorem string_value (s : String) : string.value (.str s) = .ok s := rfl

theorem optional_value_str (d : Decoder α) (s : String) :
    (optional d).value (.str s) = (d.value (.str s)).map some := rfl

/-- A natural number read from its JSON value as an unsigned 32-bit integer. -/
theorem u32_value {n : Nat} (h : n < Nat.pow 2 32) : u32.value (.ofNat n) = .ok n := by
  have hle : (n : Int) ≤ 4294967295 := by
    have : Nat.pow 2 32 = 4294967296 := rfl
    omega
  simp [u32, integer, Decoder.map, inRange, Value.ofNat, hle, Except.mapError, Except.map]

/-- A record reads an object's members in the order of their names, then checks that every
required slot is set. -/
theorem record_value_obj (name : String) (slots : List (Slot σ)) (init : σ) (build : σ → α)
    (ms : List (String × Value)) :
    (record name slots init build).value (.obj ms) =
      (fieldsValue slots init (sortMembers ms)).bind fun s =>
        match firstMissing slots s with
        | some k => .error (.bare (.missingField k))
        | none => .ok (build s) := rfl

end Json.Decoder

namespace Queue

open Json Decoder

/-! ## Envelopes read back -/

/-- A task envelope's value reads back as the envelope. -/
theorem TaskEnvelope.decoder_readValue (e : TaskEnvelope) (h : e.apiVersion < Nat.pow 2 32) :
    TaskEnvelope.decoder.readValue e.toJson = .ok e := by
  obtain ⟨c, cls, v, d⟩ := e
  have hv := u32_value (n := v) h
  cases c <;> cases d <;>
    simp only [TaskEnvelope.toJson, member?, readValue, decoder, record_value_obj, sortMembers,
      List.foldl_cons, List.foldl_nil, insertSorted, String.reduceLT, String.reduceEq, reduceIte,
      fieldsValue, List.find?_cons, String.reduceBEq, optionalText, map_value, string_value,
      optional_value_str, hv, Bind.bind, Except.bind, Except.map, List.nil_append,
      List.cons_append] <;>
    rfl

/-- A response envelope's value reads back as the envelope. -/
theorem ResponseEnvelope.decoder_readValue (e : ResponseEnvelope) (h : e.apiVersion < Nat.pow 2 32) :
    ResponseEnvelope.decoder.readValue e.toJson = .ok e := by
  obtain ⟨c, cls, v, st, d, r⟩ := e
  have hv := u32_value (n := v) h
  cases c <;> cases d <;> cases r <;>
    simp only [ResponseEnvelope.toJson, member?, readValue, decoder, record_value_obj, sortMembers,
      List.foldl_cons, List.foldl_nil, insertSorted, String.reduceLT, String.reduceEq, reduceIte,
      fieldsValue, List.find?_cons, String.reduceBEq, optionalText, map_value, string_value,
      optional_value_str, hv, Bind.bind, Except.bind, Except.map, List.nil_append,
      List.cons_append] <;>
    rfl

/-- The queue source reads a document task's envelope as the task, numbered by its message. -/
theorem TaskEnvelope.task_document (c : Option String) (data : Bytes) (n : Int) :
    TaskEnvelope.task n (TaskEnvelope.document c data).toJson =
      .ok { id := n, correlationId := c, classifier := taskClassifier, apiVersion := taskFormat,
            data := data } := by
  have hread := TaskEnvelope.decoder_readValue (TaskEnvelope.document c data)
    (show taskFormat < Nat.pow 2 32 by decide)
  rw [TaskEnvelope.task, hread]
  simp only [Except.mapError, Bind.bind, Except.bind, TaskEnvelope.document, Option.map_some,
    Option.getD_some, Base64.decode_encode]
  rfl

open Proc

variable {ω : Type} {rt : Runtime (Shared (Env Database ω))} {s s' : Shared (Env Database ω)}
  {tr : List (Wake (Shared (Env Database ω)))} {q : QueueSettings}

/-- A pass of a pull that reads a message holding a document task's envelope ends the pull
with that task, numbered by the message. -/
theorem pullStep_document {m : QueueMessage} {db : Database} {c : Option String} {data : Bytes}
    {deadline : Nat} {r : Unit ⊕ Except Error (Option Task)}
    (hbody : m.body = (TaskEnvelope.document c data).toJson)
    (hread : s.rest.fx.store.read q.inputQueue q.visibilityTimeout = (.ok (some m), db))
    (h : Exec rt (pullStep q deadline) s s' r tr) :
    r = .inr (.ok (some
      { id := m.id, correlationId := c, classifier := taskClassifier, apiVersion := taskFormat,
        data := data })) :=
  (exec_pullStep_task hread (hbody ▸ TaskEnvelope.task_document c data m.id) h).1

/-- Answering a success sends a response envelope that echoes the task, with the success's
data in base64, before the task's message is archived. -/
theorem respond_success {t : Task} {data : Bytes} {res : Except Error Unit}
    (h : Exec rt (respond q t (.success data)) s s' res tr) :
    AnswerThenArchive q
      { correlationId := t.correlationId, classifier := t.classifier, apiVersion := t.apiVersion,
        status := statusSuccess, data := some (Base64.encode data) }
      t.id s.rest.fx.store res s'.rest.fx.store :=
  (exec_respond h).2

end Queue

/-! ## The task `submit` sends -/

namespace Cli

/-- A step on the database after another: it runs from where the first left the database,
unless the first failed. -/
theorem Steps.run_bind {α β : Type} (x : Steps α) (f : α → Steps β) (db : Database) :
    ((x >>= f).run).run db = match (x.run).run db with
      | (.ok a, db₁) => ((f a).run).run db₁
      | (.error e, db₁) => (.error e, db₁) := by
  simp only [ExceptT.run_bind, StateT.run_bind]
  rcases (x.run).run db with ⟨r, db₁⟩
  cases r <;> rfl

theorem Steps.run_bind_eq_ok {α β : Type} {x : Steps α} {f : α → Steps β} {db db' : Database}
    {b : β} (h : ((x >>= f).run).run db = (.ok b, db')) :
    ∃ a db₁, (x.run).run db = (.ok a, db₁) ∧ ((f a).run).run db₁ = (.ok b, db') := by
  rw [Steps.run_bind] at h
  cases hx : (x.run).run db with
  | mk r db₁ =>
    rw [hx] at h
    cases r with
    | ok a => exact ⟨a, db₁, rfl, h⟩
    | error e => cases h

/-- A step of a command on the database that succeeds is the database's call succeeding. -/
theorem onDatabase_eq_ok {α : Type} {f : Database → Except Error (α × Database)}
    {db db' : Database} {a : α} (h : ((onDatabase f).run).run db = (.ok a, db')) :
    f db = .ok (a, db') := by
  have hget : ((get : Steps Database).run).run db = (.ok db, db) := rfl
  unfold onDatabase at h
  rw [Steps.run_bind, hget] at h
  dsimp only at h
  split at h
  · rename_i b db₁ hf
    rw [hf]
    cases h
    rfl
  · cases h

/-- A `submit` that succeeds has read its file as a task's document and sent, as its last step
on the database, the envelope of that document's text under the task identifier given or
generated. -/
theorem Invocation.submit_sends {inv : Invocation} {var : String → Option String}
    {config : Config} {file : String} {taskId : Option String} {db db' : Database} {out : String}
    (h : ((inv.submit var config file taskId).run).run db = (.ok out, db')) :
    ∃ text p, inv.read file = .ok text ∧ Payload.decoder.readBytes (Utf8.encode text) = .ok p ∧
      ∃ (db₁ : Database) (n : Nat), db₁.send config.queue.inputQueue
        (Queue.TaskEnvelope.document (some (taskId.getD generatedTaskId))
          (Utf8.encode p.toJson.render)).toJson = .ok (n, db') := by
  unfold Invocation.submit at h
  cases hread : inv.read file with
  | error m =>
    rw [hread] at h
    obtain ⟨_, _, hthrow, -⟩ := Steps.run_bind_eq_ok h
    cases hthrow
  | ok text =>
  rw [hread] at h
  obtain ⟨_, _, hpure, h⟩ := Steps.run_bind_eq_ok h
  cases hpure
  dsimp only at h
  cases hdec : Payload.decoder.readBytes (Utf8.encode text) with
  | error e =>
    rw [hdec] at h
    obtain ⟨_, _, hthrow, -⟩ := Steps.run_bind_eq_ok h
    cases hthrow
  | ok p =>
  rw [hdec] at h
  obtain ⟨_, _, hpure, h⟩ := Steps.run_bind_eq_ok h
  cases hpure
  obtain ⟨_, db₁, -, h⟩ := Steps.run_bind_eq_ok h
  obtain ⟨_, db₂, -, h⟩ := Steps.run_bind_eq_ok h
  obtain ⟨_, db₃, -, h⟩ := Steps.run_bind_eq_ok h
  obtain ⟨n, db₄, hsend, h⟩ := Steps.run_bind_eq_ok h
  cases h
  exact ⟨text, p, rfl, hdec, db₃, n, onDatabase_eq_ok hsend⟩

end Cli

namespace Task

/-- The task read from a document task's envelope whose data is the text of a sorted document
passes the checks with that document, when the text nests less than the reader allows. -/
theorem check_document {p : Payload} (hp : p.Sorted) (hd : p.toJson.depth < Json.Cursor.depthLimit)
    (n : Int) (c : Option String) :
    Task.check Codec.json
      { id := n, correlationId := c, classifier := taskClassifier, apiVersion := taskFormat,
        data := Utf8.encode p.toJson.render } = .ok p := by
  have hne : Utf8.encode p.toJson.render ≠ [] := by
    obtain ⟨b, r, htext, -⟩ := Json.Value.opens_obj _
    rw [Payload.toJson_eq, htext]
    exact List.cons_ne_nil b r
  exact check_eq_ok_iff.2 ⟨⟨rfl, rfl, hne⟩, Codec.json_decode_toJson hp hd⟩

end Task

/-! ## Tasks and answers through the queues -/

open Proc

/-- Documents travel through the queues intact. For every correlation identifier and data, the
queue source reads the document task's envelope as that task, numbered by its message, and a
pass of a pull that reads such a message ends the pull with the task. A `submit` that succeeds
has sent the envelope of the document it read from its file, and the task the queue source
builds from that message passes the checks with the same document when the document's text
nests less than the reader allows. Answering a success with the data sends, before archiving
the task's message, a response envelope that reads back as itself, echoes the task's
correlation identifier, classifier and version, and carries data that decodes to the data. -/
theorem envelopes_round_trip {ω : Type} (rt : Runtime (Shared (Env Database ω))) (q : QueueSettings)
    (c : Option String) (data : Bytes) :
    (∀ n : Int, Queue.TaskEnvelope.task n (Queue.TaskEnvelope.document c data).toJson =
        .ok { id := n, correlationId := c, classifier := taskClassifier, apiVersion := taskFormat,
              data := data }) ∧
    (∀ {deadline : Nat} {s s' : Shared (Env Database ω)} {r : Unit ⊕ Except Error (Option Task)}
        {tr : List (Wake (Shared (Env Database ω)))} {m : QueueMessage} {db : Database},
        m.body = (Queue.TaskEnvelope.document c data).toJson →
        s.rest.fx.store.read q.inputQueue q.visibilityTimeout = (.ok (some m), db) →
        Exec rt (Queue.pullStep q deadline) s s' r tr →
        r = .inr (.ok (some
          { id := m.id, correlationId := c, classifier := taskClassifier, apiVersion := taskFormat,
            data := data }))) ∧
    (∀ {inv : Cli.Invocation} {var : String → Option String} {config : Config} {file : String}
        {taskId : Option String} {db db' : Database} {out : String},
        ((inv.submit var config file taskId).run).run db = (.ok out, db') →
        ∃ text p, inv.read file = .ok text ∧ Payload.decoder.readBytes (Utf8.encode text) = .ok p ∧
          ∃ (db₁ : Database) (n : Nat),
            let body := (Queue.TaskEnvelope.document (some (taskId.getD Cli.generatedTaskId))
              (Utf8.encode p.toJson.render)).toJson
            db₁.send config.queue.inputQueue body = .ok (n, db') ∧
              (p.toJson.depth < Json.Cursor.depthLimit →
                ∃ t, Queue.TaskEnvelope.task n body = .ok t ∧ t.check Codec.json = .ok p)) ∧
    (∀ {t : Task} {s s' : Shared (Env Database ω)} {res : Except Error Unit}
        {tr : List (Wake (Shared (Env Database ω)))},
        t.apiVersion < Nat.pow 2 32 →
        Exec rt ((Queue.source q).respond t (.success data)) s s' res tr →
        ∃ env : Queue.ResponseEnvelope,
          Queue.AnswerThenArchive q env t.id s.rest.fx.store res s'.rest.fx.store ∧
          Queue.ResponseEnvelope.decoder.readValue env.toJson = .ok env ∧
          env.status = Queue.statusSuccess ∧ env.correlationId = t.correlationId ∧
          env.classifier = t.classifier ∧ env.apiVersion = t.apiVersion ∧
          ∃ encoded, env.data = some encoded ∧ Base64.decode encoded = .ok data) := by
  refine ⟨Queue.TaskEnvelope.task_document c data, fun hbody hread h =>
    Queue.pullStep_document hbody hread h, fun h => ?_, fun hv h => ?_⟩
  · obtain ⟨text, p, hread, hp, db₁, n, hsend⟩ := Cli.Invocation.submit_sends h
    refine ⟨text, p, hread, hp, db₁, n, hsend, fun hd => ⟨_, Queue.TaskEnvelope.task_document _ _ n, ?_⟩⟩
    exact Task.check_document (Payload.sorted_of_readBytes hp) hd n _
  · exact ⟨_, Queue.respond_success h, Queue.ResponseEnvelope.decoder_readValue _ hv, rfl, rfl, rfl,
      rfl, _, rfl, Base64.decode_encode data⟩

end DocBatch
