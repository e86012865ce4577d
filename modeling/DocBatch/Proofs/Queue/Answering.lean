import Mathlib.Logic.Relation
import DocBatch.Proofs.Engine.Source
import DocBatch.Queue.Source

/-!
# Answering through the database's queues

The queue source answers a task by sending a response to the output queue and archiving the
task's message in the input queue: two calls of the database, with no transaction around
them. Every guarantee of delivery rests on their order and on where a failure stops the
call. This module shows what each call of the source does to the database, as a sequence of
database calls, from any database (any queue content, any calls made to fail) and whatever
its waits bring, so long as nothing else uses the database meanwhile (`KeepsDatabase`).

* Answering a success or an invalidity (`AnswerThenArchive`) sends the one answer, and
  archives the task's message only once the answer is sent. When the send fails, its error
  is returned and nothing has changed; when archiving fails, its error is returned with the
  answer sent.
* Answering a rejection (`Responded`) sends nothing: it only sets the visibility of the
  task's message to the redelivery delay.
* A pull (`Pulled`) is a run of passes, each of which reads the input queue once. A message
  that carries no task (its body is no task envelope, or its data is not base64) is never
  given as a task: it is answered as invalid, with the envelope fault as the reason and the
  body's `taskId` when that is a text, and then archived, in the same way as an answer.

`AnswerThenArchive.queues` and `Changes.release_queues` read these off the queues: at most one
new message at the end of the output queue, the message archived only if that message went
out, and no other queue touched. The main statement is `source_answers_before_archiving`.

What this does not say: nothing ties a response on the output queue to the number of its
task's message, only to the task's correlation identifier; and what other clients of the
database do while a pull waits for its next poll is left out.
-/

namespace DocBatch

namespace Queue

open Proc

variable {ω : Type} {rt : Runtime (Shared (Env Database ω))} {s s' : Shared (Env Database ω)}
  {tr : List (Wake (Shared (Env Database ω)))} {q : QueueSettings}

/-- While a call waits, nothing else uses the database. -/
def KeepsDatabase (rt : Runtime (Shared (Env Database ω))) : Prop :=
  ∀ w s r s', rt w s r s' → s'.rest.fx.store = s.rest.fx.store

/-- The answer a task gets on the output queue, if it gets one: a success carries the data in
base64, an invalidity its reason, both echoing the task's correlation identifier, classifier
and version; a rejection gets none. -/
def answerFor (t : Task) : Response → Option ResponseEnvelope
  | .success data =>
    some { correlationId := t.correlationId, classifier := t.classifier, apiVersion := t.apiVersion,
           status := statusSuccess, data := some (Base64.encode data) }
  | .invalid reason =>
    some { correlationId := t.correlationId, classifier := t.classifier, apiVersion := t.apiVersion,
           status := statusInvalid, reason := some reason }
  | .rejected _ => none

/-- A call that changes the database, seen from outside: it succeeds with the new database, or
fails with its error and leaves the database as it was. -/
inductive Changes (f : Database → Except Error Database) (db : Database) :
    Except Error Unit → Database → Prop
  | ok {db' : Database} : f db = .ok db' → Changes f db (.ok ()) db'
  | error {e : Error} : f db = .error e → Changes f db (.error e) db

/-- An answer sent before its message is archived: the send failed, and its error is returned
with nothing changed; or the answer went to the output queue, and then the message was archived,
or archiving failed with its error returned. -/
inductive AnswerThenArchive (q : QueueSettings) (env : ResponseEnvelope) (id : Int) (db : Database) :
    Except Error Unit → Database → Prop
  | unsent {e : Error} : db.send q.outputQueue env.toJson = .error e →
      AnswerThenArchive q env id db (.error e) db
  | sent {n : Nat} {db₁ db₂ : Database} {res : Except Error Unit} :
      db.send q.outputQueue env.toJson = .ok (n, db₁) →
      Changes (·.archive q.inputQueue id) db₁ res db₂ → AnswerThenArchive q env id db res db₂

/-- What answering a task does to the database: a success or an invalidity is sent, and the
task's message archived only once it is sent; a rejection sends nothing and releases the
task's message for the redelivery delay. -/
def Responded (q : QueueSettings) (t : Task) (r : Response) (db : Database)
    (res : Except Error Unit) (db' : Database) : Prop :=
  match answerFor t r with
  | some env => AnswerThenArchive q env t.id db res db'
  | none => Changes (·.release q.inputQueue t.id q.redeliveryDelaySecs) db res db'

/-- A pass of a pull after which it reads again: the input queue showed no message, or the
message read carried no task, was answered as invalid and was archived. -/
inductive ReadsOn (q : QueueSettings) : Database → Database → Prop
  | empty {db db₁ : Database} : db.read q.inputQueue q.visibilityTimeout = (.ok none, db₁) →
      ReadsOn q db db₁
  | discarded {db db₁ db₂ : Database} {m : QueueMessage} {e : Error} :
      db.read q.inputQueue q.visibilityTimeout = (.ok (some m), db₁) →
      TaskEnvelope.task m.id m.body = .error e →
      AnswerThenArchive q (unreadable m e) m.id db₁ (.ok ()) db₂ → ReadsOn q db db₂

/-- The last pass of a pull, with what the pull gives: the read failed; or it gave a message
carrying a task, which the pull gives; or it showed no message; or the message read carried no
task and was answered as invalid, the pull ending with nothing or with the failure of the
answer. -/
inductive Ends (q : QueueSettings) : Database → Except Error (Option Task) → Database → Prop
  | readFailed {db db₁ : Database} {e : Error} :
      db.read q.inputQueue q.visibilityTimeout = (.error e, db₁) → Ends q db (.error e) db₁
  | task {db db₁ : Database} {m : QueueMessage} {t : Task} :
      db.read q.inputQueue q.visibilityTimeout = (.ok (some m), db₁) →
      TaskEnvelope.task m.id m.body = .ok t → Ends q db (.ok (some t)) db₁
  | empty {db db₁ : Database} : db.read q.inputQueue q.visibilityTimeout = (.ok none, db₁) →
      Ends q db (.ok none) db₁
  | discarded {db db₁ db₂ : Database} {m : QueueMessage} {e : Error} {res : Except Error Unit} :
      db.read q.inputQueue q.visibilityTimeout = (.ok (some m), db₁) →
      TaskEnvelope.task m.id m.body = .error e →
      AnswerThenArchive q (unreadable m e) m.id db₁ res db₂ → Ends q db (res.map fun _ => none) db₂

/-- A pull, pass by pass: passes that read on, then one that ends it. -/
def Pulled (q : QueueSettings) (db : Database) (res : Except Error (Option Task)) (db' : Database) :
    Prop :=
  ∃ db₁, Relation.ReflTransGen (ReadsOn q) db db₁ ∧ Ends q db₁ res db'

/-! ## Runs of the source's calls -/

theorem exec_call {α : Type} {f : Database → Except Error (α × Database)} {r : Except Error α}
    (h : Exec rt (call f) s s' r tr) :
    tr = [] ∧ ((∃ a db, f s.rest.fx.store = .ok (a, db) ∧ r = .ok a ∧ s'.rest.fx.store = db) ∨
      (∃ e, f s.rest.fx.store = .error e ∧ r = .error e ∧ s'.rest.fx.store = s.rest.fx.store)) := by
  obtain ⟨rfl, rfl, rfl⟩ := (Eng.exec_work _).1 h
  refine ⟨rfl, ?_⟩
  cases hf : f s.rest.fx.store with
  | ok p =>
    refine .inl ⟨p.1, p.2, rfl, ?_, ?_⟩ <;> simp only [StateT.run_modifyGet, hf] <;> rfl
  | error e =>
    refine .inr ⟨e, rfl, ?_, ?_⟩ <;> simp only [StateT.run_modifyGet, hf] <;> rfl

theorem exec_change {f : Database → Except Error Database} {r : Except Error Unit}
    (h : Exec rt (change f) s s' r tr) : tr = [] ∧ Changes f s.rest.fx.store r s'.rest.fx.store := by
  obtain ⟨rfl, ⟨a, db, hf, rfl, hs⟩ | ⟨e, hf, rfl, hs⟩⟩ := exec_call h
  · refine ⟨rfl, ?_⟩
    cases hg : f s.rest.fx.store with
    | ok db' =>
      simp only [hg, Except.map, Except.ok.injEq, Prod.mk.injEq] at hf
      rw [hs, ← hf.2]
      exact .ok hg
    | error e => simp [hg, Except.map] at hf
  · refine ⟨rfl, ?_⟩
    cases hg : f s.rest.fx.store with
    | ok db' => simp [hg, Except.map] at hf
    | error e' =>
      simp only [hg, Except.map, Except.error.injEq] at hf
      rw [hs, ← hf]
      exact .error hg

/-- Logging leaves the database alone. -/
theorem exec_emit_store {e : Event} {u : Unit} (h : Exec rt (Eng.emit e) s s' u tr) :
    s'.rest.fx.store = s.rest.fx.store ∧ tr = [] := by
  obtain ⟨rfl, rfl⟩ := (Eng.exec_emit e).1 h
  exact ⟨rfl, rfl⟩

theorem exec_answerAndArchive {env : ResponseEnvelope} {id : Int} {r : Except Error Unit}
    (h : Exec rt (answerAndArchive q env id) s s' r tr) :
    tr = [] ∧ AnswerThenArchive q env id s.rest.fx.store r s'.rest.fx.store := by
  simp only [answerAndArchive, sendResponse, bind_eq, exec_bind] at h
  obtain ⟨s₁, r₁, tr₁, tr₂, hsend, h, rfl⟩ := h
  obtain ⟨rfl, ⟨_, db, hf, rfl, hs⟩ | ⟨e, hf, rfl, hs⟩⟩ := exec_call hsend
  · cases hsent : s.rest.fx.store.send q.outputQueue env.toJson with
    | error e => simp [hsent, Except.map] at hf
    | ok p =>
      obtain ⟨n, db₁⟩ := p
      simp only [hsent, Except.map, Except.ok.injEq, Prod.mk.injEq] at hf
      obtain ⟨-, rfl⟩ := hf
      obtain ⟨rfl, hch⟩ := exec_change h
      rw [hs] at hch
      exact ⟨rfl, .sent hsent hch⟩
  · cases hsent : s.rest.fx.store.send q.outputQueue env.toJson with
    | ok p => simp [hsent, Except.map] at hf
    | error e' =>
      simp only [hsent, Except.map, Except.error.injEq] at hf
      subst hf
      obtain ⟨rfl, rfl, rfl⟩ := (exec_done _).1 h
      refine ⟨rfl, ?_⟩
      rw [hs]
      exact .unsent hsent

theorem exec_respond {t : Task} {r : Response} {res : Except Error Unit}
    (h : Exec rt (respond q t r) s s' res tr) :
    tr = [] ∧ Responded q t r s.rest.fx.store res s'.rest.fx.store := by
  cases r with
  | success data => exact exec_answerAndArchive h
  | invalid reason => exact exec_answerAndArchive h
  | rejected reason =>
    simp only [respond, bind_eq, exec_bind] at h
    obtain ⟨s₁, u, tr₁, tr₂, he, h, rfl⟩ := h
    obtain ⟨hs, rfl⟩ := exec_emit_store he
    obtain ⟨rfl, hch⟩ := exec_change h
    rw [hs] at hch
    exact ⟨rfl, hch⟩

theorem exec_readInput {r : Except Error (Option QueueMessage)}
    (h : Exec rt (readInput q) s s' r tr) :
    tr = [] ∧ s.rest.fx.store.read q.inputQueue q.visibilityTimeout = (r, s'.rest.fx.store) := by
  obtain ⟨rfl, rfl, rfl⟩ := (Eng.exec_work _).1 h
  exact ⟨rfl, rfl⟩

/-- One pass of a pull reads the input queue once and either reads on or ends the pull; a pass
that waits for the next poll keeps the database, since nothing else uses it meanwhile. -/
theorem exec_pullStep (hrt : KeepsDatabase rt) {deadline : Nat} {r : Unit ⊕ Except Error (Option Task)}
    (h : Exec rt (pullStep q deadline) s s' r tr) :
    Sum.elim (fun _ => ReadsOn q s.rest.fx.store s'.rest.fx.store)
      (fun res => Ends q s.rest.fx.store res s'.rest.fx.store) r := by
  simp only [pullStep, bind_eq, exec_bind] at h
  obtain ⟨s₁, r₁, tr₁, tr₂, hread, h, rfl⟩ := h
  obtain ⟨rfl, hr⟩ := exec_readInput hread
  cases r₁ with
  | error e =>
    obtain ⟨rfl, rfl, rfl⟩ := (exec_done _).1 h
    exact .readFailed hr
  | ok o =>
    cases o with
    | none =>
      simp only [exec_bind, Act.exec_now] at h
      obtain ⟨_, _, _, tr₃, ⟨rfl, rfl, rfl⟩, h, rfl⟩ := h
      split at h
      · obtain ⟨rfl, rfl, rfl⟩ := (exec_done _).1 h
        exact .empty hr
      · simp only [Act.sleepUntil, bind_eq, pure_eq, exec_bind, exec_await, exec_done] at h
        obtain ⟨s₂, u, tr₄, tr₅, ⟨s₃, w, tr₆, tr₇, ⟨hw, rfl⟩, ⟨rfl, -, rfl⟩, rfl⟩, ⟨rfl, rfl, rfl⟩, rfl⟩ := h
        have hkeep := hrt _ _ _ _ hw
        simp only [Sum.elim_inl]
        rw [hkeep]
        exact .empty hr
    | some m =>
      cases ht : TaskEnvelope.task m.id m.body with
      | ok t =>
        simp only [ht, exec_bind] at h
        obtain ⟨s₂, u, tr₃, tr₄, he, h, rfl⟩ := h
        obtain ⟨hs, rfl⟩ := exec_emit_store he
        obtain ⟨rfl, rfl, rfl⟩ := (exec_done _).1 h
        simp only [Sum.elim_inr]
        rw [hs]
        exact .task hr ht
      | error e =>
        simp only [ht, exec_bind] at h
        obtain ⟨s₂, u, tr₃, tr₄, he, h, rfl⟩ := h
        obtain ⟨hs, rfl⟩ := exec_emit_store he
        obtain ⟨s₃, res, tr₅, tr₆, ha, h, rfl⟩ := h
        obtain ⟨rfl, hans⟩ := exec_answerAndArchive ha
        rw [hs] at hans
        cases res with
        | error err =>
          obtain ⟨rfl, rfl, rfl⟩ := (exec_done _).1 h
          exact Ends.discarded hr ht hans
        | ok u =>
          simp only [exec_bind, Act.exec_now] at h
          obtain ⟨_, _, _, tr₇, ⟨rfl, rfl, rfl⟩, h, rfl⟩ := h
          split at h
          · obtain ⟨rfl, rfl, rfl⟩ := (exec_done _).1 h
            exact Ends.discarded hr ht hans
          · obtain ⟨rfl, rfl, rfl⟩ := (exec_done _).1 h
            exact ReadsOn.discarded hr ht hans

/-- A pull is a run of passes: some that read on, then one that ends it. -/
theorem exec_pull (hrt : KeepsDatabase rt) {maxWait : Nat} {res : Except Error (Option Task)}
    (h : Exec rt (pull q maxWait) s s' res tr) : Pulled q s.rest.fx.store res s'.rest.fx.store := by
  simp only [pull, Proc.iterate, bind_eq, exec_bind, Act.exec_now] at h
  obtain ⟨s₀, _, _, tr₁, ⟨rfl, rfl, rfl⟩, h, rfl⟩ := h
  have hloop := Exec.loop_invariant
    (I := fun _ s₁ _ => Relation.ReflTransGen (ReadsOn q) s₀.rest.fx.store s₁.rest.fx.store)
    (J := fun res s₁ _ => Pulled q s₀.rest.fx.store res s₁.rest.fx.store) ?_ [] .refl h
  · obtain ⟨res', s₁, tr₂, tr₃, hJ, hdone, rfl⟩ := hloop
    obtain ⟨rfl, rfl, rfl⟩ := (exec_done _).1 hdone
    exact hJ
  intro _ s₁ s₂ r tr₂ _ hI hpass
  cases r with
  | inl u => exact hI.tail (exec_pullStep hrt hpass)
  | inr res => exact ⟨_, hI, exec_pullStep hrt hpass⟩

/-! ## What the queues show -/

/-- A message that carries no task fails with an envelope fault naming the message. -/
theorem TaskEnvelope.task_error_envelope {n : Int} {v : Json.Value} {e : Error}
    (h : TaskEnvelope.task n v = .error e) :
    ∃ reason, e = .envelope ("message " ++ toString n ++ ": " ++ reason) := by
  cases hd : TaskEnvelope.decoder.readValue v with
  | error f =>
    simp only [TaskEnvelope.task, hd, Bind.bind, Except.bind, Except.mapError, Except.error.injEq] at h
    exact ⟨_, h.symm⟩
  | ok env =>
    cases hb : (env.data.map Base64.decode).getD (pure []) with
    | error f =>
      simp only [TaskEnvelope.task, hd, hb, Bind.bind, Except.bind, Except.mapError,
        Except.error.injEq] at h
      exact ⟨_, h.symm⟩
    | ok bs =>
      simp only [TaskEnvelope.task, hd, hb, Bind.bind, Except.bind, Except.mapError] at h
      cases h

/-- An answer sent before its message is archived leaves at most one new message, the answer,
at the end of the output queue; archives the message only if the answer went out; succeeds
exactly when it archived; and touches no other queue. -/
theorem AnswerThenArchive.queues (hq : q.inputQueue ≠ q.outputQueue) {env : ResponseEnvelope}
    {id : Int} {db db' : Database} {res : Except Error Unit}
    (h : AnswerThenArchive q env id db res db') :
    ∃ sent archived : Bool, (archived → sent) ∧ (res = .ok () ↔ archived) ∧
      db'.queue? q.outputQueue =
        (db.queue? q.outputQueue).map (fun oq => if sent then (oq.push env.toJson).2 else oq) ∧
      db'.queue? q.inputQueue =
        (db.queue? q.inputQueue).map (fun iq => if archived then iq.archiveMessage id.toNat else iq) ∧
      ∀ key, key ≠ q.inputQueue → key ≠ q.outputQueue → db'.queue? key = db.queue? key := by
  cases h with
  | unsent hsend => exact ⟨false, false, by simp, by simp, by simp, by simp, fun _ _ _ => rfl⟩
  | sent hsend hch =>
    obtain ⟨oq, hoq, -, hsent⟩ := Database.send_eq_ok hsend
    have hin : _ = db.queue? q.inputQueue := (hsent q.inputQueue).trans (if_neg hq)
    cases hch with
    | ok harch =>
      obtain ⟨iq, hiq, harch⟩ := Database.archive_eq_ok harch
      rw [hin] at hiq
      refine ⟨true, true, fun _ => rfl, by simp, ?_, ?_, fun key hi ho => ?_⟩
      · rw [harch, if_neg (Ne.symm hq), hsent, if_pos rfl, hoq]
        rfl
      · rw [harch, if_pos rfl, hiq]
        rfl
      · rw [harch, if_neg hi, hsent, if_neg ho]
    | error harch =>
      refine ⟨true, false, by simp, by simp, ?_, by simp [hin], fun key _ ho => ?_⟩
      · rw [hsent, if_pos rfl, hoq]
        rfl
      · rw [hsent, if_neg ho]

/-- A release leaves the output queue and every queue but the input queue alone; it changes
the visibility of the message in the input queue exactly when it succeeds. -/
theorem Changes.release_queues {id : Int} {db db' : Database} {res : Except Error Unit}
    (h : Changes (·.release q.inputQueue id q.redeliveryDelaySecs) db res db') :
    ∃ released : Bool, (res = .ok () ↔ released) ∧
      db'.queue? q.inputQueue = (db.queue? q.inputQueue).map
        (fun iq => if released then iq.release id.toNat q.redeliveryDelaySecs else iq) ∧
      ∀ key, key ≠ q.inputQueue → db'.queue? key = db.queue? key := by
  cases h with
  | ok hrel =>
    obtain ⟨iq, hiq, hrel⟩ := Database.release_eq_ok hrel
    refine ⟨true, by simp, ?_, fun key hk => by rw [hrel, if_neg hk]⟩
    rw [hrel, if_pos rfl, hiq]
    rfl
  | error _ => exact ⟨false, by simp, by simp, fun _ _ => rfl⟩

/-- A pull gives a task only from a message that carries it. -/
theorem Pulled.task_carried {db db' : Database} {t : Task}
    (h : Pulled q db (.ok (some t)) db') :
    ∃ db₁ m, Relation.ReflTransGen (ReadsOn q) db db₁ ∧
      (db₁.read q.inputQueue q.visibilityTimeout).1 = .ok (some m) ∧ TaskEnvelope.task m.id m.body = .ok t := by
  obtain ⟨db₁, hon, hend⟩ := h
  generalize hres : (Except.ok (some t) : Except Error (Option Task)) = res at hend
  cases hend with
  | task hr ht =>
    cases hres
    exact ⟨db₁, _, hon, by rw [hr], ht⟩
  | readFailed => cases hres
  | empty => cases hres
  | discarded hr ht hans =>
    rename_i res
    cases res <;> simp [Except.map] at hres

/-! ## The calls of the source -/

/-- Every call of the queue source, from any database and whatever its waits bring, so long as
nothing else uses the database meanwhile, keeps to its specification: an answer to a task goes
out before the task's message is archived, and a failed send stops the call with nothing
changed; a rejection only releases the task's message; a pull answers every message it reads
that carries no task as invalid, before archiving it, and gives only a task that a message
carries. -/
theorem source_answers_before_archiving (hrt : KeepsDatabase rt) :
    (∀ {t : Task} {r : Response} {s s' : Shared (Env Database ω)} {res : Except Error Unit}
        {tr : List (Wake (Shared (Env Database ω)))},
        Exec rt ((source q).respond t r) s s' res tr →
          Responded q t r s.rest.fx.store res s'.rest.fx.store) ∧
      ∀ {maxWait : Nat} {s s' : Shared (Env Database ω)} {res : Except Error (Option Task)}
        {tr : List (Wake (Shared (Env Database ω)))},
        Exec rt ((source q).next maxWait) s s' res tr →
          Pulled q s.rest.fx.store res s'.rest.fx.store :=
  ⟨fun h => (exec_respond h).2, fun h => exec_pull hrt h⟩

/-- The scripted world keeps the database: it moves the clock, sets the signal and may drop the
receiver of the answers, nothing else. -/
theorem outside_keepsDatabase (o : Outside) :
    KeepsDatabase (o.runtime : Runtime (Shared (Env Database ω))) := by
  intro w s r s' h
  have hs' : s' = (o.wake w s).2 := by rw [show o.wake w s = (r, s') from h]
  rcases o.wake_rest w s with hr | ⟨-, hr⟩ <;> rw [hs', hr]

/-- A database whose input queue holds a message that is no task envelope, then one carrying a
task of this worker with the correlation identifier `t2`; the output queue is empty. -/
def unreadableThenTask : Database :=
  { extension := true,
    queues := [("document_input",
        { messages := [{ id := 1, body := .null },
            { id := 2, body := TaskEnvelope.toJson
                { correlationId := some "t2", classifier := taskClassifier, apiVersion := taskFormat } }],
          lastId := 2 }),
      ("document_output", {})] }

/-- A pull from a queue led by a message that is no task envelope answers it as invalid and
archives it, then gives the task of the next message; answering that task with a success sends
its answer and archives its message. Both calls go as the theorem says: each answer is on the
output queue before its message is archived. -/
theorem source_answers_before_archiving_unreadable_first :
    ∃ (s₁ s₂ : Shared (Env Database Unit)) (t : Task) (tr₁ tr₂ : List (Wake (Shared (Env Database Unit)))),
      Exec (Outside.runtime ⟨5000, none⟩) ((source {}).next 1000)
        { rest := { fx := { store := unreadableThenTask, own := () } } } s₁ (.ok (some t)) tr₁ ∧
      Exec (Outside.runtime ⟨5000, none⟩) ((source {}).respond t (.success [1])) s₁ s₂ (.ok ()) tr₂ ∧
      t.correlationId = some "t2" ∧
      (s₂.rest.fx.store.queue? "document_output").map (fun mq => mq.messages.length) = some 2 ∧
      (s₂.rest.fx.store.queue? "document_input").map (fun mq => (mq.messages.length, mq.archive.length)) =
        some (0, 2) ∧
      Responded {} t (.success [1]) s₁.rest.fx.store (.ok ()) s₂.rest.fx.store ∧
      Pulled {} unreadableThenTask (.ok (some t)) s₁.rest.fx.store := by
  obtain ⟨s₂, o, tr, h, hfacts⟩ := exec_of_runFor_any (show
    (runFor (Outside.wake ⟨5000, none⟩) 1000
      (Proc.bind ((source {} : Source Database Unit).next 1000) fun r =>
        r.toOption.join.elim (.done none) fun t =>
          Proc.bind ((source {}).respond t (.success [1])) fun res => .done (some (t, res)))
      { rest := { fx := { store := unreadableThenTask, own := () } } }).any
      (fun x => x.2.1.any (fun p => p.2.isOk && p.1.correlationId == some "t2") &&
        (x.1.rest.fx.store.queue? "document_output").map (fun mq => mq.messages.length) == some 2 &&
        (x.1.rest.fx.store.queue? "document_input").map (fun mq => (mq.messages.length, mq.archive.length)) ==
          some (0, 2)) = true
    by decide +kernel)
  obtain ⟨s₁, r, tr₁, tr₂, hpull, hrest, rfl⟩ := (exec_bind _ _).1 h
  rcases r with e | _ | t
  · obtain ⟨rfl, rfl, rfl⟩ := (exec_done _).1 hrest
    simp at hfacts
  · obtain ⟨rfl, rfl, rfl⟩ := (exec_done _).1 hrest
    simp at hfacts
  obtain ⟨s₃, res, tr₃, tr₄, hresp, hdone, rfl⟩ := (exec_bind _ _).1 hrest
  obtain ⟨rfl, rfl, rfl⟩ := (exec_done _).1 hdone
  rcases res with e | ⟨⟩
  · simp only [Option.any_some, Bool.and_eq_true] at hfacts
    exact absurd hfacts.1.1.1 Bool.false_ne_true
  simp only [Option.any_some, Bool.and_eq_true, beq_iff_eq] at hfacts
  obtain ⟨⟨⟨-, hid⟩, hout⟩, hin⟩ := hfacts
  obtain ⟨hanswered, hpulled⟩ := source_answers_before_archiving (outside_keepsDatabase _)
  exact ⟨s₁, s₂, t, tr₁, tr₃, hpull, hresp, hid, hout, hin, hanswered hresp, hpulled hpull⟩

end Queue

end DocBatch
