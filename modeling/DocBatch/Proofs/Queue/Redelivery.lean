import DocBatch.Proofs.Queue.Polling

/-!
# Zero waits: the calls that never end

`QueueSettings.validate` accepts a redelivery delay of zero. A task refused as newer than this
worker is then released with offset zero, which shows its message again at once; the next read
of the input queue takes it again, and the attempt refuses it again. No call of the database
takes time on the virtual clock and no pass of that loop waits, so the attempt's deadline never
comes: from a state whose input queue is led by such a message, an attempt to admit does not
terminate, against any runtime (`Assembler.tryAdmit_spins`). One pass of it is
`Assembler.pullOnce_spins`: it reads the message, refuses its task and releases it, and ends
where it started but for the count of reads.

`validate` accepts a poll interval of zero too. An empty read then sleeps until the time it
already is, so a pull from an input queue with nothing to read, its deadline ahead, reads again
and again while the clock stands still (`Queue.pull_spins`), against any runtime that may end a
sleep whose time has come at once, as the scheduler does.

Together with `Queue.pull_terminates` and `Assembler.tryAdmit_queue_terminates` this settles
when the queue source's calls end (`queue_source_ends_iff`): for settings that `validate`
accepts and a runtime that keeps time, a pull always does exactly when the poll interval is
positive, and then an attempt to admit does from every state exactly when the redelivery delay
is positive.

What this does not say: in real time every call of the database takes some time, and there the
calls end at their deadline, after reading or refusing as often as the calls fit before it.
-/

namespace DocBatch

open Proc

/-! ## A queue led by a message that comes back -/

namespace MessageQueue

/-- Replacing the messages of one number leaves a list without that number as it is. -/
theorem map_of_id_ne {rest : List QueueMessage} {i : Nat} (g : QueueMessage → QueueMessage)
    (h : ∀ x ∈ rest, x.id ≠ i) : rest.map (fun x => if x.id == i then g x else x) = rest := by
  conv_rhs => rw [← List.map_id rest]
  refine List.map_congr_left fun x hx => ?_
  simp [h x hx]

/-- A read of a queue led by a visible message, the only one of its number, takes that
message. -/
theorem take_of_head {mq : MessageQueue} {m : QueueMessage} {rest : List QueueMessage}
    (hmsgs : mq.messages = m :: rest) (hvis : m.visible) (hrest : ∀ x ∈ rest, x.id ≠ m.id)
    (offset : Int) :
    mq.take offset = (some { m with readCount := m.readCount + 1, offset := offset, held := true },
      { mq with messages := { m with readCount := m.readCount + 1, offset := offset, held := true } :: rest }) := by
  unfold take
  rw [hmsgs, List.find?_cons_of_pos hvis]
  simp only [List.map_cons, beq_self_eq_true, ↓reduceIte, map_of_id_ne _ hrest]

/-- Releasing the first message of a queue, the only one of its number, changes only it. -/
theorem release_of_head {mq : MessageQueue} {m : QueueMessage} {rest : List QueueMessage}
    (hmsgs : mq.messages = m :: rest) (hrest : ∀ x ∈ rest, x.id ≠ m.id) (offset : Int) :
    mq.release m.id offset = { mq with messages := { m with offset := offset, held := false } :: rest } := by
  simp only [release, hmsgs, List.map_cons, beq_self_eq_true, ↓reduceIte, map_of_id_ne _ hrest]

end MessageQueue

namespace Database

theorem needQueue_eq_ok_of {db : Database} {c : Call} {name : String} {q : MessageQueue}
    (hc : db.failure? c = none) (hext : db.extension = true) (hq : db.queue? name = some q) :
    db.needQueue c name = .ok q := by
  simp [needQueue, guardExtension, guard, hc, hext, hq, Bind.bind, Except.bind, Pure.pure, Except.pure]

/-- The queue `name` is led by the message of number `id` with body `body`, visible and the
only one of its number, and the database lets reads and releases through. -/
structure Redelivers (db : Database) (name : String) (id : Nat) (body : Json.Value) : Prop where
  extension : db.extension = true
  readable : db.failure? .read = none
  releasable : db.failure? .setVisibility = none
  head : ∃ mq m rest, db.queue? name = some mq ∧ mq.messages = m :: rest ∧ m.id = id ∧
    m.body = body ∧ m.visible ∧ ∀ x ∈ rest, x.id ≠ id

/-- A read takes the first message, and releasing it with offset zero leads the queue with it
again, visible: only its count of reads has changed. -/
theorem Redelivers.read_release {db : Database} {name : String} {id : Nat} {body : Json.Value}
    (h : db.Redelivers name id body) (offset : Int) :
    ∃ m db₁ db₂, db.read name offset = (.ok (some m), db₁) ∧ m.id = id ∧ m.body = body ∧
      db₁.release name id 0 = .ok db₂ ∧ db₂.Redelivers name id body := by
  obtain ⟨mq, m, rest, hq, hmsgs, rfl, rfl, hvis, hrest⟩ := h.head
  have hneed : ({ db with reads := db.reads + 1 } : Database).needQueue .read name = .ok mq :=
    needQueue_eq_ok_of h.readable h.extension hq
  set m₁ : QueueMessage := { m with readCount := m.readCount + 1, offset := offset, held := true }
  set mq₁ : MessageQueue := { mq with messages := m₁ :: rest }
  set db₁ := ({ db with reads := db.reads + 1 } : Database).setQueue name mq₁
  have hread : db.read name offset = (.ok (some m₁), db₁) := by
    simp only [read, hneed, MessageQueue.take_of_head hmsgs hvis hrest offset]
    rfl
  have hq₁ : db₁.queue? name = some mq₁ := by
    rw [queue?_setQueue_of_eq mq₁ (show ({ db with reads := db.reads + 1 } : Database).queue? name = some mq from hq),
      if_pos rfl]
  set mq₂ : MessageQueue := { mq₁ with messages := { m₁ with offset := 0, held := false } :: rest }
  have hrel : db₁.release name m.id 0 = .ok (db₁.setQueue name mq₂) := by
    have hneed₁ : db₁.needQueue .setVisibility name = .ok mq₁ :=
      needQueue_eq_ok_of h.releasable h.extension hq₁
    simp only [release, hneed₁, Except.map, Int.toNat_natCast]
    rw [MessageQueue.release_of_head (m := m₁) rfl hrest]
  have hq₂ : (db₁.setQueue name mq₂).queue? name = some mq₂ := by
    rw [queue?_setQueue_of_eq mq₂ hq₁, if_pos rfl]
  exact ⟨m₁, db₁, _, hread, rfl, rfl, hrel,
    ⟨h.extension, h.readable, h.releasable, ⟨mq₂, _, rest, hq₂, rfl, rfl, rfl, rfl, hrest⟩⟩⟩

end Database

/-! ## The pass that comes back where it started -/

namespace Queue

variable {ω : Type} {rt : Runtime (Shared (Env Database ω))} {s : Shared (Env Database ω)}
  {q : QueueSettings}

/-- A task read from a message is numbered by the message. -/
theorem TaskEnvelope.task_id {n : Int} {v : Json.Value} {t : Task} (h : TaskEnvelope.task n v = .ok t) :
    t.id = n := by
  cases hd : TaskEnvelope.decoder.readValue v with
  | error f => simp [TaskEnvelope.task, hd, Bind.bind, Except.bind, Except.mapError] at h
  | ok env =>
    cases hb : (env.data.map Base64.decode).getD (pure []) with
    | error f => simp [TaskEnvelope.task, hd, hb, Bind.bind, Except.bind, Except.mapError] at h
    | ok bs =>
      simp only [TaskEnvelope.task, hd, hb, Bind.bind, Except.bind, Except.mapError] at h
      cases h
      rfl

/-- Reading the input queue runs as the database answers, and waits for nothing. -/
theorem readInput_exec (rt : Runtime (Shared (Env Database ω))) {r : Except Error (Option QueueMessage)}
    {db : Database} (hread : s.rest.fx.store.read q.inputQueue q.visibilityTimeout = (r, db)) :
    ∃ s', Exec rt (readInput q) s s' r [] := by
  have hs : Straight (readInput q : Eng Database ω _) := Eng.straight_work _
  obtain ⟨s', r', h⟩ : ∃ s' r', Exec rt (readInput q) s s' r' [] := hs.exec s
  obtain ⟨-, hr⟩ := exec_readInput h
  rw [hread, Prod.mk.injEq] at hr
  obtain ⟨rfl, -⟩ := hr
  exact ⟨s', h⟩

/-- A pass of a pull whose read gives a message carrying a task gives that task, waits for
nothing, and changes nothing but the read and the log. -/
theorem exec_pullStep_task {m : QueueMessage} {db : Database} {t : Task} {deadline : Nat}
    {s' : Shared (Env Database ω)} {r : Unit ⊕ Except Error (Option Task)}
    {tr : List (Wake (Shared (Env Database ω)))}
    (hread : s.rest.fx.store.read q.inputQueue q.visibilityTimeout = (.ok (some m), db))
    (ht : TaskEnvelope.task m.id m.body = .ok t) (h : Exec rt (pullStep q deadline) s s' r tr) :
    r = .inr (.ok (some t)) ∧ tr = [] ∧ EffectsOnly s s' ∧ s'.rest.fx.store = db := by
  simp only [pullStep, bind_eq, exec_bind] at h
  obtain ⟨s₁, r₁, tr₁, tr₂, hr, h, rfl⟩ := h
  have hs₁ := (Eng.work_effectsOnly hr).1
  obtain ⟨rfl, hr₁⟩ := exec_readInput hr
  rw [hread, Prod.mk.injEq] at hr₁
  obtain ⟨rfl, hst₁⟩ := hr₁
  simp only [ht, exec_bind] at h
  obtain ⟨s₂, u, tr₃, tr₄, he, h, rfl⟩ := h
  obtain ⟨hst₂, rfl⟩ := exec_emit_store he
  obtain ⟨rfl, rfl, rfl⟩ := (exec_done _).1 h
  exact ⟨rfl, rfl, hs₁.trans (Eng.emit_effectsOnly he).1, hst₂.trans hst₁.symm⟩

/-- A pull from a queue whose next read gives a message carrying a task gives that task at
once, without waiting. -/
theorem pull_of_read (rt : Runtime (Shared (Env Database ω))) {m : QueueMessage} {db : Database}
    {t : Task}
    (hread : s.rest.fx.store.read q.inputQueue q.visibilityTimeout = (.ok (some m), db))
    (ht : TaskEnvelope.task m.id m.body = .ok t) (maxWait : Nat) :
    ∃ s', Exec rt (pull q maxWait) s s' (.ok (some t)) [] ∧ EffectsOnly s s' ∧ s'.rest.fx.store = db := by
  obtain ⟨s₁, hr⟩ := readInput_exec rt hread
  obtain ⟨s₂, r, hpass⟩ : ∃ s₂ r, Exec rt (pullStep q (s.now + maxWait)) s s₂ r [] :=
    Straight.exec_bind hr (by simp only [ht]; exact (Eng.straight_emit _).bind fun _ => .done)
  obtain ⟨rfl, -, hs₂, hst₂⟩ := exec_pullStep_task hread ht hpass
  refine ⟨s₂, ?_, hs₂, hst₂⟩
  simp only [pull, Proc.iterate, bind_eq]
  refine (exec_bind _ _).2 ⟨s, s.now, [], [], Act.exec_now.2 ⟨rfl, rfl, rfl⟩, ?_, rfl⟩
  exact (exec_loop _ _ _).2 ((exec_bind _ _).2 ⟨s₂, _, [], [], hpass, (exec_done _).2 ⟨rfl, rfl, rfl⟩, rfl⟩)

/-- The body of a message carrying a task of the format after this worker's. -/
def newerTaskBody : Json.Value :=
  TaskEnvelope.toJson { classifier := taskClassifier, apiVersion := taskFormat + 1 }

/-- A database whose queue `name` holds one message, carrying a task of the format after this
worker's. -/
def newerTaskQueue (name : String) : Database :=
  { extension := true, queues := [(name, { messages := [{ id := 1, body := newerTaskBody }], lastId := 1 })] }

theorem redelivers_newerTaskQueue (name : String) :
    (newerTaskQueue name).Redelivers name 1 newerTaskBody := by
  refine ⟨rfl, rfl, rfl, { messages := [{ id := 1, body := newerTaskBody }], lastId := 1 },
    { id := 1, body := newerTaskBody }, [], ?_, rfl, rfl, rfl, rfl, by simp⟩
  simp [newerTaskQueue, Database.queue?]

end Queue

namespace Assembler

variable {ω : Type} {rt : Runtime (Shared (Env Database ω))} {s : Shared (Env Database ω)}
  {q : QueueSettings} {ctx : Context}

/-- A state from which an attempt with deadline `D` refuses one task again and again: the signal
unset, the deadline ahead, and the input queue led by the task's message, whose task is refused
as newer than this worker. -/
structure Spinning (q : QueueSettings) (ctx : Context) (D : Nat) (s : Shared (Env Database ω)) :
    Prop where
  running : s.shutdown = false
  early : s.now < D
  head : ∃ id body t r, s.rest.fx.store.Redelivers q.inputQueue id body ∧
    Queue.TaskEnvelope.task id body = .ok t ∧ t.check ctx.codec = .error (.rejected r)

/-- A pull raced against the signal, from a state where the signal is unset, is the pull of a
pass. -/
theorem pullOrShutdown_of_running {src : Source Database ω} {m : Nat} {s' : Shared (Env Database ω)}
    {r : Option (Except Error (Option Task))} {tr : List (Wake (Shared (Env Database ω)))}
    (hrun : s.shutdown = false) (h : Exec rt (unlessShutdown (src.next m)) s s' r tr) :
    Exec rt (pullOrShutdown src m) s s' r tr := by
  simp only [pullOrShutdown, bind_eq, pure_eq]
  refine (exec_bind _ _).2 ⟨s, s.shutdown, [], tr, Act.exec_isShutdown.2 ⟨rfl, rfl, rfl⟩, ?_, rfl⟩
  rw [hrun]
  exact h

/-- A pass whose pull gave a task that is refused goes on when the refusal ends before the
deadline. -/
theorem pullOnce_of_refused {src : Source Database ω} {D : Nat} {a a₁ : Assembler} {t : Task}
    {rf : Refusal} {s₁ s₂ : Shared (Env Database ω)} {tr₁ tr₂ : List (Wake (Shared (Env Database ω)))}
    (hpull : Exec rt (pullOrShutdown src (D - s.now)) s s₁ (some (.ok (some t))) tr₁)
    (hc : t.check ctx.codec = .error rf) (hr : Exec rt (a.refuse src t rf) s₁ s₂ a₁ tr₂)
    (hearly : s₂.now < D) : Exec rt (pullOnce ctx src D a) s s₂ (.inl a₁) (tr₁ ++ tr₂) := by
  simp only [pullOnce, bind_eq, pure_eq]
  refine (exec_bind _ _).2 ⟨s, s.now, [], _, Act.exec_now.2 ⟨rfl, rfl, rfl⟩, ?_, rfl⟩
  refine (exec_bind _ _).2 ⟨s₁, _, tr₁, tr₂, hpull, ?_, rfl⟩
  simp only [hc]
  refine (exec_bind _ _).2 ⟨s₂, a₁, tr₂, [], hr, ?_, (List.append_nil _).symm⟩
  refine (exec_bind _ _).2 ⟨s₂, s₂.now, [], [], Act.exec_now.2 ⟨rfl, rfl, rfl⟩, ?_, rfl⟩
  rw [if_neg (Nat.not_le.2 hearly)]
  exact (exec_done _).2 ⟨rfl, rfl, rfl⟩

/-- With a zero redelivery delay, a pass of an attempt from a spinning state reads the task,
refuses it, shows its message again and goes on, in a spinning state again, without waiting. -/
theorem pullOnce_spins (hd : q.redeliveryDelaySecs = 0) {D : Nat} (a : Assembler)
    (hs : Spinning q ctx D s) :
    ∃ a' s', Exec rt (pullOnce ctx (Queue.source q) D a) s s' (.inl a') [] ∧ Spinning q ctx D s' := by
  obtain ⟨id, body, t, r, hdb, ht, hc⟩ := hs.head
  obtain ⟨m, db₁, db₂, hread, rfl, rfl, hrel, hdb₂⟩ := hdb.read_release q.visibilityTimeout
  obtain ⟨s₁, ⟨i, hpull⟩, hs₁, hst₁⟩ := Queue.pull_of_read rt hread ht (D - s.now)
  have hraced : Exec rt (unlessShutdown (Queue.pull q (D - s.now))) s s₁ (some (.ok (some t))) [] :=
    ExecIn.unlessShutdown_of_nil i _ hpull
  obtain ⟨s₂, a₁, hrefuse⟩ : ∃ s₂ a₁, Exec rt (a.refuse (Queue.source q) t (.rejected r)) s₁ s₂ a₁ [] :=
    (straight_refuse_queue q t (.rejected r) a).exec s₁
  obtain ⟨hs₂, res, hresp⟩ := refuse_queue_exec hrefuse
  have hst₂ : s₂.rest.fx.store = db₂ := by
    simp only [Queue.Responded, Refusal.toResponse, Queue.answerFor, Queue.TaskEnvelope.task_id ht, hd,
      hst₁] at hresp
    cases hresp with
    | ok hok => exact Except.ok.inj (hok.symm.trans hrel)
    | error herr => cases herr.symm.trans hrel
  have hnow : s₂.now = s.now := by rw [hs₂.now, hs₁.now]
  refine ⟨a₁, s₂, pullOnce_of_refused (pullOrShutdown_of_running hs.running hraced) hc hrefuse
    (hnow ▸ hs.early), ⟨?_, hnow ▸ hs.early, m.id, m.body, t, r, hst₂ ▸ hdb₂, ht, hc⟩⟩
  rw [hs₂.shutdown, hs₁.shutdown]
  exact hs.running

/-- With a zero redelivery delay, an attempt to admit from a state whose input queue is led by a
task refused as newer, with room in an open batch, the signal unset and the deadline ahead,
never ends, against any runtime. -/
theorem tryAdmit_spins (hd : q.redeliveryDelaySecs = 0) {a : Assembler}
    (hsize : a.batch.size < a.limits.maxSize) (hopen : a.batch.closed = false)
    (hs : Spinning q ctx (a.batch.windowEnd.getD (s.now + a.limits.maxTimeMs)) s) (n : Nat) :
    ¬ Terminates rt (a.tryAdmit ctx (Queue.source q)) s n := by
  intro hterm
  unfold tryAdmit at hterm
  simp only [bind_eq, pure_eq, if_neg (Nat.not_le.2 hsize), hopen, Bool.false_eq_true, ↓reduceIte] at hterm
  have h₁ := Terminates.of_exec_bind (m := n) hterm (Act.exec_isShutdown.2 ⟨rfl, rfl, rfl⟩)
  simp only [hs.running, Bool.false_eq_true, ↓reduceIte] at h₁
  have h₂ := Terminates.of_exec_bind (m := n) h₁ (Act.exec_now.2 ⟨rfl, rfl, rfl⟩)
  refine not_terminates_loop (fun _ s' => Spinning q ctx _ s') (fun a _ hs' => ?_) hs n h₂
  obtain ⟨a', s', hpass, hs''⟩ := pullOnce_spins hd a hs'
  exact ⟨a', s', [], hpass, rfl, hs''⟩

/-- The state of a run at time zero, with the signal unset, over the database
`Queue.newerTaskQueue name`. -/
def newerTaskStart (name : String) (own : ω) : Shared (Env Database ω) :=
  { rest := { fx := { store := Queue.newerTaskQueue name, own := own } } }

/-- Every attempt over the queue `q.inputQueue` of `Queue.newerTaskQueue` whose deadline is ahead
starts spinning. -/
theorem spinning_newerTaskStart (q : QueueSettings) (ctx : Context) (own : ω) {D : Nat} (hD : 0 < D) :
    Spinning q ctx D (newerTaskStart q.inputQueue own) :=
  ⟨rfl, hD, 1, Queue.newerTaskBody, { id := 1, apiVersion := taskFormat + 1 }, _,
    Queue.redelivers_newerTaskQueue _, rfl, rfl⟩

end Assembler

/-! ## A zero poll interval: the pull that never ends -/

namespace Database

/-- The queue `name` exists and holds no visible message, and the database lets reads
through. -/
structure NothingToRead (db : Database) (name : String) : Prop where
  extension : db.extension = true
  readable : db.failure? .read = none
  empty : ∃ mq, db.queue? name = some mq ∧ mq.messages.find? QueueMessage.visible = none

/-- A read of a queue with nothing to read gives nothing and only counts the read, which leaves
nothing to read. -/
theorem NothingToRead.read {db : Database} {name : String} (h : db.NothingToRead name)
    (offset : Int) :
    db.read name offset = (.ok none, { db with reads := db.reads + 1 }) ∧
      ({ db with reads := db.reads + 1 } : Database).NothingToRead name := by
  obtain ⟨mq, hq, hnone⟩ := h.empty
  have hneed : ({ db with reads := db.reads + 1 } : Database).needQueue .read name = .ok mq :=
    needQueue_eq_ok_of h.readable h.extension hq
  refine ⟨?_, h.extension, h.readable, mq, hq, hnone⟩
  simp only [Database.read, hneed, MessageQueue.take, hnone]

end Database

/-- A runtime that may end a sleep whose time has come at once, changing nothing. -/
def EndsDueSleeps {ε : Type} (rt : Runtime (Shared ε)) : Prop :=
  ∀ {t : Nat} {s : Shared ε}, t ≤ s.now → rt (.sleep t) s .elapsed s

/-- The scheduler fires a timer that is due at once. -/
theorem Schedule.waits_endsDueSleeps {ε : Type} : EndsDueSleeps (Schedule.waits : Runtime (Shared ε)) :=
  fun {_ s} hdue => ⟨0, { shared := s, threads := #[] }, { shared := s, threads := #[] }, rfl,
    by simp [Schedule.State.attempt, hdue], rfl⟩

namespace Queue

variable {ω : Type} {rt : Runtime (Shared (Env Database ω))} {s : Shared (Env Database ω)}
  {q : QueueSettings}

/-- Where a pull with deadline `D` reads on without the clock moving: the deadline ahead and
nothing to read in the input queue. -/
structure Idle (q : QueueSettings) (D : Nat) (s : Shared (Env Database ω)) : Prop where
  early : s.now < D
  empty : s.rest.fx.store.NothingToRead q.inputQueue

/-- With a zero poll interval, a pass of a pull from an idle state reads nothing, sleeps until
the time it already is, and goes on from an idle state. -/
theorem pullStep_idles (hpoll : q.pollIntervalMs = 0) (hrt : EndsDueSleeps rt) {D : Nat}
    (hs : Idle q D s) :
    ∃ s' tr, Exec rt (pullStep q D) s s' (.inl ()) tr ∧ tasks tr = 0 ∧ Idle q D s' := by
  obtain ⟨hread, hempty⟩ := hs.empty.read q.visibilityTimeout
  obtain ⟨s₁, hr⟩ := readInput_exec rt hread
  have hs₁ := (Eng.work_effectsOnly hr).1
  have hst₁ : s₁.rest.fx.store = _ := (Prod.mk.inj ((exec_readInput hr).2.symm.trans hread)).2
  have hearly : s₁.now < D := hs₁.now ▸ hs.early
  refine ⟨s₁, [⟨.sleep s₁.now, .elapsed, s₁⟩], ?_, rfl, hearly, hst₁ ▸ hempty⟩
  simp only [pullStep, bind_eq]
  refine (exec_bind _ _).2 ⟨s₁, .ok none, [], _, hr, ?_, rfl⟩
  refine (exec_bind _ _).2 ⟨s₁, s₁.now, [], _, Act.exec_now.2 ⟨rfl, rfl, rfl⟩, ?_, rfl⟩
  rw [if_neg (Nat.not_le.2 hearly), hpoll, Nat.add_zero, Nat.min_eq_left hearly.le]
  simp only [Act.sleepUntil, bind_eq, pure_eq, exec_bind, exec_await, exec_done]
  exact ⟨s₁, (), _, [], ⟨s₁, .elapsed, _, [], ⟨hrt le_rfl, rfl⟩, ⟨rfl, trivial, rfl⟩, rfl⟩,
    ⟨rfl, trivial, rfl⟩, rfl⟩

/-- With a zero poll interval, which `validate` accepts, a pull from an input queue with nothing
to read, given some time to wait, never ends against a runtime that may end a sleep whose time
has come at once: each pass reads nothing and sleeps until the time it already is. -/
theorem pull_spins (hpoll : q.pollIntervalMs = 0) (hrt : EndsDueSleeps rt) {maxWait : Nat}
    (hwait : 0 < maxWait) (hdb : s.rest.fx.store.NothingToRead q.inputQueue) (n : Nat) :
    ¬ Terminates rt (pull q maxWait) s n := by
  intro hterm
  simp only [pull, Proc.iterate, bind_eq] at hterm
  have h := Terminates.of_exec_bind (m := n) hterm (Act.exec_now.2 ⟨rfl, rfl, rfl⟩)
  refine not_terminates_loop (fun _ s' => Idle q (s.now + maxWait) s') (fun _ _ hs' => ?_)
    ⟨Nat.lt_add_of_pos_right hwait, hdb⟩ n h
  obtain ⟨s', tr, hpass, htasks, hs''⟩ := pullStep_idles hpoll hrt hs'
  exact ⟨(), s', tr, hpass, htasks, hs''⟩

/-- A database whose queue `name` exists and is empty. -/
def emptyQueue (name : String) : Database := { extension := true, queues := [(name, {})] }

theorem nothingToRead_emptyQueue (name : String) : (emptyQueue name).NothingToRead name :=
  ⟨rfl, rfl, {}, by simp [emptyQueue, Database.queue?], rfl⟩

/-- The state of a run at time zero, with the signal unset, over the database
`Queue.emptyQueue name`. -/
def emptyStart (name : String) (own : ω) : Shared (Env Database ω) :=
  { rest := { fx := { store := emptyQueue name, own := own } } }

end Queue

/-! ## When the queue source's calls end -/

/-- With settings that `validate` accepts and a runtime that keeps time and may end a sleep
whose time has come at once, every pull from the queues ends, from every state and with any
number of tasks to come, exactly when the poll interval is positive; and then every attempt to
admit from them ends exactly when a refused task is hidden for a positive redelivery delay. -/
theorem queue_source_ends_iff {ω : Type} [Inhabited ω] {rt : Runtime (Shared (Env Database ω))}
    (hrt : KeepsTime rt) (hdue : EndsDueSleeps rt) {q : QueueSettings} (hq : q.validate = .ok ()) :
    ((∀ maxWait s n, Terminates rt (Queue.pull q maxWait : Eng Database ω _) s n) ↔
        0 < q.pollIntervalMs) ∧
      (0 < q.pollIntervalMs →
        ((∀ (ctx : Context) (a : Assembler) s n, Terminates rt (a.tryAdmit ctx (Queue.source q)) s n) ↔
          0 < q.redeliveryDelaySecs)) := by
  refine ⟨⟨fun hall => Nat.pos_of_ne_zero fun hpoll => ?_, Queue.pull_terminates hrt.sleep hq⟩,
    fun hpoll => ⟨fun hall => ?_, Assembler.tryAdmit_queue_terminates hrt hq hpoll⟩⟩
  · exact Queue.pull_spins hpoll hdue Nat.one_pos (Queue.nothingToRead_emptyQueue q.inputQueue) 0
      (hall 1 (Queue.emptyStart q.inputQueue default) 0)
  · by_contra hpos
    have hd : q.redeliveryDelaySecs = 0 := by
      have := (Queue.validate_ok hq).2.2
      omega
    exact Assembler.tryAdmit_spins (a := { limits := ⟨1, 1⟩ }) hd (by decide) rfl
      (Assembler.spinning_newerTaskStart q {} default Nat.one_pos) 0 (hall {} _ _ 0)

theorem queue_source_ends_default :
    ((∀ maxWait s n, Terminates Schedule.waits (Queue.pull ({} : QueueSettings) maxWait : Eng Database Unit _) s n) ↔
        0 < ({} : QueueSettings).pollIntervalMs) ∧
      (0 < ({} : QueueSettings).pollIntervalMs →
        ((∀ (ctx : Context) (a : Assembler) s n,
          Terminates (Schedule.waits : Runtime (Shared (Env Database Unit))) (a.tryAdmit ctx (Queue.source {})) s n) ↔
          0 < ({} : QueueSettings).redeliveryDelaySecs)) :=
  queue_source_ends_iff Schedule.waits_keepsTime Schedule.waits_endsDueSleeps rfl

/-- A zero poll interval and a zero redelivery delay both pass `validate`. Under the scheduler, a
pull with the first from an empty input queue never ends, and an attempt to admit with the
second from an input queue led by a task of a newer format never ends. -/
theorem zero_waits_spin :
    ({ pollIntervalMs := 0 } : QueueSettings).validate = .ok () ∧
      ¬ Terminates (Schedule.waits : Runtime (Shared (Env Database Unit)))
        (Queue.pull { pollIntervalMs := 0 } 1000) (Queue.emptyStart "document_input" ()) 0 ∧
      ({ redeliveryDelaySecs := 0 } : QueueSettings).validate = .ok () ∧
      ¬ Terminates (Schedule.waits : Runtime (Shared (Env Database Unit)))
        (({ limits := ⟨100, 2000⟩ } : Assembler).tryAdmit {} (Queue.source { redeliveryDelaySecs := 0 }))
        (Assembler.newerTaskStart "document_input" ()) 0 :=
  ⟨rfl, Queue.pull_spins rfl Schedule.waits_endsDueSleeps (by decide)
      (Queue.nothingToRead_emptyQueue _) 0,
    rfl, Assembler.tryAdmit_spins rfl (by decide) rfl
      (Assembler.spinning_newerTaskStart { redeliveryDelaySecs := 0 } {} () (by decide)) 0⟩

end DocBatch
