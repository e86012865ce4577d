import Mathlib.Data.Prod.Lex
import DocBatch.Proofs.Queue.Answering
import DocBatch.Proofs.Engine.Bounded
import DocBatch.Proofs.Process.Channel

/-!
# Pulls from the database's queues end

A pull from the input queue reads until it has a task or its time is up. It goes on after two
kinds of pass only: a read that found the queue empty, after which it sleeps until the next
poll, one poll interval later but no later than its deadline; and a read that found a message
carrying no task, which it answers and archives. With a positive poll interval the first makes
the time left smaller,
the second the messages left to read, since a read with a positive visibility timeout hides the
message it takes and nothing a discard does shows one again. The time left and then the messages
left, in that order, make a measure that every pass that goes on makes smaller, whatever the
queue holds and whatever other clients do to the database while the pull sleeps
(`Queue.pull_terminates`).

An attempt to admit over the queues goes on after a pass that pulled a task and refused it.
Answering a refusal hides the task's message for good when the redelivery delay is positive, so
the same measure, taken to the attempt's deadline, decreases along its passes too
(`Assembler.tryAdmit_queue_terminates`).

Both rest on settings that `QueueSettings.validate` accepts (a positive visibility timeout, two
different queues), on a positive poll interval, which `validate` does not ask for, and on a
runtime that keeps time (`KeepsTime`): a sleep ends only once the clock has reached its time. The
scheduler keeps time (`Schedule.waits_keepsTime`). With a zero interval an empty read sleeps
until the time it already is, and a pull can read an empty queue forever
(`Queue.pull_spins`).
-/

namespace DocBatch

open Proc

/-! ## Runtimes that keep time -/

section
variable {ε : Type}

/-- A runtime ends a sleep on time: not before the clock reaches the time slept until. -/
def OnTime (rt : Runtime (Shared ε)) : Prop := ∀ {t s r s'}, rt (.sleep t) s r s' → t ≤ s'.now

/-- A runtime keeps time when it ends sleeps on time, raced against the shutdown signal or not. -/
structure KeepsTime (rt : Runtime (Shared ε)) : Prop where
  sleep : OnTime rt
  raced : OnTime (unsignalled rt)

/-- The scheduler fires a timer only once the clock has reached it. -/
theorem Schedule.waits_keepsTime : KeepsTime (Schedule.waits : Runtime (Shared ε)) where
  sleep := by
    rintro t _ r _ ⟨i, st, st', rfl, h, rfl⟩
    obtain ⟨rfl, rfl, hdue⟩ := Schedule.State.attempt_sleep h
    exact hdue
  raced := by
    rintro t _ r _ ⟨⟨i, st, st', rfl, h, rfl⟩, hne⟩
    rcases Schedule.State.attempt_orShutdown h with ⟨rfl, -⟩ | h
    · exact absurd rfl hne
    · obtain ⟨rfl, rfl, hdue⟩ := Schedule.State.attempt_sleep h
      exact hdue

end

/-! ## Messages left to read -/

namespace MessageQueue

/-- The messages a read can take now. -/
def readable (q : MessageQueue) : Nat := q.messages.countP QueueMessage.visible

/-- Changing messages so that none becomes visible leaves no more to read. -/
theorem countP_visible_map_le {f : QueueMessage → QueueMessage} {l : List QueueMessage}
    (hf : ∀ x ∈ l, (f x).visible = true → x.visible = true) :
    (l.map f).countP QueueMessage.visible ≤ l.countP QueueMessage.visible := by
  rw [List.countP_map]
  exact List.countP_mono_left hf

/-- Changing messages so that none becomes visible and one visible message is hidden leaves
fewer to read. -/
theorem countP_visible_map_lt {f : QueueMessage → QueueMessage} :
    ∀ {l : List QueueMessage}, (∀ x ∈ l, (f x).visible = true → x.visible = true) →
      (∃ x ∈ l, x.visible = true ∧ (f x).visible = false) →
      (l.map f).countP QueueMessage.visible < l.countP QueueMessage.visible
  | [], _, ⟨_, hx, _⟩ => absurd hx List.not_mem_nil
  | y :: l, hf, ⟨x, hx, hvis, hhid⟩ => by
      have hrest := countP_visible_map_le (l := l) fun z hz => hf z (List.mem_cons_of_mem _ hz)
      have hy := hf y List.mem_cons_self
      simp only [List.map_cons, List.countP_cons]
      rcases List.mem_cons.1 hx with rfl | hx
      · simp only [hvis, hhid, Bool.false_eq_true, ↓reduceIte]
        omega
      · have hlt := countP_visible_map_lt (fun z hz => hf z (List.mem_cons_of_mem _ hz)) ⟨x, hx, hvis, hhid⟩
        by_cases hfy : (f y).visible = true
        · rw [if_pos hfy, if_pos (hy hfy)]
          omega
        · rw [if_neg hfy]
          split <;> omega

/-- A read with a positive visibility offset hides the message it takes. -/
theorem readable_take {q q' : MessageQueue} {offset : Int} {m : QueueMessage}
    (h : q.take offset = (some m, q')) (hoff : 0 < offset) : q'.readable < q.readable := by
  unfold take at h
  split at h
  · cases h
  · rename_i x hx
    simp only [Prod.mk.injEq, Option.some.injEq] at h
    obtain ⟨rfl, rfl⟩ := h
    have hhidden : ({ x with readCount := x.readCount + 1, offset := offset, held := true } :
        QueueMessage).visible = false := by
      simp [QueueMessage.visible]; omega
    refine countP_visible_map_lt (fun y _ hy => ?_) ⟨x, List.mem_of_find?_eq_some hx, List.find?_some hx, ?_⟩
    · split at hy
      · rw [hhidden] at hy
        cases hy
      · exact hy
    · simpa using hhidden

/-- Archiving leaves no more to read. -/
theorem readable_archiveMessage (q : MessageQueue) (id : Nat) : (q.archiveMessage id).readable ≤ q.readable := by
  unfold archiveMessage
  split
  · exact Nat.le_refl _
  · exact List.filter_sublist.countP_le

/-- Releasing for a positive offset leaves no more to read. -/
theorem readable_release (q : MessageQueue) (id : Nat) {offset : Int} (hoff : 0 < offset) :
    (q.release id offset).readable ≤ q.readable := by
  refine countP_visible_map_le fun y _ hy => ?_
  split at hy
  · simp only [QueueMessage.visible, decide_eq_true_eq] at hy
    omega
  · exact hy

end MessageQueue

namespace Database

/-- The messages of the named queue that a read can take now; none without such a queue. -/
def readable (db : Database) (name : String) : Nat := ((db.queue? name).map MessageQueue.readable).getD 0

theorem readable_eq_of_queue? {db db' : Database} {name : String}
    (h : db'.queue? name = db.queue? name) : db'.readable name = db.readable name := by
  simp only [readable, h]

/-- A read that takes a message with a positive offset leaves fewer to read in its queue. -/
theorem readable_read_some {db db' : Database} {name : String} {offset : Int} {m : QueueMessage}
    (h : db.read name offset = (.ok (some m), db')) (hoff : 0 < offset) :
    db'.readable name < db.readable name := by
  obtain ⟨q, q', hq, ht, hkey⟩ := read_eq_some h
  simp only [readable, hkey, if_true, hq, Option.map_some, Option.getD_some]
  exact MessageQueue.readable_take ht hoff

/-- A message sent to another queue leaves this one as it was. -/
theorem readable_send {db db' : Database} {name key : String} {body : Json.Value} {n : Nat}
    (h : db.send name body = .ok (n, db')) (hk : key ≠ name) : db'.readable key = db.readable key := by
  obtain ⟨q, -, -, hkey⟩ := send_eq_ok h
  exact readable_eq_of_queue? ((hkey key).trans (if_neg hk))

/-- A call that replaces only the queue `name`, by one with no more to read, leaves no more to
read in any queue. -/
theorem readable_le_of_replaced {db db' : Database} {name : String} {q q' : MessageQueue}
    (hq : db.queue? name = some q)
    (hkey : ∀ key, db'.queue? key = if key = name then some q' else db.queue? key)
    (hle : q'.readable ≤ q.readable) (key : String) : db'.readable key ≤ db.readable key := by
  by_cases hk : key = name
  · subst hk
    simp only [readable, hkey, if_true, hq, Option.map_some, Option.getD_some]
    exact hle
  · exact (readable_eq_of_queue? ((hkey key).trans (if_neg hk))).le

theorem readable_archive {db db' : Database} {name : String} {id : Int}
    (h : db.archive name id = .ok db') (key : String) : db'.readable key ≤ db.readable key := by
  obtain ⟨q, hq, hkey⟩ := archive_eq_ok h
  exact readable_le_of_replaced hq hkey (MessageQueue.readable_archiveMessage q _) key

theorem readable_release {db db' : Database} {name : String} {id offset : Int}
    (h : db.release name id offset = .ok db') (hoff : 0 < offset) (key : String) :
    db'.readable key ≤ db.readable key := by
  obtain ⟨q, hq, hkey⟩ := release_eq_ok h
  exact readable_le_of_replaced hq hkey (MessageQueue.readable_release q _ hoff) key

end Database

/-! ## A pull ends -/

namespace Queue

variable {ω : Type} {rt : Runtime (Shared (Env Database ω))} {s s' : Shared (Env Database ω)}
  {tr : List (Wake (Shared (Env Database ω)))} {q : QueueSettings}

/-- What `validate` checks that the source relies on: a read hides what it takes, answers go to
another queue than the one read, and a release sets no negative delay. -/
theorem validate_ok (hq : q.validate = .ok ()) :
    0 < q.visibilityTimeout ∧ q.inputQueue ≠ q.outputQueue ∧ 0 ≤ q.redeliveryDelaySecs := by
  simp only [QueueSettings.validate] at hq
  split_ifs at hq with hempty hsame hvt hdelay
  exact ⟨by omega, fun h => hsame (by simp [h]), by omega⟩

/-- Where a pull or an attempt that ends at `deadline` stands: the time left, then the messages
of the input queue it can still read. -/
def pollRank (q : QueueSettings) (deadline : Nat) (s : Shared (Env Database ω)) : ℕ ×ₗ ℕ :=
  toLex (deadline - s.now, s.rest.fx.store.readable q.inputQueue)

/-- A pull given the time left to a deadline from its start ends at that deadline, or at once
when it has passed; a measure taken to the one deadline decreases when it does to the other. -/
theorem pollRank_lt_of_shift {D : Nat} {s₀ s₁ : Shared (Env Database ω)}
    (h : pollRank q (s₀.now + (D - s₀.now)) s₁ < pollRank q (s₀.now + (D - s₀.now)) s₀) :
    pollRank q D s₁ < pollRank q D s₀ := by
  simp only [pollRank, Prod.Lex.toLex_lt_toLex] at h ⊢
  omega

/-- A pass that keeps the clock gets nearer its end by leaving fewer messages to read. -/
theorem pollRank_lt_of_fewer {deadline : Nat} {s₀ s₁ : Shared (Env Database ω)}
    (hnow : s₁.now = s₀.now)
    (hfewer : s₁.rest.fx.store.readable q.inputQueue < s₀.rest.fx.store.readable q.inputQueue) :
    pollRank q deadline s₁ < pollRank q deadline s₀ := by
  simp only [pollRank, Prod.Lex.toLex_lt_toLex]
  omega

/-- A pass that keeps the clock and leaves no more to read gets no further from its end. -/
theorem pollRank_le_of_keep {deadline : Nat} {s₀ s₁ : Shared (Env Database ω)}
    (hnow : s₁.now = s₀.now)
    (hle : s₁.rest.fx.store.readable q.inputQueue ≤ s₀.rest.fx.store.readable q.inputQueue) :
    pollRank q deadline s₁ ≤ pollRank q deadline s₀ := by
  simp only [pollRank, Prod.Lex.toLex_le_toLex]
  omega

/-- A pass that moves the clock on from before the deadline gets nearer its end, whatever it
leaves to read. -/
theorem pollRank_lt_of_later {deadline : Nat} {s₀ s₁ : Shared (Env Database ω)}
    (hearly : s₀.now < deadline) (hlater : s₀.now < s₁.now) :
    pollRank q deadline s₁ < pollRank q deadline s₀ := by
  simp only [pollRank, Prod.Lex.toLex_lt_toLex]
  omega

theorem straight_call {α : Type} (f : Database → Except Error (α × Database)) :
    Straight (call f : Eng Database ω (Except Error α)) :=
  Eng.straight_work _

theorem straight_answerAndArchive (q : QueueSettings) (env : ResponseEnvelope) (id : Int) :
    Straight (answerAndArchive q env id : Eng Database ω (Except Error Unit)) := by
  simp only [answerAndArchive, sendResponse, bind_eq, pure_eq]
  refine (straight_call _).bind fun r => ?_
  cases r with
  | error e => exact .done
  | ok u => exact straight_call _

theorem straight_respond (q : QueueSettings) (t : Task) (r : Response) :
    Straight (respond q t r : Eng Database ω (Except Error Unit)) := by
  cases r with
  | success data => exact straight_answerAndArchive _ _ _
  | invalid reason => exact straight_answerAndArchive _ _ _
  | rejected reason => exact (Eng.straight_emit _).bind fun _ => straight_call _

/-- Calls of the database change nothing but the effects of processing. -/
theorem call_effectsOnly {α : Type} {f : Database → Except Error (α × Database)} {r : Except Error α}
    (h : Exec rt (call f) s s' r tr) : EffectsOnly s s' :=
  (Eng.work_effectsOnly h).1

theorem answerAndArchive_effectsOnly {env : ResponseEnvelope} {id : Int} {r : Except Error Unit}
    (h : Exec rt (answerAndArchive q env id) s s' r tr) : EffectsOnly s s' := by
  simp only [answerAndArchive, sendResponse, bind_eq, exec_bind] at h
  obtain ⟨s₁, r₁, tr₁, tr₂, hsend, h, rfl⟩ := h
  have hs₁ := call_effectsOnly hsend
  cases r₁ with
  | error e =>
    obtain ⟨rfl, rfl, rfl⟩ := (exec_done _).1 h
    exact hs₁
  | ok u => exact hs₁.trans (call_effectsOnly h)

theorem respond_effectsOnly {t : Task} {r : Response} {res : Except Error Unit}
    (h : Exec rt (respond q t r) s s' res tr) : EffectsOnly s s' := by
  cases r with
  | success data => exact answerAndArchive_effectsOnly h
  | invalid reason => exact answerAndArchive_effectsOnly h
  | rejected reason =>
    simp only [respond, bind_eq, exec_bind] at h
    obtain ⟨s₁, u, tr₁, tr₂, he, h, rfl⟩ := h
    exact (Eng.emit_effectsOnly he).1.trans (call_effectsOnly h)

/-- An answer sent before its message is archived leaves no more to read in the input queue,
since it goes to the output queue. -/
theorem AnswerThenArchive.readable_le (hio : q.inputQueue ≠ q.outputQueue) {env : ResponseEnvelope}
    {id : Int} {db db' : Database} {res : Except Error Unit} (h : AnswerThenArchive q env id db res db') :
    db'.readable q.inputQueue ≤ db.readable q.inputQueue := by
  cases h with
  | unsent _ => exact Nat.le_refl _
  | sent hsend hch =>
    rw [← Database.readable_send hsend hio]
    cases hch with
    | ok harch => exact Database.readable_archive harch _
    | error _ => exact Nat.le_refl _

/-- Answering a task leaves no more to read in the input queue when a rejection hides the
task's message for a positive delay. -/
theorem Responded.readable_le (hio : q.inputQueue ≠ q.outputQueue) (hd : 0 < q.redeliveryDelaySecs)
    {t : Task} {r : Response} {db db' : Database} {res : Except Error Unit}
    (h : Responded q t r db res db') : db'.readable q.inputQueue ≤ db.readable q.inputQueue := by
  unfold Responded at h
  split at h
  · exact AnswerThenArchive.readable_le hio h
  · cases h with
    | ok hrel => exact Database.readable_release hrel hd _
    | error _ => exact Nat.le_refl _

theorem loopFree_pullStep (q : QueueSettings) (deadline : Nat) :
    LoopFree (pullStep q deadline : Eng Database ω (Unit ⊕ Except Error (Option Task))) := by
  simp only [pullStep, bind_eq, pure_eq]
  refine (Eng.straight_work _).loopFree.bind fun r => ?_
  split
  · exact .done
  · split
    · exact ((Eng.straight_emit _).bind fun _ => .done).loopFree
    · refine (Eng.straight_emit _).loopFree.bind fun _ =>
        (straight_answerAndArchive q _ _).loopFree.bind fun res => ?_
      split
      · exact .done
      · refine Act.straight_now.loopFree.bind fun now => ?_
        split <;> exact .done
  · refine Act.straight_now.loopFree.bind fun now => ?_
    split
    · exact .done
    · exact .bind (.wait fun _ => .done) fun _ => .done

/-- A pass of a pull that goes on, or that gives a task, leaves the pull nearer its end: with a
positive poll interval a poll sleeps until a later time, no later than the deadline, and a read
that takes a message hides it, which answering a message that carries no task does not undo. -/
theorem pullStep_rank (hrt : OnTime rt) (hq : q.validate = .ok ()) (hpoll : 0 < q.pollIntervalMs)
    {deadline : Nat}
    {r : Unit ⊕ Except Error (Option Task)} (h : Exec rt (pullStep q deadline) s s' r tr)
    (hr : r.isLeft ∨ ∃ t, r = .inr (.ok (some t))) :
    pollRank q deadline s' < pollRank q deadline s := by
  obtain ⟨hvt, hio, -⟩ := validate_ok hq
  simp only [pullStep, bind_eq, exec_bind] at h
  obtain ⟨s₁, r₁, tr₁, tr₂, hread, h, rfl⟩ := h
  have hs₁ := (Eng.work_effectsOnly hread).1
  obtain ⟨-, hr₁⟩ := exec_readInput hread
  cases r₁ with
  | error e =>
    obtain ⟨rfl, rfl, rfl⟩ := (exec_done _).1 h
    simp at hr
  | ok o =>
    cases o with
    | none =>
      simp only [exec_bind, Act.exec_now] at h
      obtain ⟨_, _, _, tr₃, ⟨rfl, rfl, rfl⟩, h, rfl⟩ := h
      split at h
      · obtain ⟨rfl, rfl, rfl⟩ := (exec_done _).1 h
        simp at hr
      · rename_i hearly
        simp only [Act.sleepUntil, bind_eq, pure_eq, exec_bind, exec_await, exec_done] at h
        obtain ⟨s₂, u, tr₄, tr₅, ⟨s₃, w, tr₆, tr₇, ⟨hw, rfl⟩, ⟨rfl, -, rfl⟩, rfl⟩, ⟨rfl, rfl, rfl⟩, rfl⟩ := h
        have hwake := hrt hw
        rw [hs₁.now] at hearly hwake
        have hlater : s.now < min (s.now + q.pollIntervalMs) deadline :=
          Nat.lt_min.2 ⟨Nat.lt_add_of_pos_right hpoll, Nat.lt_of_not_le hearly⟩
        exact pollRank_lt_of_later (Nat.lt_of_not_le hearly) (hlater.trans_le hwake)
    | some m =>
      have hfewer := Database.readable_read_some hr₁ hvt
      cases ht : TaskEnvelope.task m.id m.body with
      | ok t =>
        simp only [ht, exec_bind] at h
        obtain ⟨s₂, u, tr₃, tr₄, he, h, rfl⟩ := h
        obtain ⟨hst, rfl⟩ := Queue.exec_emit_store he
        have hs₂ := (Eng.emit_effectsOnly he).1
        obtain ⟨rfl, rfl, rfl⟩ := (exec_done _).1 h
        rw [← hst] at hfewer
        exact pollRank_lt_of_fewer (by rw [hs₂.now, hs₁.now]) hfewer
      | error e =>
        simp only [ht, exec_bind] at h
        obtain ⟨s₂, u, tr₃, tr₄, he, h, rfl⟩ := h
        obtain ⟨hst, rfl⟩ := Queue.exec_emit_store he
        have hs₂ := (Eng.emit_effectsOnly he).1
        obtain ⟨s₃, res, tr₅, tr₆, ha, h, rfl⟩ := h
        have hs₃ := answerAndArchive_effectsOnly ha
        have hle := (exec_answerAndArchive ha).2.readable_le hio
        rw [hst] at hle
        cases res with
        | error err =>
          obtain ⟨rfl, rfl, rfl⟩ := (exec_done _).1 h
          simp at hr
        | ok u =>
          simp only [exec_bind, Act.exec_now] at h
          obtain ⟨_, _, _, tr₇, ⟨rfl, rfl, rfl⟩, h, rfl⟩ := h
          split at h
          · obtain ⟨rfl, rfl, rfl⟩ := (exec_done _).1 h
            simp at hr
          · obtain ⟨rfl, rfl, rfl⟩ := (exec_done _).1 h
            exact pollRank_lt_of_fewer (by rw [hs₃.now, hs₂.now, hs₁.now]) (by omega)

/-- With a positive poll interval, a pull from the input queue terminates, whatever the queue
holds, the database does while the pull sleeps and the tasks to come: every pass that goes on
brings it nearer its end. -/
theorem pull_terminates (hrt : OnTime rt) (hq : q.validate = .ok ()) (hpoll : 0 < q.pollIntervalMs)
    (maxWait : Nat)
    (s : Shared (Env Database ω)) (n : Nat) : Terminates rt (pull q maxWait) s n := by
  simp only [pull, Proc.iterate, bind_eq]
  refine Act.straight_now.loopFree.terminates s n |>.bind fun s₁ now _ m _ _ => ?_
  refine Terminates.loop_wellFounded (fun _ _ _ => True) (fun _ s _ => pollRank q (now + maxWait) s)
    (fun _ s n _ => (loopFree_pullStep q _).terminates s n) ?_
    (fun _ _ _ c s' _ m _ _ _ => .done c s' m) () s₁ m trivial
  intro _ _ _ _ _ _ _ _ hpass _
  exact ⟨trivial, pullStep_rank hrt hq hpoll hpass (.inl rfl)⟩

/-- A pull that gives a task leaves the input queue, measured to the deadline it was given, one
step nearer: it read the task's message, and every pass before went on. -/
theorem pull_task_rank (hrt : OnTime rt) (hq : q.validate = .ok ()) (hpoll : 0 < q.pollIntervalMs)
    {D : Nat} {t : Task}
    (h : Exec rt (pull q (D - s.now)) s s' (.ok (some t)) tr) : pollRank q D s' < pollRank q D s := by
  simp only [pull, Proc.iterate, bind_eq, exec_bind, Act.exec_now] at h
  obtain ⟨s₀, _, _, tr₁, ⟨rfl, rfl, rfl⟩, h, rfl⟩ := h
  have hloop := Exec.loop_invariant
    (I := fun _ s₁ _ => pollRank q (s₀.now + (D - s₀.now)) s₁ ≤ pollRank q (s₀.now + (D - s₀.now)) s₀)
    (J := fun res s₁ _ => (∃ t, res = .ok (some t)) →
      pollRank q (s₀.now + (D - s₀.now)) s₁ < pollRank q (s₀.now + (D - s₀.now)) s₀) ?_ [] le_rfl h
  · obtain ⟨res, s₁, tr₂, tr₃, hJ, hdone, rfl⟩ := hloop
    obtain ⟨rfl, rfl, rfl⟩ := (exec_done _).1 hdone
    exact pollRank_lt_of_shift (hJ ⟨t, rfl⟩)
  intro _ s₁ s₂ r tr₂ _ hI hpass
  cases r with
  | inl u => exact (pullStep_rank hrt hq hpoll hpass (.inl rfl)).le.trans hI
  | inr res =>
    rintro ⟨t', rfl⟩
    exact (pullStep_rank hrt hq hpoll hpass (.inr ⟨t', rfl⟩)).trans_le hI

end Queue

/-! ## An attempt to admit from the queue ends -/

namespace Assembler

variable {ω : Type} {rt : Runtime (Shared (Env Database ω))} {s s' : Shared (Env Database ω)}
  {tr : List (Wake (Shared (Env Database ω)))} {q : QueueSettings} {ctx : Context}

theorem straight_refuse_queue (q : QueueSettings) (t : Task) (r : Refusal) (a : Assembler) :
    Straight (a.refuse (Queue.source q) t r : Eng Database ω Assembler) := by
  simp only [refuse, bind_eq, pure_eq]
  refine .bind (Eng.straight_emit _) fun _ => .bind (Queue.straight_respond q t _) fun res => ?_
  cases res with
  | error e => exact .bind (Eng.straight_emit _) fun _ => .done
  | ok u =>
    cases u
    exact .done

/-- A refusal of a task pulled from the queue keeps the clock, and answers the task as
`Queue.Responded` says. -/
theorem refuse_queue_exec {t : Task} {rf : Refusal} {a a' : Assembler}
    (h : Exec rt (a.refuse (Queue.source q) t rf) s s' a' tr) :
    EffectsOnly s s' ∧ ∃ res, Queue.Responded q t rf.toResponse s.rest.fx.store res s'.rest.fx.store := by
  simp only [refuse, bind_eq, pure_eq, exec_bind] at h
  obtain ⟨s₁, u, tr₁, tr₂, he, ⟨s₂, res, tr₃, tr₄, hres, h, rfl⟩, rfl⟩ := h
  obtain ⟨hst₁, rfl⟩ := Queue.exec_emit_store he
  have hs₁ := (Eng.emit_effectsOnly he).1
  have hs₂ := Queue.respond_effectsOnly hres
  obtain ⟨rfl, hresp⟩ := Queue.exec_respond hres
  rw [hst₁] at hresp
  rcases res with e | ⟨⟩
  · simp only [exec_bind, exec_done] at h
    obtain ⟨s₃, u, tr₅, tr₆, he', ⟨rfl, rfl, rfl⟩, rfl⟩ := h
    obtain ⟨hst₃, rfl⟩ := Queue.exec_emit_store he'
    refine ⟨hs₁.trans (hs₂.trans (Eng.emit_effectsOnly he').1), .error e, ?_⟩
    rw [hst₃]
    exact hresp
  · obtain ⟨rfl, rfl, rfl⟩ := (exec_done _).1 h
    exact ⟨hs₁.trans hs₂, _, hresp⟩

theorem pullOnce_queue_terminates (hrt : KeepsTime rt) (hq : q.validate = .ok ())
    (hpoll : 0 < q.pollIntervalMs) (deadline : Nat)
    (a : Assembler) (s : Shared (Env Database ω)) (n : Nat) :
    Terminates rt (pullOnce ctx (Queue.source q) deadline a) s n := by
  simp only [pullOnce, bind_eq, pure_eq]
  refine Act.straight_now.loopFree.terminates s n |>.bind fun s₁ now _ m _ _ => ?_
  refine Terminates.bind ?_ fun s₂ r _ k _ _ => ?_
  · simp only [pullOrShutdown, bind_eq, pure_eq]
    refine Act.straight_isShutdown.loopFree.terminates s₁ m |>.bind fun s₃ b _ j _ _ => ?_
    split
    · exact .done _ s₃ j
    · exact Terminates.unlessShutdown (Queue.pull_terminates hrt.raced hq hpoll _ s₃ j)
  · refine (Straight.loopFree ?_).terminates s₂ k
    split
    · exact .bind (Eng.straight_emit _) fun _ => .bind (straight_closeFor _ _) fun _ => .done
    · exact .bind (straight_closeFor _ _) fun _ => .done
    · exact .bind (Eng.straight_emit _) fun _ => .bind (straight_closeFor _ _) fun _ => .done
    · split
      · exact .bind (straight_accept _ _ _) fun _ => .done
      · refine .bind (straight_refuse_queue _ _ _ _) fun a₁ => .bind Act.straight_now fun _ => ?_
        split
        · exact .bind (straight_closeFor _ _) fun _ => .done
        · exact .done

/-- A pass of an attempt on the queue after which the attempt pulls again leaves it nearer its
deadline: the pull read the refused task's message, and a refusal that hides the message again
for a positive delay does not bring it back. -/
theorem pullOnce_queue_rank (hrt : KeepsTime rt) (hq : q.validate = .ok ())
    (hpoll : 0 < q.pollIntervalMs) (hd : 0 < q.redeliveryDelaySecs) {deadline : Nat} {a a' : Assembler} (h : Exec rt (pullOnce ctx (Queue.source q) deadline a) s s' (.inl a') tr) :
    Queue.pollRank q deadline s' < Queue.pollRank q deadline s := by
  obtain ⟨s₁, r, tr₁, tr₂, hpull, hend, rfl⟩ := pullOnce_exec h
  cases hend with
  | refused _ hr _ =>
    rcases pullOrShutdown_exec hpull with ⟨-, hnone, -, -⟩ | ⟨-, hpull⟩
    · cases hnone
    obtain ⟨tr', hpull'⟩ := exec_of_unlessShutdown hpull
    have hfewer := Queue.pull_task_rank hrt.raced hq hpoll hpull'
    obtain ⟨hs, res, hresp⟩ := refuse_queue_exec hr
    exact (Queue.pollRank_le_of_keep hs.now (hresp.readable_le (Queue.validate_ok hq).2.1 hd)).trans_lt hfewer

/-- An attempt to admit from the queue terminates against every runtime that keeps time, with
any number of tasks to come, as long as an empty read sleeps and a refused task is hidden for a
positive delay. -/
theorem tryAdmit_queue_terminates (hrt : KeepsTime rt) (hq : q.validate = .ok ())
    (hpoll : 0 < q.pollIntervalMs) (hd : 0 < q.redeliveryDelaySecs) (ctx : Context) (a : Assembler) (s : Shared (Env Database ω))
    (n : Nat) : Terminates rt (a.tryAdmit ctx (Queue.source q)) s n := by
  unfold tryAdmit
  simp only [bind_eq, pure_eq]
  split
  · exact ((straight_closeFor _ _).bind fun _ => .done).loopFree.terminates s n
  split
  · exact .done _ s n
  refine Act.straight_isShutdown.loopFree.terminates s n |>.bind fun s₁ b _ m _ _ => ?_
  split
  · exact ((straight_closeFor _ _).bind fun _ => .done).loopFree.terminates s₁ m
  refine Act.straight_now.loopFree.terminates s₁ m |>.bind fun s₂ now _ k _ _ => ?_
  refine Terminates.loop_wellFounded (fun _ _ _ => True)
    (fun _ s _ => Queue.pollRank q (a.batch.windowEnd.getD (now + a.limits.maxTimeMs)) s)
    (fun _ s n _ => pullOnce_queue_terminates hrt hq hpoll _ _ s n) ?_
    (fun _ _ _ c s' _ m _ _ _ => .done c s' m) a s₂ k trivial
  intro _ _ _ _ _ _ _ _ hpass _
  exact ⟨trivial, pullOnce_queue_rank hrt hq hpoll hd hpass⟩

end Assembler

end DocBatch
