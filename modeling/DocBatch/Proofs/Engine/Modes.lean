import DocBatch.Proofs.Engine.Timing

/-!
# One document at a time, two ways

A worker that processes one document at a time can be driven in two ways: as a single
processor, which asks the cursor for one document and processes it, or as a bulk processor with
the default program, which asks for documents and processes each until none comes. A single
processor gets a batch of one; a bulk one a batch as large as the settings allow. When the
settings allow one document, the two do the same: the default program asks once more after
its document, and that request, on a full batch, closes it at once for its size without
waiting for anything (`Cursor.HandedOne.next_exec`).

So, from the same state, every run of one is matched by a run of the other that waits for the
same things with the same outcomes in the same states (the same trace), and ends in the same
state but for the log: it took the same tasks from the channel and sent the same answers in the
same order. Since time moves only while a run waits, and every wait is on the trace together with
the answers sent by then, this places every answer at the same time in both runs. The reports
agree on size, refusals, outcome, interruption, undelivered answers and duration (`SameRun`).
Only the reason the batch closed differs, and only when a document was admitted and processed:
the single run leaves its batch open, the bulk one closes it for its size.

This holds against any runtime and for any codec. Up to the extra request the two runs are the
same process; the extra request and the answers after processing never wait
(`Proc.Straight`), so the runtime is never asked about the states in which the two differ.
Processing is compared through `OneRun`, the ways a batch of one can go, and `BulkEnd`, how the
bulk program's end relates to it; the answers only read the entries of the batch, which both
ends share (`finish_sameRun`).

The main statement is `single_bulk_agree`.
-/

namespace DocBatch

open Proc

variable {σ ω : Type}

/-! ## Processes that never wait -/

namespace Proc

variable {σ : Type}

/-- A process that only takes steps: it never waits and never loops. -/
inductive Straight : {α : Type} → Proc σ α → Prop
  | done {α : Type} {a : α} : Straight (.done a)
  | step {α β : Type} {f : σ → β × σ} {k : β → Proc σ α} :
      (∀ b, Straight (k b)) → Straight (.step f k)

theorem Straight.bind {α β : Type} {p : Proc σ α} {g : α → Proc σ β} (hp : Straight p)
    (hg : ∀ a, Straight (g a)) : Straight (Proc.bind p g) := by
  induction hp with
  | done => exact hg _
  | step _ ih => exact .step ih

/-- A process that never waits runs to its end from every state, whatever the runtime. -/
theorem Straight.exec {rt : Runtime σ} {α : Type} {p : Proc σ α} (hp : Straight p) (s : σ) :
    ∃ s' a, Exec rt p s s' a [] := by
  induction hp generalizing s with
  | done => exact ⟨s, _, (exec_done _).2 ⟨rfl, rfl, rfl⟩⟩
  | @step β f k _ ih =>
      obtain ⟨s', a, h⟩ := ih (f s).1 (f s).2
      exact ⟨s', a, (exec_step f k).2 h⟩

/-- A run of `p` that waits for nothing, followed by a process that never waits, makes a run of
`p >>= g` that waits for nothing. -/
theorem Straight.exec_bind {rt : Runtime σ} {α β : Type} {p : Proc σ α} {g : α → Proc σ β}
    {s s₁ : σ} {a : α} (hp : Exec rt p s s₁ a []) (hg : Straight (g a)) :
    ∃ s' b, Exec rt (Proc.bind p g) s s' b [] := by
  obtain ⟨s', b, h⟩ := hg.exec s₁
  exact ⟨s', b, (Proc.exec_bind p g).2 ⟨s₁, a, [], [], hp, h, rfl⟩⟩

/-- Runs of `p >>= g` are matched by runs of `p' >>= g'` when runs of `p` are matched by runs of
`p'` with the same waits, and runs of `g` from matched ends by runs of `g'`. -/
theorem exec_bind_sim {rt : Runtime σ} {α α' β β' : Type} {p : Proc σ α} {p' : Proc σ α'}
    {g : α → Proc σ β} {g' : α' → Proc σ β'} (R₁ : σ → α → σ → α' → Prop)
    (R₂ : σ → β → σ → β' → Prop) {s : σ}
    (hp : ∀ s₁ a tr, Exec rt p s s₁ a tr → ∃ s₁' a', Exec rt p' s s₁' a' tr ∧ R₁ s₁ a s₁' a')
    (hg : ∀ s₁ a s₁' a', R₁ s₁ a s₁' a' →
      ∀ s₂ b tr, Exec rt (g a) s₁ s₂ b tr → ∃ s₂' b', Exec rt (g' a') s₁' s₂' b' tr ∧ R₂ s₂ b s₂' b')
    {s₂ : σ} {b : β} {tr : List (Wake σ)} (h : Exec rt (Proc.bind p g) s s₂ b tr) :
    ∃ s₂' b', Exec rt (Proc.bind p' g') s s₂' b' tr ∧ R₂ s₂ b s₂' b' := by
  obtain ⟨s₁, a, tr₁, tr₂, h₁, h₂, rfl⟩ := (exec_bind p g).1 h
  obtain ⟨s₁', a', h₁', hR₁⟩ := hp s₁ a tr₁ h₁
  obtain ⟨s₂', b', h₂', hR₂⟩ := hg s₁ a s₁' a' hR₁ s₂ b tr₂ h₂
  exact ⟨s₂', b', (exec_bind p' g').2 ⟨s₁', a', tr₁, tr₂, h₁', h₂', rfl⟩, hR₂⟩

/-- Runs of `p >>= g` are matched by runs of `p >>= g'` when every run of `g a` is matched by a
run of `g' a` from the same state with the same waits. -/
theorem exec_bind_sim_right {rt : Runtime σ} {α β β' : Type} {p : Proc σ α} {g : α → Proc σ β}
    {g' : α → Proc σ β'} (R : σ → β → σ → β' → Prop)
    (hg : ∀ a s₁ s₂ b tr, Exec rt (g a) s₁ s₂ b tr → ∃ s₂' b', Exec rt (g' a) s₁ s₂' b' tr ∧ R s₂ b s₂' b')
    {s s₂ : σ} {b : β} {tr : List (Wake σ)} (h : Exec rt (Proc.bind p g) s s₂ b tr) :
    ∃ s₂' b', Exec rt (Proc.bind p g') s s₂' b' tr ∧ R s₂ b s₂' b' :=
  exec_bind_sim (fun s₁ a s₁' a' => s₁' = s₁ ∧ a' = a) R
    (fun s₁ a _ h₁ => ⟨s₁, a, h₁, rfl, rfl⟩)
    (by
      rintro s₁ a _ _ ⟨rfl, rfl⟩
      exact hg _ _) h

end Proc

/-! ## The answers after processing -/

/-- The answer a task of the batch gets once processing returned, when the response channel's
receiver is `held` or not: a success carrying its encoded patch, or a rejection carrying the
failure's text; none when the patch cannot be encoded or the receiver was dropped. -/
def Entry.reply (codec : Codec) (held : Bool) : Except TransientError Unit → Entry → Option Delivery
  | .ok _, e => match codec.encode e.document.toPatch with
    | .ok data => if held then some ⟨e.task.id, e.task.correlationId, .success data⟩ else none
    | .error _ => none
  | .error err, e => if held then some ⟨e.task.id, e.task.correlationId, .rejected err.display⟩ else none

/-- The failure recorded for a task of the batch whose answer was not given: its patch cannot
be encoded, or the receiver was dropped. -/
def Entry.failure (codec : Codec) (held : Bool) : Except TransientError Unit → Entry → Option ResponseFailure
  | .ok _, e => match codec.encode e.document.toPatch with
    | .ok _ => if held then none else some e.undelivered
    | .error err => some ⟨e.task.id, err⟩
  | .error _, e => if held then none else some e.undelivered

/-- A rejection reaches every task while the receiver is held, and none once it is dropped. -/
theorem Entry.filterMap_reply_error (codec : Codec) (held : Bool) (err : TransientError) (es : List Entry) :
    es.filterMap (Entry.reply codec held (.error err)) =
      if held then es.map (Entry.answer (.error err)) else [] := by
  cases held with
  | false => exact List.filterMap_eq_nil_iff.2 fun e _ => rfl
  | true => exact congrFun List.filterMap_eq_map es

theorem Entry.filterMap_failure_error (codec : Codec) (held : Bool) (err : TransientError) (es : List Entry) :
    es.filterMap (Entry.failure codec held (.error err)) = if held then [] else es.map Entry.undelivered := by
  cases held with
  | false => exact congrFun List.filterMap_eq_map es
  | true => exact List.filterMap_eq_nil_iff.2 fun e _ => rfl

namespace Runner

/-- What a batch run does once processing returned `processed` with the cursor `c`: it answers
the batch by the outcome and reports, having started at `started`. -/
def finish (ctx : Context) (src : Source σ ω) (started : Nat) (processed : Except TransientError Unit)
    (c : Cursor) : Eng σ ω Report := do
  let b := c.batch
  let (outcome, failures) ← match processed with
    | .ok () => do
      let failures ← Runner.respondSuccess ctx src b.entries
      Runner.transition "running" "succeeded"
      pure (Outcome.succeeded, failures)
    | .error e => do
      Eng.emit { level := .warn, message := "processing failed, rejecting whole batch",
                 fields := [("size", .ofNat b.size), ("error", .str e.display)] }
      let failures ← Runner.respondRejected src e.display b.entries
      Runner.transition "running" "rejected"
      pure (Outcome.rejected, failures)
  let duration := (← Act.now) - started
  if b.size > 0 || b.refused > 0 then
    Eng.emit { level := .info, message := "batch completed",
               fields := [("size", .ofNat b.size), ("refused", .ofNat b.refused),
                 ("outcome", .str outcome.name), ("close_reason", .str (Runner.closeLabel b.closeReason)),
                 ("duration_ms", .ofNat duration), ("failed_responses", .ofNat failures.length)] }
  return { size := b.size, refused := b.refused, outcome := outcome, closeReason := b.closeReason,
           interrupted := b.closeReason == some .interrupted, failures := failures,
           durationMs := duration }

end Runner

/-- A batch run hands a fresh cursor to the processor and then answers and reports. -/
theorem runBatch_eq (ctx : Context) (src : Source σ ω) (p : Processor σ ω) :
    runBatch ctx src p = (do
      let started ← Act.now
      Runner.transition "new" "assembling"
      Runner.transition "assembling" "running"
      let (processed, c) ← Runner.processWith ctx src { assembler := { limits := Runner.limits ctx.settings p } } p
      Runner.finish ctx src started processed c) := rfl

/-! ## The answers after processing never wait -/

section
variable {rt : Runtime (Shared (Env σ ω))} {ctx : Context}

theorem Eng.straight_emit (e : Event) : Straight (Eng.emit e : Eng σ ω Unit) := .step fun _ => .done

theorem Act.straight_now : Straight (Act.now : Eng σ ω Nat) := .step fun _ => .done

theorem Source.straight_channel_respond (t : Task) (r : Response) :
    Straight ((Source.channel : Source σ ω).respond t r) := by
  refine .bind (.step fun _ => .done) fun env => ?_
  split
  · exact .bind (.step fun _ => .done) fun _ => .done
  · exact .done

theorem Runner.straight_failed (t : Task) (e : Error) : Straight (Runner.failed t e : Eng σ ω ResponseFailure) :=
  .bind (Eng.straight_emit _) fun _ => .done

theorem Runner.straight_respondSuccess (es : List Entry) :
    Straight (Runner.respondSuccess ctx (Source.channel : Source σ ω) es) := by
  induction es with
  | nil => exact .done
  | cons e es ih =>
      have hrest : ∀ here, Straight (Proc.bind (Runner.respondSuccess ctx (Source.channel : Source σ ω) es)
          fun rest => .done (here ++ rest)) := fun _ => .bind ih fun _ => .done
      simp only [Runner.respondSuccess, bind_eq, pure_eq]
      split
      · refine .bind (Source.straight_channel_respond _ _) fun r => ?_
        split
        · exact .bind .done hrest
        · exact .bind (Runner.straight_failed _ _) fun _ => .bind .done hrest
      · refine .bind .done fun r => ?_
        split
        · exact .bind .done hrest
        · exact .bind (Runner.straight_failed _ _) fun _ => .bind .done hrest

theorem Runner.straight_respondRejected (reason : String) (es : List Entry) :
    Straight (Runner.respondRejected (Source.channel : Source σ ω) reason es) := by
  induction es with
  | nil => exact .done
  | cons e es ih =>
      have hrest : ∀ here, Straight (Proc.bind (Runner.respondRejected (Source.channel : Source σ ω) reason es)
          fun rest => .done (here ++ rest)) := fun _ => .bind ih fun _ => .done
      simp only [Runner.respondRejected, bind_eq, pure_eq]
      refine .bind (Source.straight_channel_respond _ _) fun r => ?_
      split
      · exact .bind .done hrest
      · exact .bind (Runner.straight_failed _ _) fun _ => .bind .done hrest

theorem Assembler.straight_closeFor (reason : CloseReason) (a : Assembler) :
    Straight (a.closeFor reason : Eng σ ω Assembler) := by
  unfold Assembler.closeFor
  rcases a.batch.close reason with ⟨b, _ | e⟩
  · exact .done
  · exact .bind (Eng.straight_emit e) fun _ => .done

/-- The end of a run reads the clock and logs if it has to. -/
theorem straight_now_logIf {α : Type} {c : Nat → Bool} {e : Nat → Event} {f : Nat → α} :
    Straight (do
      let n ← Act.now
      if c n then Eng.emit (e n)
      pure (f n) : Eng σ ω α) := by
  refine .bind Act.straight_now fun n => ?_
  split
  · exact .bind (Eng.straight_emit _) fun _ => .done
  · exact .done

theorem Runner.straight_finish (started : Nat) (res : Except TransientError Unit) (c : Cursor) :
    Straight (Runner.finish ctx (Source.channel : Source σ ω) started res c) := by
  cases res with
  | ok u =>
      simp only [Runner.finish, bind_eq, pure_eq]
      exact .bind (Runner.straight_respondSuccess _) fun _ => .bind (Eng.straight_emit _) fun _ =>
        .bind .done fun _ => straight_now_logIf
  | error e =>
      simp only [Runner.finish, bind_eq, pure_eq]
      exact .bind (Eng.straight_emit _) fun _ => .bind (Runner.straight_respondRejected _ _) fun _ =>
        .bind (Eng.straight_emit _) fun _ => .bind .done fun _ => straight_now_logIf

end

/-! ## States that differ only in their log -/

/-- The state with its log set aside: what runs that log differently can still agree on. -/
def Shared.withoutLog (s : Shared (Env σ ω)) : Shared (Env σ ω) :=
  { s with rest := { s.rest with fx := { s.rest.fx with events := #[] } } }

/-- The state once the answers `ds` were put, in order, into the response channel. -/
def Shared.sendAll (ds : List Delivery) (s : Shared (Env σ ω)) : Shared (Env σ ω) :=
  { s with rest := { s.rest with delivered := s.rest.delivered ++ ds.toArray } }

namespace Shared

variable (s : Shared (Env σ ω))

@[simp] theorem now_withoutLog : s.withoutLog.now = s.now := rfl

@[simp] theorem now_sendAll (ds : List Delivery) : (s.sendAll ds).now = s.now := rfl

@[simp] theorem delivered_withoutLog : s.withoutLog.rest.delivered = s.rest.delivered := rfl

@[simp] theorem delivered_sendAll (ds : List Delivery) :
    (s.sendAll ds).rest.delivered = s.rest.delivered ++ ds.toArray := rfl

@[simp] theorem receiving_withoutLog : s.withoutLog.rest.receiving = s.rest.receiving := rfl

@[simp] theorem receiving_sendAll (ds : List Delivery) : (s.sendAll ds).rest.receiving = s.rest.receiving := rfl

theorem withoutLog_sendAll (ds : List Delivery) : (s.sendAll ds).withoutLog = s.withoutLog.sendAll ds := rfl

@[simp] theorem sendAll_nil : s.sendAll [] = s := by
  simp [sendAll]

@[simp] theorem sendAll_append (ds ds' : List Delivery) : (s.sendAll ds).sendAll ds' = s.sendAll (ds ++ ds') := by
  simp [sendAll, Array.append_assoc]

theorem sendAll_cons (d : Delivery) (ds : List Delivery) :
    s.sendAll (d :: ds) = ({ s with rest := { s.rest with delivered := s.rest.delivered.push d } }).sendAll ds := by
  simp [sendAll]

end Shared

section
variable {rt : Runtime (Shared (Env σ ω))} {s s' : Shared (Env σ ω)} {tr : List (Wake (Shared (Env σ ω)))}

/-- Logging changes nothing but the log. -/
theorem Eng.emit_withoutLog {e : Event} {u : Unit} (h : Exec rt (Eng.emit e) s s' u tr) :
    s'.withoutLog = s.withoutLog ∧ tr = [] := by
  obtain ⟨rfl, rfl⟩ := (Eng.exec_emit e).1 h
  exact ⟨rfl, rfl⟩

/-- An answer on the channel is sent at once while the receiver is held, and fails at once
when it is dropped. -/
theorem channel_respond_sends {t : Task} {resp : Response} {r : Except Error Unit}
    (h : Exec rt ((Source.channel : Source σ ω).respond t resp) s s' r tr) :
    tr = [] ∧ s' = s.sendAll (if s.rest.receiving then [⟨t.id, t.correlationId, resp⟩] else []) ∧
      r = if s.rest.receiving then .ok () else .error (receiverDropped t) := by
  rcases channel_respond_exec h with ⟨rfl, ⟨hrec, rfl, rfl⟩ | ⟨hrec, rfl, rfl⟩⟩
  · rw [if_pos hrec, if_pos hrec, Shared.sendAll_cons, Shared.sendAll_nil]
    exact ⟨rfl, rfl, rfl⟩
  · rw [if_neg (by simp [hrec]), if_neg (by simp [hrec]), Shared.sendAll_nil]
    exact ⟨rfl, rfl, rfl⟩

/-- Closing a batch changes nothing but the log. -/
theorem Assembler.closeFor_withoutLog {a a' : Assembler} {reason : CloseReason}
    (h : Exec rt (a.closeFor reason) s s' a' tr) : s'.withoutLog = s.withoutLog := by
  unfold Assembler.closeFor at h
  rcases hc : a.batch.close reason with ⟨b, e⟩
  rw [hc] at h
  cases e with
  | none =>
      obtain ⟨rfl, -, -⟩ := (exec_done _).1 h
      rfl
  | some e =>
      simp only [bind_eq, pure_eq, exec_bind, exec_done] at h
      obtain ⟨s₁, u, tr₁, tr₂, he, ⟨rfl, rfl, rfl⟩, rfl⟩ := h
      exact (Eng.emit_withoutLog he).1

/-- The end of a run reads the clock and logs if it has to; it changes nothing else. -/
theorem now_logIf_withoutLog {α : Type} {c : Nat → Bool} {e : Nat → Event} {f : Nat → α} {a : α}
    (h : Exec rt (do
      let n ← Act.now
      if c n then Eng.emit (e n)
      pure (f n)) s s' a tr) :
    s'.withoutLog = s.withoutLog ∧ tr = [] ∧ a = f s.now := by
  simp only [bind_eq, exec_bind, Act.exec_now] at h
  obtain ⟨_, _, _, tr₁, ⟨rfl, rfl, rfl⟩, h, rfl⟩ := h
  split at h
  · obtain ⟨s₁, u, tr₂, tr₃, he, hret, rfl⟩ := (exec_bind _ _).1 h
    obtain ⟨rfl, rfl, rfl⟩ := (exec_done _).1 hret
    obtain ⟨hs, rfl⟩ := Eng.emit_withoutLog he
    exact ⟨hs, rfl, rfl⟩
  · obtain ⟨rfl, rfl, rfl⟩ := (exec_done _).1 h
    exact ⟨rfl, rfl, rfl⟩

end

/-! ## What the answers after processing do -/

namespace Runner

section
variable {rt : Runtime (Shared (Env σ ω))} {ctx : Context}

/-- One answer after processing on the channel, then the rest: it is sent if the receiver is
held and recorded as undelivered if not, and nothing else but the log changes. -/
theorem answerThen_sends {t : Task} {resp : Response} {rest : Eng σ ω (List ResponseFailure)}
    {P : Shared (Env σ ω) → Shared (Env σ ω) → List ResponseFailure → List (Wake (Shared (Env σ ω))) → Prop}
    (hrest : ∀ {s s' fs tr}, Exec rt rest s s' fs tr → P s s' fs tr)
    {s s' : Shared (Env σ ω)} {fs : List ResponseFailure} {tr : List (Wake (Shared (Env σ ω)))}
    (h : Exec rt (Proc.bind ((Source.channel : Source σ ω).respond t resp) fun r =>
      match r with
      | .ok () => (done []).bind fun here => Proc.bind rest fun more => done (here ++ more)
      | .error err => Proc.bind (failed t err) fun f =>
          (done [f]).bind fun here => Proc.bind rest fun more => done (here ++ more)) s s' fs tr) :
    ∃ s₁ fs', s₁.withoutLog = (s.sendAll (if s.rest.receiving then [⟨t.id, t.correlationId, resp⟩] else [])).withoutLog ∧
      P s₁ s' fs' tr ∧ fs = (if s.rest.receiving then [] else [⟨t.id, receiverDropped t⟩]) ++ fs' := by
  obtain ⟨s₁, r, tr₁, tr₂, hr, h, rfl⟩ := (exec_bind _ _).1 h
  obtain ⟨rfl, rfl, rfl⟩ := channel_respond_sends hr
  by_cases hheld : s.rest.receiving = true
  · simp only [if_pos hheld, Proc.bind, exec_bind, exec_done] at h ⊢
    obtain ⟨s₂, more, tr₃, tr₄, hmore, ⟨rfl, hfs, rfl⟩, rfl⟩ := h
    exact ⟨_, more, rfl, by simpa using hrest hmore, by simp [hfs]⟩
  · simp only [if_neg hheld, Proc.bind, exec_bind, exec_done] at h ⊢
    obtain ⟨s₂, f, tr₃, tr₄, hf, ⟨s₃, more, tr₅, tr₆, hmore, ⟨rfl, hfs, rfl⟩, rfl⟩, rfl⟩ := h
    simp only [failed, bind_eq, pure_eq, exec_bind, exec_done] at hf
    obtain ⟨s₄, u, tr₇, tr₈, he, ⟨rfl, rfl, rfl⟩, rfl⟩ := hf
    obtain ⟨hs, rfl⟩ := Eng.emit_withoutLog he
    exact ⟨_, more, by simpa using hs, by simpa using hrest hmore, by simp [hfs]⟩

/-- On the channel, while the receiver is held, every answer whose patch could be encoded is
sent, in order; the others, and all of them once the receiver is dropped, are recorded as
failures. Nothing waits, and nothing but the answers and the log changes. -/
theorem respondSuccess_channel :
    ∀ {es : List Entry} {s s' : Shared (Env σ ω)} {fs : List ResponseFailure}
      {tr : List (Wake (Shared (Env σ ω)))},
      Exec rt (respondSuccess ctx Source.channel es) s s' fs tr →
        tr = [] ∧
          s'.withoutLog = (s.sendAll (es.filterMap (Entry.reply ctx.codec s.rest.receiving (.ok ())))).withoutLog ∧
          fs = es.filterMap (Entry.failure ctx.codec s.rest.receiving (.ok ()))
  | [], s, s', fs, tr, h => by
      obtain ⟨rfl, rfl, rfl⟩ := (exec_done _).1 h
      simp
  | e :: es, s, s', fs, tr, h => by
      simp only [respondSuccess, bind_eq, pure_eq] at h
      cases hc : ctx.codec.encode e.document.toPatch with
      | ok data =>
          simp only [hc] at h
          obtain ⟨s₁, fs', hs₁, ⟨rfl, hs', rfl⟩, rfl⟩ := answerThen_sends (fun h => respondSuccess_channel h) h
          have hheld : s₁.rest.receiving = s.rest.receiving := by
            simpa using congrArg (fun x => x.rest.receiving) hs₁
          refine ⟨rfl, ?_, ?_⟩
          · rw [hs', Shared.withoutLog_sendAll, hs₁, hheld, ← Shared.withoutLog_sendAll]
            cases s.rest.receiving <;> simp [Entry.reply, hc]
          · rw [hheld]
            cases s.rest.receiving <;> simp [Entry.failure, hc, Entry.undelivered]
      | error err =>
          simp only [hc, Proc.bind, failed, bind_eq, pure_eq, exec_bind, exec_done] at h
          obtain ⟨s₁, f, tr₁, tr₂, ⟨s₂, u, tr₃, tr₄, he, ⟨rfl, rfl, rfl⟩, rfl⟩,
            ⟨s₃, rest, tr₅, tr₆, hrest, ⟨rfl, rfl, rfl⟩, rfl⟩, rfl⟩ := h
          obtain ⟨hs₂, rfl⟩ := Eng.emit_withoutLog he
          obtain ⟨rfl, hs₃, rfl⟩ := respondSuccess_channel hrest
          have hheld : s₁.rest.receiving = s.rest.receiving := by
            simpa using congrArg (fun x => x.rest.receiving) hs₂
          refine ⟨rfl, ?_, ?_⟩
          · rw [hs₃, Shared.withoutLog_sendAll, hs₂, ← Shared.withoutLog_sendAll, hheld]
            simp [Entry.reply, hc]
          · rw [hheld]
            simp [Entry.failure, hc]

/-- On the channel, every rejection is sent, in order, while the receiver is held; once it is
dropped, every one is recorded as undelivered. -/
theorem respondRejected_channel {reason : String} :
    ∀ {es : List Entry} {s s' : Shared (Env σ ω)} {fs : List ResponseFailure}
      {tr : List (Wake (Shared (Env σ ω)))},
      Exec rt (respondRejected Source.channel reason es) s s' fs tr →
        tr = [] ∧ fs = (if s.rest.receiving then [] else es.map Entry.undelivered) ∧
          s'.withoutLog = (s.sendAll (if s.rest.receiving then
            es.map fun e => ⟨e.task.id, e.task.correlationId, .rejected reason⟩ else [])).withoutLog
  | [], s, s', fs, tr, h => by
      obtain ⟨rfl, rfl, rfl⟩ := (exec_done _).1 h
      simp
  | e :: es, s, s', fs, tr, h => by
      simp only [respondRejected, bind_eq, pure_eq] at h
      obtain ⟨s₁, fs', hs₁, ⟨rfl, rfl, hs'⟩, rfl⟩ := answerThen_sends (fun h => respondRejected_channel h) h
      have hheld : s₁.rest.receiving = s.rest.receiving := by
        simpa using congrArg (fun x => x.rest.receiving) hs₁
      refine ⟨rfl, ?_, ?_⟩
      · rw [hheld]
        cases s.rest.receiving <;> simp [Entry.undelivered]
      · rw [hs', Shared.withoutLog_sendAll, hs₁, hheld, ← Shared.withoutLog_sendAll]
        cases s.rest.receiving <;> simp

/-- Once processing returned, a run on the channel answers every task of the batch by the
outcome, in order, as far as the receiver takes them, waits for nothing, changes nothing but
the answers and the log, and reports on the batch. -/
theorem finish_channel {started : Nat} {res : Except TransientError Unit} {c : Cursor}
    {s s' : Shared (Env σ ω)} {R : Report} {tr : List (Wake (Shared (Env σ ω)))}
    (h : Exec rt (finish ctx Source.channel started res c) s s' R tr) :
    tr = [] ∧
      s'.withoutLog = (s.sendAll (c.batch.entries.filterMap (Entry.reply ctx.codec s.rest.receiving res))).withoutLog ∧
      R = { size := c.batch.size, refused := c.batch.refused,
            outcome := if res.isOk then .succeeded else .rejected, closeReason := c.batch.closeReason,
            interrupted := c.batch.closeReason == some .interrupted,
            failures := c.batch.entries.filterMap (Entry.failure ctx.codec s.rest.receiving res),
            durationMs := s.now - started } := by
  cases res with
  | ok u =>
      obtain ⟨s₁, fs, tr₁, tr₂, hsucc, h₁, rfl⟩ := (exec_bind _ _).1 h
      obtain ⟨s₂, u₂, tr₃, tr₄, ht, h₂, rfl⟩ := (exec_bind _ _).1 h₁
      obtain ⟨rfl, hs₁, rfl⟩ := respondSuccess_channel hsucc
      obtain ⟨hs₂, rfl⟩ := Eng.emit_withoutLog ht
      have hn : s₂.now = s.now := by
        rw [← Shared.now_withoutLog, hs₂, hs₁]
        rfl
      obtain ⟨_, _, _, tr₅, hpure, hend, rfl⟩ := (exec_bind _ _).1 h₂
      obtain ⟨rfl, rfl, rfl⟩ := (exec_done _).1 hpure
      obtain ⟨hs₃, rfl, rfl⟩ := now_logIf_withoutLog hend
      refine ⟨rfl, by rw [hs₃, hs₂, hs₁], ?_⟩
      simp [hn, Except.isOk, Except.toBool]
  | error e =>
      obtain ⟨s₁, u₁, tr₁, tr₂, he, h₁, rfl⟩ := (exec_bind _ _).1 h
      obtain ⟨s₂, fs, tr₃, tr₄, hrej, h₂, rfl⟩ := (exec_bind _ _).1 h₁
      obtain ⟨s₃, u₃, tr₅, tr₆, ht, h₃, rfl⟩ := (exec_bind _ _).1 h₂
      obtain ⟨hs₁, rfl⟩ := Eng.emit_withoutLog he
      obtain ⟨rfl, rfl, hs₂⟩ := respondRejected_channel hrej
      obtain ⟨hs₃, rfl⟩ := Eng.emit_withoutLog ht
      have hheld : s₁.rest.receiving = s.rest.receiving := by
        simpa using congrArg (fun x => x.rest.receiving) hs₁
      have hn : s₃.now = s.now := by
        rw [← Shared.now_withoutLog, hs₃, hs₂, Shared.withoutLog_sendAll, hs₁]
        rfl
      obtain ⟨_, _, _, tr₇, hpure, hend, rfl⟩ := (exec_bind _ _).1 h₃
      obtain ⟨rfl, rfl, rfl⟩ := (exec_done _).1 hpure
      obtain ⟨hs₄, rfl, rfl⟩ := now_logIf_withoutLog hend
      have hsent : s'.withoutLog =
          (s.sendAll (c.batch.entries.filterMap (Entry.reply ctx.codec s.rest.receiving (.error e)))).withoutLog := by
        rw [hs₄, hs₃, hs₂, Shared.withoutLog_sendAll, hs₁, ← Shared.withoutLog_sendAll,
          Entry.filterMap_reply_error, hheld]
        rfl
      refine ⟨rfl, hsent, ?_⟩
      simp [hn, hheld, Entry.filterMap_failure_error, Except.isOk, Except.toBool]

end

end Runner

/-! ## A batch of one -/

section
variable {rt : Runtime (Shared (Env σ ω))} {ctx : Context} {src : Source σ ω}
  {s s' : Shared (Env σ ω)} {tr : List (Wake (Shared (Env σ ω)))}

/-- An attempt that admits a task leaves the batch as open as it was, for the same reason. -/
theorem Assembler.tryAdmit_admitted_open {a a' : Assembler}
    (h : Exec rt (a.tryAdmit ctx src) s s' (.admitted, a') tr) :
    a'.batch.closed = a.batch.closed ∧ a'.batch.closeReason = a.batch.closeReason := by
  cases Assembler.tryAdmit_exec h with
  | pulls _ _ _ h =>
      have hloop := Exec.loop_invariant
        (I := fun b _ _ => b.batch.closed = a.batch.closed ∧ b.batch.closeReason = a.batch.closeReason)
        (J := fun r _ _ => r.1 = .admitted →
          r.2.batch.closed = a.batch.closed ∧ r.2.batch.closeReason = a.batch.closeReason)
        ?_ [] ⟨rfl, rfl⟩ h
      · obtain ⟨r, s₁, tr₁, tr₂, hJ, hdone, rfl⟩ := hloop
        obtain ⟨-, rfl, -⟩ := (exec_done _).1 hdone
        exact hJ rfl
      intro b s₁ s₂ r tr pre ⟨hc, hr⟩ hpass
      obtain ⟨s₃, p, tr₁, tr₂, -, hend, rfl⟩ := Assembler.pullOnce_exec hpass
      cases hend with
      | admitted _ _ =>
          intro _
          simp [Batch.accept, hc, hr]
      | refused _ hrf _ =>
          obtain ⟨rfl, -⟩ := Assembler.refuse_exec hrf
          exact ⟨hc, hr⟩
      | interrupted _ | elapsed _ | failed _ | refusedLate _ _ _ _ =>
          intro hno
          cases hno


/-- A cursor that handed out the one document its batch may hold, and left the batch open. -/
structure Cursor.HandedOne (c : Cursor) : Prop where
  size : c.batch.size = 1
  position : c.position = 1
  maxSize : c.assembler.limits.maxSize = 1
  closed : c.batch.closed = false
  closeReason : c.batch.closeReason = none

namespace Cursor

/-- Asking a fresh cursor for a document tries to admit one. When none comes the batch stays
empty; when one comes it is the first, and the batch of one is open. -/
theorem next_fresh (hsrc : src.Faithful rt) {limits : Limits} (hone : limits.maxSize = 1)
    {i : Option Nat} {c : Cursor}
    (h : Exec rt (({ assembler := { limits } } : Cursor).next ctx src) s s' (i, c) tr) :
    (i = none ∧ c.batch.size = 0) ∨ (i = some 0 ∧ c.HandedOne) := by
  unfold Cursor.next at h
  split at h
  · obtain ⟨s₁, ⟨adm, a⟩, tr₁, tr₂, ht, h, rfl⟩ := (exec_bind _ _).1 h
    have hat := Assembler.tryAdmit_attempt hsrc ht
    cases adm with
    | admitted =>
        obtain ⟨rfl, hres, rfl⟩ := (exec_done _).1 h
        cases hres
        obtain ⟨e, he⟩ := hat.admits.admitted_iff.1 rfl
        obtain ⟨hc, hr⟩ := Assembler.tryAdmit_admitted_open ht
        refine .inr ⟨rfl, ⟨?_, rfl, ?_, hc, hr⟩⟩
        · simp [Cursor.batch, Batch.size, he]
        · rw [hat.limits_eq, hone]
    | noMore =>
        obtain ⟨rfl, hres, rfl⟩ := (exec_done _).1 h
        cases hres
        have he := (hat.admits.noMore rfl).2
        exact .inl ⟨rfl, by simp [Cursor.batch, Batch.size, he]⟩
  · rename_i hle
    exact absurd (Nat.zero_le _) hle

/-- Processing keeps a batch of one handed out, and open. -/
theorem HandedOne.process {w : Worker σ ω} {i : Nat} {r : Except TransientError Bool} {c c' : Cursor}
    (hc : c.HandedOne) (h : Exec rt (c.process w i) s s' (r, c') tr) : c'.HandedOne := by
  obtain ⟨-, -, rfl | ⟨d, rfl⟩⟩ := Cursor.process_exec h
  · exact hc
  · exact ⟨by simpa [Cursor.batch, Batch.setDocument, Batch.size] using hc.size, hc.position, hc.maxSize,
      hc.closed, hc.closeReason⟩

/-- Once its one document is handed out, asking for another closes the batch for its size, at
once and without waiting. -/
theorem HandedOne.next_exec {c c' : Cursor} {i : Option Nat} (hc : c.HandedOne)
    (h : Exec rt (c.next ctx src) s s' (i, c') tr) :
    i = none ∧ c'.batch = { c.batch with closed := true, closeReason := some .sizeLimit } ∧
      tr = [] ∧ s'.withoutLog = s.withoutLog := by
  unfold Cursor.next at h
  split at h
  · obtain ⟨s₁, ⟨adm, a⟩, tr₁, tr₂, ht, hk, rfl⟩ := (exec_bind _ _).1 h
    unfold Assembler.tryAdmit at ht
    split at ht
    · obtain ⟨s₂, a₂, tr₃, tr₄, hcl, hdone, rfl⟩ := (exec_bind _ _).1 ht
      obtain ⟨rfl, hres, rfl⟩ := (exec_done _).1 hdone
      cases hres
      have hs := Assembler.closeFor_withoutLog hcl
      obtain ⟨rfl, rfl, -⟩ := Assembler.closeFor_exec hcl
      obtain ⟨rfl, hres, rfl⟩ := (exec_done _).1 hk
      cases hres
      refine ⟨rfl, ?_, rfl, hs⟩
      have hopen : c.assembler.batch.closed = false := hc.closed
      simp [Cursor.batch, Batch.close, hopen]
    · rename_i hlt
      have := hc.size
      have := hc.maxSize
      simp only [Cursor.batch] at *
      omega
  · rename_i hlt
    have := hc.size
    have := hc.position
    omega

theorem HandedOne.straight_next {c : Cursor} (hc : c.HandedOne) : Straight (c.next ctx src) := by
  unfold Cursor.next Assembler.tryAdmit
  have hfull : c.assembler.limits.maxSize ≤ c.assembler.batch.size := by
    have := hc.size
    have := hc.maxSize
    simp only [Cursor.batch] at *
    omega
  rw [if_pos (by have := hc.size; have := hc.position; omega), if_pos hfull]
  refine .bind (.bind (Assembler.straight_closeFor _ _) fun _ => .done) fun r => ?_
  rcases r with ⟨_ | _, a⟩ <;> exact .done

end Cursor

/-! ## Two ways to process a batch of one -/

variable {w : Worker σ ω}

/-- How a batch of one is processed from the cursor `c₀`: the cursor gives no document, or it
gives one and the worker processes it. -/
inductive OneRun (ctx : Context) (src : Source σ ω) (rt : Runtime (Shared (Env σ ω)))
    (w : Worker σ ω) (c₀ : Cursor) (s : Shared (Env σ ω)) :
    Shared (Env σ ω) → Except TransientError Unit → Cursor → List (Wake (Shared (Env σ ω))) → Prop
  | none {s' : Shared (Env σ ω)} {c : Cursor} {tr : List (Wake (Shared (Env σ ω)))} :
      Exec rt (c₀.next ctx src) s s' (none, c) tr → OneRun ctx src rt w c₀ s s' (.ok ()) c tr
  | some {s₁ s' : Shared (Env σ ω)} {i : Nat} {c₁ c : Cursor} {r : Except TransientError Bool}
      {tr₁ tr₂ : List (Wake (Shared (Env σ ω)))} :
      Exec rt (c₀.next ctx src) s s₁ (some i, c₁) tr₁ → Exec rt (c₁.process w i) s₁ s' (r, c) tr₂ →
      OneRun ctx src rt w c₀ s s' (r.map fun _ => ()) c (tr₁ ++ tr₂)

theorem processWith_single_iff {c₀ c : Cursor} {res : Except TransientError Unit} :
    Exec rt (Runner.processWith ctx src c₀ (.single w)) s s' (res, c) tr ↔
      OneRun ctx src rt w c₀ s s' res c tr := by
  simp only [Runner.processWith, bind_eq, exec_bind]
  constructor
  · rintro ⟨s₁, ⟨i, c₁⟩, tr₁, tr₂, hn, hk, rfl⟩
    rcases i with _ | i
    · obtain ⟨rfl, hres, rfl⟩ := (exec_done _).1 hk
      cases hres
      simpa using OneRun.none hn
    · simp only [exec_bind] at hk
      obtain ⟨s₂, ⟨r, c₂⟩, tr₃, tr₄, hp, hk, rfl⟩ := hk
      obtain ⟨rfl, hres, rfl⟩ := (exec_done _).1 hk
      cases hres
      simpa using OneRun.some hn hp
  · intro h
    cases h with
    | none hn => exact ⟨_, (none, _), _, [], hn, by simp, by simp⟩
    | some hn hp => exact ⟨_, (some _, _), _, _, hn, (exec_bind _ _).2 ⟨_, _, _, [], hp, by simp, by simp⟩, rfl⟩

/-- How the default bulk program's end relates to the end `res`, `c`, `s` of a single
processor: the same state but for the log, and the same batch, except that it is closed for its
size when a document was processed, where the single processor left it open. -/
structure BulkEnd (res : Except TransientError Unit) (c c' : Cursor) (s s' : Shared (Env σ ω)) :
    Prop where
  state : s'.withoutLog = s.withoutLog
  batch : c'.batch = if res.isOk ∧ c.batch.size ≠ 0 then
    { c.batch with closed := true, closeReason := some .sizeLimit } else c.batch
  reason : res.isOk → c.batch.size ≠ 0 → c.batch.closeReason = none

theorem bulk_of_one (hsrc : src.Faithful rt) {limits : Limits} (hone : limits.maxSize = 1)
    {res : Except TransientError Unit} {c : Cursor}
    (h : OneRun ctx src rt w { assembler := { limits } } s s' res c tr) :
    ∃ s'' c', Exec rt (Runner.processWith ctx src { assembler := { limits } } (.bulkEach w)) s s'' (res, c') tr ∧
      BulkEnd res c c' s' s'' := by
  simp only [Runner.processWith, Processor.bulkEach, Processor.eachDocument, Cursor.drain, Proc.iterate,
    bind_eq, exec_bind, exec_loop, unroll]
  cases h with
  | none hn =>
      rcases Cursor.next_fresh hsrc hone hn with ⟨-, h0⟩ | ⟨hi, -⟩
      · refine ⟨s', c, ⟨s', (.ok 0, c), tr, [], ⟨s', .inr (.ok 0, c), tr, [],
          ⟨s', (none, c), tr, [], hn, ?_, ?_⟩, ?_, ?_⟩, ?_, ?_⟩, ⟨rfl, ?_, ?_⟩⟩
        all_goals simp [h0, Except.map]
      · cases hi
  | @some s₁ _ i c₁ _ r tr₁ tr₂ hn hp =>
      rcases Cursor.next_fresh hsrc hone hn with ⟨hi, -⟩ | ⟨⟨⟩, hc₁⟩
      · cases hi
      have hc := hc₁.process hp
      rcases r with e | b
      · refine ⟨s', c, ⟨s', (.error e, c), tr₁ ++ tr₂, [], ⟨s', .inr (.error e, c), tr₁ ++ tr₂, [],
          ⟨s₁, (some 0, c₁), tr₁, tr₂, hn, ?_, rfl⟩, ?_, ?_⟩, ?_, ?_⟩, ⟨rfl, ?_, ?_⟩⟩
        · exact (exec_bind _ _).2 ⟨s', (.error e, c), tr₂, [], hp, by simp, by simp⟩
        all_goals simp [Except.map, Except.isOk, Except.toBool]
      · obtain ⟨s₃, ⟨i₃, c₃⟩, hnext⟩ :=
          (Proc.Straight.exec hc.straight_next s' : ∃ s₃ a, Exec rt (c.next ctx src) s' s₃ a [])
        obtain ⟨rfl, hb, -, hs⟩ := hc.next_exec hnext
        refine ⟨s₃, c₃, ⟨s₃, (.ok 1, c₃), tr₁ ++ tr₂, [], ⟨s', .inl (1, c), tr₁ ++ tr₂, [],
          ⟨s₁, (some 0, c₁), tr₁, tr₂, hn, ?_, rfl⟩, ?_, ?_⟩, ?_, ?_⟩, ⟨hs, ?_, ?_⟩⟩
        · exact (exec_bind _ _).2 ⟨s', (.ok b, c), tr₂, [], hp, by simp, by simp⟩
        · exact (exec_loop _ _ _).2 ((exec_bind _ _).2 ⟨s₃, .inr (.ok 1, c₃), [], [],
            (exec_bind _ _).2 ⟨s₃, (none, c₃), [], [], hnext, by simp, rfl⟩, by simp, rfl⟩)
        all_goals simp [hb, hc.size, hc.closeReason, Except.map, Except.isOk, Except.toBool]

theorem one_of_bulk (hsrc : src.Faithful rt) {limits : Limits} (hone : limits.maxSize = 1)
    {res : Except TransientError Unit} {c' : Cursor} {s'' : Shared (Env σ ω)}
    (h : Exec rt (Runner.processWith ctx src { assembler := { limits } } (.bulkEach w)) s s'' (res, c') tr) :
    ∃ s' c, OneRun ctx src rt w { assembler := { limits } } s s' res c tr ∧ BulkEnd res c c' s' s'' := by
  simp only [Runner.processWith, Processor.bulkEach, Processor.eachDocument, Cursor.drain, Proc.iterate,
    bind_eq, exec_bind, exec_loop, unroll] at h
  obtain ⟨s₄, ⟨r₄, c₄⟩, tr₃, tr₄, ⟨s₂, x, tr₁, tr₂, ⟨s₁, ⟨i, c₁⟩, tr₅, tr₆, hn, hk, rfl⟩, hloop, rfl⟩,
    hret, rfl⟩ := h
  obtain ⟨rfl, hres, rfl⟩ := (exec_done _).1 hret
  cases hres
  rcases Cursor.next_fresh hsrc hone hn with ⟨rfl, h0⟩ | ⟨⟨⟩, hc₁⟩
  · obtain ⟨rfl, rfl, rfl⟩ := (exec_done _).1 hk
    obtain ⟨rfl, hres, rfl⟩ := (exec_done _).1 hloop
    cases hres
    exact ⟨_, _, by simpa [Except.map] using OneRun.none hn, ⟨rfl, by simp [h0], by simp [h0]⟩⟩
  obtain ⟨s₃, ⟨r, c₂⟩, tr₇, tr₈, hp, hk, rfl⟩ := (exec_bind _ _).1 hk
  have hc₂ := hc₁.process hp
  rcases r with e | b
  · obtain ⟨rfl, rfl, rfl⟩ := (exec_done _).1 hk
    obtain ⟨rfl, hres, rfl⟩ := (exec_done _).1 hloop
    cases hres
    exact ⟨_, _, by simpa [Except.map] using OneRun.some hn hp,
      ⟨rfl, by simp [Except.map, Except.isOk, Except.toBool], by simp [Except.map, Except.isOk, Except.toBool]⟩⟩
  · obtain ⟨rfl, rfl, rfl⟩ := (exec_done _).1 hk
    simp only [exec_loop, unroll, exec_bind] at hloop
    obtain ⟨s₅, y, tr₉, tr₁₀, ⟨s₆, ⟨j, c₃⟩, tr₁₁, tr₁₂, hnext, hk, rfl⟩, hend, rfl⟩ := hloop
    obtain ⟨rfl, hb, rfl, hs⟩ := hc₂.next_exec hnext
    obtain ⟨rfl, rfl, rfl⟩ := (exec_done _).1 hk
    obtain ⟨rfl, hres, rfl⟩ := (exec_done _).1 hend
    cases hres
    exact ⟨_, _, by simpa [Except.map] using OneRun.some hn hp,
      ⟨hs, by simp [hb, hc₂.size, Except.map, Except.isOk, Except.toBool], by simp [hc₂.closeReason]⟩⟩



/-! ## The two runs agree -/

/-- How a bulk run of a batch of one ends (`s₂`, `R₂`) against a single run (`s₁`, `R₁`): in the
same state but for the log, with the same report, except that the bulk run closed for its size
the batch of a document that was processed, which the single run left open. -/
structure SameRun (s₁ : Shared (Env σ ω)) (R₁ : Report) (s₂ : Shared (Env σ ω)) (R₂ : Report) : Prop where
  state : s₂.withoutLog = s₁.withoutLog
  report : R₂ = if R₁.size ≠ 0 ∧ R₁.outcome = .succeeded then
    { R₁ with closeReason := some .sizeLimit } else R₁
  leftOpen : R₁.size ≠ 0 → R₁.outcome = .succeeded → R₁.closeReason = none

/-- The answers and report after processing, from the ends of the two ways to process, agree as
`SameRun` says. -/
theorem finish_sameRun {started : Nat} {res : Except TransientError Unit} {c c' : Cursor}
    {sc sc' s₁ s₂ : Shared (Env σ ω)} {R₁ R₂ : Report} {tr₁ tr₂ : List (Wake (Shared (Env σ ω)))}
    (hend : BulkEnd res c c' sc sc')
    (h₁ : Exec rt (Runner.finish ctx Source.channel started res c) sc s₁ R₁ tr₁)
    (h₂ : Exec rt (Runner.finish ctx Source.channel started res c') sc' s₂ R₂ tr₂) :
    tr₂ = tr₁ ∧ SameRun s₁ R₁ s₂ R₂ := by
  obtain ⟨rfl, hs₁, rfl⟩ := Runner.finish_channel h₁
  obtain ⟨rfl, hs₂, rfl⟩ := Runner.finish_channel h₂
  have hentries : c'.batch.entries = c.batch.entries := by
    rw [hend.batch]
    split <;> rfl
  have hnow : sc'.now = sc.now := by
    rw [← Shared.now_withoutLog, hend.state, Shared.now_withoutLog]
  have hsize : c'.batch.size = c.batch.size := congrArg List.length hentries
  have hheld : sc'.rest.receiving = sc.rest.receiving := by
    simpa using congrArg (fun x => x.rest.receiving) hend.state
  rw [hheld] at hs₂
  refine ⟨rfl, ⟨?_, ?_, ?_⟩⟩
  · rw [hs₂, hs₁, Shared.withoutLog_sendAll, Shared.withoutLog_sendAll, hend.state, hentries]
  · by_cases hdoc : res.isOk = true ∧ c.batch.size ≠ 0
    · have hb : c'.batch = { c.batch with closed := true, closeReason := some .sizeLimit } := by
        rw [hend.batch, if_pos hdoc]
      have hrefused : c'.batch.refused = c.batch.refused := by rw [hb]
      have hreason : c'.batch.closeReason = some .sizeLimit := by rw [hb]
      simp [hdoc, hsize, hentries, hnow, hheld, hrefused, hreason, hend.reason hdoc.1 hdoc.2]
    · have hb : c'.batch = c.batch := by
        rw [hend.batch, if_neg hdoc]
      have hnot : ¬(c.batch.size ≠ 0 ∧ (if res.isOk = true then Outcome.succeeded else .rejected) = .succeeded) := by
        rintro ⟨hne, hok⟩
        refine hdoc ⟨?_, hne⟩
        by_contra hno
        simp [hno] at hok
      rw [if_neg hnot, hb, hnow, hheld]
  · intro hne hok
    refine hend.reason ?_ hne
    by_contra hno
    simp [hno] at hok

/-- With room for one document, the bulk processor gets the same batch limits as a single one. -/
theorem Runner.limits_bulkEach {settings : WorkerSettings} (h : settings.maxBatchSize = 1)
    (w : Worker σ ω) : Runner.limits settings (.bulkEach w) = Runner.limits settings (.single w) := by
  simp [Runner.limits, Processor.bulkEach, WorkerSettings.batchLimit, h]

/-- With settings that allow one document per batch, a single processor and the default bulk
program on the same worker run a batch alike on the channel, against any runtime and with any
codec: from the same state, every run of one is matched by a run of the other with the same
trace, ending in the same state but for the log, with the same report except for the close
reason of a batch whose document was processed (`SameRun`). -/
theorem single_bulk_agree (rt : Runtime (Shared (Env σ ω))) (ctx : Context) (w : Worker σ ω)
    (hsize : ctx.settings.maxBatchSize = 1) (s : Shared (Env σ ω))
    (tr : List (Wake (Shared (Env σ ω)))) :
    (∀ s₁ R₁, Exec rt (runBatch ctx Source.channel (.single w)) s s₁ R₁ tr →
      ∃ s₂ R₂, Exec rt (runBatch ctx Source.channel (.bulkEach w)) s s₂ R₂ tr ∧ SameRun s₁ R₁ s₂ R₂) ∧
    (∀ s₂ R₂, Exec rt (runBatch ctx Source.channel (.bulkEach w)) s s₂ R₂ tr →
      ∃ s₁ R₁, Exec rt (runBatch ctx Source.channel (.single w)) s s₁ R₁ tr ∧ SameRun s₁ R₁ s₂ R₂) := by
  have hsrc := Source.channel_faithful rt
  have hone : (Runner.limits ctx.settings (.single w : Processor σ ω)).maxSize = 1 := rfl
  simp only [runBatch_eq, bind_eq, Runner.limits_bulkEach hsize w]
  constructor
  · intro s₁ R₁ h
    refine exec_bind_sim_right SameRun (fun started _ _ _ _ h => ?_) h
    refine exec_bind_sim_right SameRun (fun _ _ _ _ _ h => ?_) h
    refine exec_bind_sim_right SameRun (fun _ _ _ _ _ h => ?_) h
    refine exec_bind_sim (fun sc x sc' x' => x'.1 = x.1 ∧ BulkEnd x.1 x.2 x'.2 sc sc') SameRun
      (fun sc x _ hp => ?_) (fun sc x sc' x' hx s₃ R tr₃ hf => ?_) h
    · obtain ⟨sc', c', hp', hend⟩ := bulk_of_one hsrc hone (processWith_single_iff.1 hp)
      exact ⟨sc', (x.1, c'), hp', rfl, hend⟩
    · obtain ⟨hres, hend⟩ := hx
      obtain ⟨s₄, R₄, hf'⟩ := (Runner.straight_finish started x.1 x'.2).exec sc'
      obtain ⟨htr, hsame⟩ := finish_sameRun hend hf hf'
      refine ⟨s₄, R₄, ?_, hsame⟩
      rw [hres, ← htr]
      exact hf'
  · intro s₂ R₂ h
    refine exec_bind_sim_right (fun s₂ R₂ s₁ R₁ => SameRun s₁ R₁ s₂ R₂) (fun started _ _ _ _ h => ?_) h
    refine exec_bind_sim_right (fun s₂ R₂ s₁ R₁ => SameRun s₁ R₁ s₂ R₂) (fun _ _ _ _ _ h => ?_) h
    refine exec_bind_sim_right (fun s₂ R₂ s₁ R₁ => SameRun s₁ R₁ s₂ R₂) (fun _ _ _ _ _ h => ?_) h
    refine exec_bind_sim (fun sc' x' sc x => x'.1 = x.1 ∧ BulkEnd x.1 x.2 x'.2 sc sc')
      (fun s₂ R₂ s₁ R₁ => SameRun s₁ R₁ s₂ R₂)
      (fun sc' x' _ hp' => ?_) (fun sc' x' sc x hx s₃ R tr₃ hf' => ?_) h
    · obtain ⟨sc, c, hp, hend⟩ := one_of_bulk hsrc hone hp'
      exact ⟨sc, (x'.1, c), processWith_single_iff.2 hp, rfl, hend⟩
    · obtain ⟨hres, hend⟩ := hx
      rw [hres] at hf'
      obtain ⟨s₄, R₄, hf⟩ := (Runner.straight_finish started x.1 x.2).exec sc
      obtain ⟨htr, hsame⟩ := finish_sameRun hend hf hf'
      refine ⟨s₄, R₄, ?_, hsame⟩
      rw [htr]
      exact hf

/-- Echoing documents with room for one per batch, with a task that has no data and one that
has a document in the channel: the single run refuses the first, admits and processes the second
and answers both, and a bulk run of the same trace agrees with it. -/
theorem single_bulk_agree_admitted :
    ({ settings := { maxBatchSize := 1 } } : Context).settings.maxBatchSize = 1 ∧
      ∃ (s₁ : Shared (Env Unit Unit)) (R₁ : Report) (tr : List (Wake (Shared (Env Unit Unit)))),
        Exec (Outside.runtime ⟨5000, none⟩)
          (runBatch { settings := { maxBatchSize := 1 } } Source.channel (.single Worker.echo))
          (Outside.start [{ id := 1 }, Task.blank 2]) s₁ R₁ tr ∧
        R₁.size = 1 ∧ R₁.refused = 1 ∧ R₁.outcome = .succeeded ∧
        ∃ s₂ R₂, Exec (Outside.runtime ⟨5000, none⟩)
          (runBatch { settings := { maxBatchSize := 1 } } Source.channel (.bulkEach Worker.echo))
          (Outside.start [{ id := 1 }, Task.blank 2]) s₂ R₂ tr ∧ SameRun s₁ R₁ s₂ R₂ := by
  obtain ⟨s₁, R₁, tr, h, hfacts⟩ := exec_of_runFor_any (show
    (runFor (Outside.wake ⟨5000, none⟩) 1000
      (runBatch { settings := { maxBatchSize := 1 } } Source.channel (.single (Worker.echo : Worker Unit Unit)))
        (Outside.start [{ id := 1 }, Task.blank 2])).any
      (fun x => x.2.1.size == 1 && x.2.1.refused == 1 && x.2.1.outcome == .succeeded) = true by decide +kernel)
  simp only [Bool.and_eq_true, beq_iff_eq] at hfacts
  obtain ⟨⟨hsize, hrefused⟩, houtcome⟩ := hfacts
  exact ⟨rfl, s₁, R₁, tr, h, hsize, hrefused, houtcome,
    (single_bulk_agree (Outside.runtime ⟨5000, none⟩) _ Worker.echo rfl _ tr).1 s₁ R₁ h⟩

end

end DocBatch
