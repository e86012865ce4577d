import DocBatch.Proofs.Engine.Answers

/-!
# What a batch run logs

A batch run tells in the log what became of its batch, and what it tells agrees with the
report it returns. Six messages tell it (`storyMessages`): the batch's transitions, each
admission, each refusal, the close, each answer that could not be delivered, and the
completion. Whatever the runtime brings, the events of these messages that a run logs are:

* the transitions `new → assembling`, `assembling → running`, then `running → succeeded` or
  `running → rejected` by the report's outcome, in this order;
* one admission per document of the batch, in order, with its position and its task;
* one refusal per refused task, as many as the report counts, each with the task's own
  refusal;
* one close exactly when the report gives a reason, with that reason and the batch's size;
* one undelivered answer per response failure of the report, in order;
* one completion with the report's figures, exactly when the batch admitted or refused
  anything, which is exactly when the host's statistics count the run.

The log is shared, so the statement assumes that nobody else logs these messages while the run
waits (`KeepsStory`), that the source's pulls and answers log none of them (`Source.Quiet`),
and that processing code moves through the batch only by the cursor's operations, its own work
logging none of them (`Processor.Quiet`). Both processors of the engine are quiet when their
worker is (`single_quiet`, `bulkEach_quiet`).

The invariant is `Told`: the events told so far agree with the batch. Admitting, refusing,
closing and editing keep it (`Told.accept`, `Told.refuse`, `Told.close`,
`Told.setDocument`), so every attempt to admit (`tryAdmit_tells`) and every run of quiet
processing code (`QuietRun.tells`) does. The main statement is `runBatch_tells_report`.
-/

namespace DocBatch

open Proc

/-! ## The story of a batch in the log -/

/-- The messages of the events that tell what became of a batch. -/
def storyMessages : List String :=
  ["batch_transition", "document admitted", "task refused", "batch closed",
    "could not deliver response", "batch completed"]

/-- The events of a log with one message, in order. -/
def withMessage (m : String) (es : List Event) : List Event := es.filter (·.message = m)

/-- The events of a log that tell what became of a batch, in order. -/
def story (es : List Event) : List Event := es.filter (·.message ∈ storyMessages)

@[simp] theorem withMessage_nil (m : String) : withMessage m [] = [] := rfl

@[simp] theorem withMessage_append (m : String) (es es' : List Event) :
    withMessage m (es ++ es') = withMessage m es ++ withMessage m es' := by
  simp [withMessage]

@[simp] theorem withMessage_cons (m : String) (e : Event) (es : List Event) :
    withMessage m (e :: es) = (if e.message = m then [e] else []) ++ withMessage m es := by
  by_cases h : e.message = m <;> simp [withMessage, h]

@[simp] theorem story_nil : story [] = [] := rfl

@[simp] theorem story_append (es es' : List Event) : story (es ++ es') = story es ++ story es' := by
  simp [story]

theorem story_singleton (e : Event) :
    story [e] = if e.message ∈ storyMessages then [e] else [] := by
  by_cases h : e.message ∈ storyMessages <;> simp [story, h]

namespace BatchEvent

/-- A change of the batch's state. -/
def transition (source target : String) : Event :=
  { level := .info, message := "batch_transition",
    fields := [("from", .str source), ("to", .str target)] }

/-- A task admitted at a position of the batch. -/
def admitted (t : Task) (position : Nat) : Event :=
  { level := .debug, message := "document admitted",
    fields := [("task_id", .str (toString t.id)), ("position", .ofNat position)] }

/-- The batch closed for a reason, holding `size` documents. -/
def closed (size : Nat) (reason : CloseReason) : Event :=
  { level := .debug, message := "batch closed",
    fields := [("size", .ofNat size), ("reason", .str reason.name)] }

/-- An answer that did not reach its source. -/
def undelivered (f : ResponseFailure) : Event :=
  { level := .error, message := "could not deliver response",
    fields := [("task_id", .str (toString f.taskId)), ("error", .str f.error.message)] }

/-- The completion of a run, with its report's figures. -/
def completed (R : Report) : Event :=
  { level := .info, message := "batch completed",
    fields := [("size", .ofNat R.size), ("refused", .ofNat R.refused),
      ("outcome", .str R.outcome.name), ("close_reason", .str (Runner.closeLabel R.closeReason)),
      ("duration_ms", .ofNat R.durationMs), ("failed_responses", .ofNat R.failures.length)] }

@[simp] theorem transition_message (source target : String) :
    (transition source target).message = "batch_transition" := rfl

@[simp] theorem admitted_message (t : Task) (position : Nat) :
    (admitted t position).message = "document admitted" := rfl

@[simp] theorem closed_message (size : Nat) (reason : CloseReason) :
    (closed size reason).message = "batch closed" := rfl

@[simp] theorem undelivered_message (f : ResponseFailure) :
    (undelivered f).message = "could not deliver response" := rfl

@[simp] theorem completed_message (R : Report) : (completed R).message = "batch completed" := rfl

end BatchEvent

theorem withMessage_undelivered (m : String) (fs : List ResponseFailure) :
    withMessage m (fs.map BatchEvent.undelivered) =
      if "could not deliver response" = m then fs.map BatchEvent.undelivered else [] := by
  by_cases h : "could not deliver response" = m <;> simp [withMessage, h]

@[simp] theorem Assembler.refusedEvent_message (t : Task) (r : Refusal) :
    (Assembler.refusedEvent t r).message = "task refused" := rfl

/-- Closing logs the close, with the batch's size, exactly when the batch was open. -/
theorem Batch.close_snd (reason : CloseReason) (b : Batch) :
    (b.close reason).2 = if b.closed then none else some (BatchEvent.closed b.size reason) := by
  unfold Batch.close
  split <;> rfl

/-! ## The story agrees with the batch -/

/-- The events `M` told so far agree with the batch `b`: an admission per document, at its
position; a refusal per refused task, with the task's own refusal; a close exactly when the
batch has a reason, with the batch's size; and nothing else. -/
structure Told (codec : Codec) (b : Batch) (M : List Event) : Prop where
  /-- The batch is closed exactly when it has a reason. -/
  closed_iff : b.closed = true ↔ b.closeReason.isSome
  admitted : withMessage "document admitted" M =
    (b.entries.map (·.task)).zipIdx.map fun x => BatchEvent.admitted x.1 x.2
  refused : ∃ rs : List (Task × Refusal), (∀ x ∈ rs, x.1.check codec = .error x.2) ∧
    rs.length = b.refused ∧
    withMessage "task refused" M = rs.map fun x => Assembler.refusedEvent x.1 x.2
  closed : withMessage "batch closed" M = b.closeReason.toList.map (BatchEvent.closed b.size)
  only : ∀ e ∈ M,
    e.message = "document admitted" ∨ e.message = "task refused" ∨ e.message = "batch closed"

namespace Told

variable {codec : Codec} {b : Batch} {M : List Event}

theorem empty : Told codec {} [] where
  closed_iff := by simp
  admitted := rfl
  refused := ⟨[], by simp, rfl, rfl⟩
  closed := rfl
  only := by simp

/-- Telling one more event of the three kinds keeps the story to them. -/
theorem only_append (hT : Told codec b M) {e : Event}
    (he : e.message = "document admitted" ∨ e.message = "task refused" ∨
      e.message = "batch closed") :
    ∀ e' ∈ M ++ [e], e'.message = "document admitted" ∨ e'.message = "task refused" ∨
      e'.message = "batch closed" := by
  intro e' h
  rcases List.mem_append.1 h with h | h
  · exact hT.only e' h
  · rw [List.mem_singleton.1 h]
    exact he

/-- An open batch has told no close. -/
theorem closed_nil (hT : Told codec b M) (hopen : b.closed = false) :
    withMessage "batch closed" M = [] := by
  have hnone : b.closeReason = none := by
    simpa [hopen] using hT.closed_iff
  simp [hT.closed, hnone]

/-- Admitting into an open batch tells the admission at the batch's size. -/
theorem accept (hT : Told codec b M) (hopen : b.closed = false) (now : Nat) (limits : Limits)
    (t : Task) (d : Document) :
    Told codec (b.accept now limits t d) (M ++ [BatchEvent.admitted t b.size]) where
  closed_iff := by simpa [Batch.accept] using hT.closed_iff
  admitted := by
    simp [Batch.accept, Batch.size, List.zipIdx_append, hT.admitted]
  refused := by
    obtain ⟨rs, hrs, hlen, hM⟩ := hT.refused
    exact ⟨rs, hrs, hlen, by simp [hM]⟩
  closed := by
    have hnone : b.closeReason = none := by
      simpa [hopen] using hT.closed_iff
    simp [Batch.accept, hT.closed_nil hopen, hnone]
  only := hT.only_append (by simp)

/-- Refusing a task tells the refusal and counts it. -/
theorem refuse (hT : Told codec b M) {t : Task} {r : Refusal} (hc : t.check codec = .error r) :
    Told codec { b with refused := b.refused + 1 } (M ++ [Assembler.refusedEvent t r]) where
  closed_iff := hT.closed_iff
  admitted := by simp [hT.admitted]
  refused := by
    obtain ⟨rs, hrs, hlen, hM⟩ := hT.refused
    refine ⟨rs ++ [(t, r)], ?_, by simp [hlen], by simp [hM]⟩
    intro x hx
    rcases List.mem_append.1 hx with hx | hx
    · exact hrs x hx
    · simp only [List.mem_singleton] at hx
      subst hx
      exact hc
  closed := by simp [hT.closed, Batch.size]
  only := hT.only_append (by simp)

/-- Closing tells the close, with the batch's size, when the batch was open. -/
theorem close (hT : Told codec b M) (reason : CloseReason) :
    Told codec (b.close reason).1 (M ++ (b.close reason).2.toList) := by
  cases hb : b.closed
  · obtain ⟨rs, hrs, hlen, hM⟩ := hT.refused
    rw [Batch.close_snd, Batch.close_fst]
    simp only [hb, Bool.false_eq_true, if_false, Option.toList_some]
    exact {
      closed_iff := by simp
      admitted := by simp [hT.admitted]
      refused := ⟨rs, hrs, hlen, by simp [hM]⟩
      closed := by simp [hT.closed_nil hb, Batch.size]
      only := hT.only_append (by simp) }
  · rw [Batch.close_snd, Batch.close_fst]
    simpa [hb] using hT

/-- Editing a document tells nothing and changes nothing told. -/
theorem setDocument (hT : Told codec b M) (i : Nat) (d : Document) :
    Told codec (b.setDocument i d) M where
  closed_iff := hT.closed_iff
  admitted := by rw [Batch.tasks_setDocument]; exact hT.admitted
  refused := hT.refused
  closed := by simpa [Batch.setDocument, Batch.size] using hT.closed
  only := hT.only

end Told

/-! ## Who else may log -/

section
variable {σ ω : Type}

/-- The story told in the log of a state. -/
def storyOf (s : Shared (Env σ ω)) : List Event := story s.rest.fx.events.toList

/-- While the engine waits, nobody else tells a batch's story. -/
def KeepsStory (rt : Runtime (Shared (Env σ ω))) : Prop :=
  ∀ w s r s', rt w s r s' → storyOf s' = storyOf s

/-- A source is quiet to a runtime when its pulls, raced against the shutdown signal as the
assembler races them, and its answers tell nothing of a batch's story. -/
structure Source.Quiet (rt : Runtime (Shared (Env σ ω))) (src : Source σ ω) : Prop where
  next : ∀ {m s s' r tr}, Exec rt (unlessShutdown (src.next m)) s s' r tr → storyOf s' = storyOf s
  respond : ∀ {t resp s s' r tr}, Exec rt (src.respond t resp) s s' r tr → storyOf s' = storyOf s

/-- A worker is quiet when processing a document tells nothing of a batch's story. -/
def Worker.Quiet (w : Worker σ ω) : Prop :=
  ∀ d fx, story ((w.process d).run fx).2.events.toList = story fx.events.toList

variable {rt : Runtime (Shared (Env σ ω))} {s s' : Shared (Env σ ω)}
  {tr : List (Wake (Shared (Env σ ω)))}

theorem Eng.storyOf_emit {e : Event} {u : Unit} (h : Exec rt (Eng.emit e) s s' u tr) :
    storyOf s' = storyOf s ++ story [e] := by
  obtain ⟨rfl, -⟩ := (Eng.exec_emit e).1 h
  show story (s.rest.fx.events.push e).toList = _
  simp [storyOf]

/-- The channel source logs nothing: it is quiet wherever nobody else tells a story while it
waits. -/
theorem Source.channel_quiet (hrt : KeepsStory rt) : (Source.channel : Source σ ω).Quiet rt where
  next := by
    intro m s s' r tr h
    rw [unlessShutdown_channel_next] at h
    simp only [exec_step, exec_wait] at h
    obtain ⟨r₀, s₁, tr', hw, hk, rfl⟩ := h
    have hs' : s' = s₁ := by
      cases r₀ <;> exact ((exec_done _).1 hk).1
    rw [hs']
    exact hrt _ _ _ _ hw
  respond := by
    intro t resp s s' r tr h
    rcases (channel_respond_exec h).2 with ⟨-, -, rfl⟩ | ⟨-, -, rfl⟩ <;> rfl

end

/-! ## What the assembler tells -/

namespace Assembler

variable {σ ω : Type} {rt : Runtime (Shared (Env σ ω))} {ctx : Context} {src : Source σ ω}
  {s s' : Shared (Env σ ω)} {tr : List (Wake (Shared (Env σ ω)))} {a a' : Assembler}

/-- A close tells the close, when the batch was open. -/
theorem closeFor_story {reason : CloseReason} (h : Exec rt (a.closeFor reason) s s' a' tr) :
    storyOf s' = storyOf s ++ (a.batch.close reason).2.toList := by
  have hclose := Batch.close_snd reason a.batch
  unfold closeFor at h
  rcases hc : a.batch.close reason with ⟨b, e⟩
  rw [hc] at h hclose
  cases e with
  | none =>
      obtain ⟨rfl, -, -⟩ := (exec_done _).1 h
      simp
  | some e =>
      simp only [bind_eq, pure_eq, exec_bind, exec_done] at h
      obtain ⟨s₁, u, tr₁, tr₂, he, ⟨rfl, rfl, rfl⟩, rfl⟩ := h
      have hmsg : e.message = "batch closed" := by
        split at hclose <;> simp_all
      simp [Eng.storyOf_emit he, story_singleton, hmsg, storyMessages]

theorem accept_story {t : Task} {p : Payload} (h : Exec rt (a.accept t p) s s' a' tr) :
    storyOf s' = storyOf s ++ [BatchEvent.admitted t a.batch.size] := by
  simp only [accept, bind_eq, pure_eq, exec_bind, Act.exec_now, exec_done] at h
  obtain ⟨s₁, n, tr₁, tr₂, ⟨rfl, rfl, rfl⟩, ⟨s₂, u, tr₃, tr₄, he, ⟨rfl, rfl, rfl⟩, rfl⟩, rfl⟩ := h
  rw [Eng.storyOf_emit he]
  simp [story_singleton, storyMessages, BatchEvent.admitted]

/-- A refusal tells the refusal; a failure to answer it is logged outside the story. -/
theorem refuse_story (hq : src.Quiet rt) {t : Task} {r : Refusal}
    (h : Exec rt (a.refuse src t r) s s' a' tr) :
    storyOf s' = storyOf s ++ [refusedEvent t r] := by
  simp only [refuse, bind_eq, pure_eq, exec_bind] at h
  obtain ⟨s₁, u, tr₁, tr₂, he, ⟨s₂, res, tr₃, tr₄, hres, h, rfl⟩, rfl⟩ := h
  have hs₁ : storyOf s₁ = storyOf s ++ [refusedEvent t r] := by
    simp [Eng.storyOf_emit he, story_singleton, storyMessages, refusedEvent]
  rcases res with e | ⟨⟩
  · simp only [exec_bind, exec_done] at h
    obtain ⟨s₃, u, tr₅, tr₆, he', ⟨rfl, rfl, rfl⟩, rfl⟩ := h
    simp [Eng.storyOf_emit he', hq.respond hres, hs₁, story_singleton, storyMessages]
  · obtain ⟨rfl, rfl, rfl⟩ := (exec_done _).1 h
    rw [hq.respond hres, hs₁]

theorem pullOrShutdown_story (hq : src.Quiet rt) {m : Nat}
    {r : Option (Except Error (Option Task))} (h : Exec rt (pullOrShutdown src m) s s' r tr) :
    storyOf s' = storyOf s := by
  rcases pullOrShutdown_exec h with ⟨-, -, rfl, -⟩ | ⟨-, h⟩
  · rfl
  · exact hq.next h

end Assembler

/-! ## Attempts to admit keep the story told -/

section
variable {σ ω : Type}

/-- The story told in the state `s` since `base` agrees with the batch `b`. -/
def TellsSince (codec : Codec) (base : List Event) (s : Shared (Env σ ω)) (b : Batch) : Prop :=
  ∃ M, storyOf s = base ++ M ∧ Told codec b M

variable {codec : Codec} {base : List Event} {s s' : Shared (Env σ ω)} {b : Batch}

theorem TellsSince.keep (h : TellsSince codec base s b) (hs : storyOf s' = storyOf s) :
    TellsSince codec base s' b := by
  obtain ⟨M, hM, hT⟩ := h
  exact ⟨M, hs.trans hM, hT⟩

/-- A step that tells `L` of the batch it leaves keeps the story told, when telling `L` keeps
the invariant. -/
theorem TellsSince.tell {b' : Batch} {L : List Event} (h : TellsSince codec base s b)
    (hs : storyOf s' = storyOf s ++ L) (ht : ∀ M, Told codec b M → Told codec b' (M ++ L)) :
    TellsSince codec base s' b' := by
  obtain ⟨M, hM, hT⟩ := h
  exact ⟨M ++ L, by rw [hs, hM, List.append_assoc], ht M hT⟩

end

namespace Assembler

variable {σ ω : Type} {rt : Runtime (Shared (Env σ ω))} {ctx : Context} {src : Source σ ω}
  {s s' : Shared (Env σ ω)} {tr : List (Wake (Shared (Env σ ω)))} {a : Assembler}
  {base : List Event}

theorem closeFor_tells {reason : CloseReason} {a' : Assembler}
    (h : Exec rt (a.closeFor reason) s s' a' tr) (hT : TellsSince ctx.codec base s a.batch) :
    TellsSince ctx.codec base s' a'.batch := by
  obtain ⟨rfl, -, -⟩ := closeFor_exec h
  exact hT.tell (closeFor_story h) fun M hM => hM.close reason

/-- A pass of the pull loop over an open batch keeps the story told: a refusal leaves the batch
open for the next pass. -/
theorem pullOnce_tells (hq : src.Quiet rt) {deadline : Nat}
    {res : Assembler ⊕ (Admission × Assembler)} (h : Exec rt (pullOnce ctx src deadline a) s s' res tr)
    (hopen : a.batch.closed = false) (hT : TellsSince ctx.codec base s a.batch) :
    Sum.elim (fun a₁ => a₁.batch.closed = false ∧ TellsSince ctx.codec base s' a₁.batch)
      (fun r => TellsSince ctx.codec base s' r.2.batch) res := by
  simp only [pullOnce, bind_eq, exec_bind, Act.exec_now] at h
  obtain ⟨s₁, n, tr₁, tr₂, ⟨rfl, rfl, rfl⟩, ⟨s₂, r, tr₃, tr₄, hpull, h, rfl⟩, rfl⟩ := h
  have hT₂ := hT.keep (pullOrShutdown_story hq hpull)
  rcases r with _ | (e | _ | t)
  · simp only [pure_eq, exec_bind, exec_done] at h
    obtain ⟨s₃, u, tr₅, tr₆, he, ⟨s₄, a₁, tr₇, tr₈, hc, ⟨rfl, rfl, rfl⟩, rfl⟩, rfl⟩ := h
    have hs₃ : storyOf s₃ = storyOf s₂ := by
      simp [Eng.storyOf_emit he, story_singleton, storyMessages]
    exact closeFor_tells hc (hT₂.keep hs₃)
  · simp only [pure_eq, exec_bind, exec_done] at h
    obtain ⟨s₃, u, tr₅, tr₆, he, ⟨s₄, a₁, tr₇, tr₈, hc, ⟨rfl, rfl, rfl⟩, rfl⟩, rfl⟩ := h
    have hs₃ : storyOf s₃ = storyOf s₂ := by
      simp [Eng.storyOf_emit he, story_singleton, storyMessages]
    exact closeFor_tells hc (hT₂.keep hs₃)
  · simp only [pure_eq, exec_bind, exec_done] at h
    obtain ⟨s₄, a₁, tr₇, tr₈, hc, ⟨rfl, rfl, rfl⟩, rfl⟩ := h
    exact closeFor_tells hc hT₂
  · cases hc : t.check ctx.codec with
    | ok p =>
        simp only [hc, pure_eq, exec_bind, exec_done] at h
        obtain ⟨s₄, a₁, tr₇, tr₈, ha, ⟨rfl, rfl, rfl⟩, rfl⟩ := h
        obtain ⟨rfl, -, -⟩ := accept_exec ha
        exact hT₂.tell (accept_story ha) fun M hM => hM.accept hopen _ _ t _
    | error rf =>
        simp only [hc, pure_eq, exec_bind, Act.exec_now] at h
        obtain ⟨s₃, a₁, tr₅, tr₆, hr, ⟨s₄, n, tr₇, tr₈, ⟨rfl, rfl, rfl⟩, h, rfl⟩, rfl⟩ := h
        obtain ⟨rfl, -⟩ := refuse_exec hr
        have hT₃ := hT₂.tell (refuse_story hq hr) fun M hM => hM.refuse hc
        split at h
        · simp only [exec_bind, exec_done] at h
          obtain ⟨s₅, a₂, tr₉, tr₁₀, hc', ⟨rfl, rfl, rfl⟩, rfl⟩ := h
          exact closeFor_tells hc' hT₃
        · obtain ⟨rfl, rfl, rfl⟩ := (exec_done _).1 h
          exact ⟨hopen, hT₃⟩

/-- Every attempt to admit keeps the story told, whatever the runtime does while it waits. -/
theorem tryAdmit_tells (hq : src.Quiet rt) {r : Admission × Assembler}
    (h : Exec rt (a.tryAdmit ctx src) s s' r tr) (hT : TellsSince ctx.codec base s a.batch) :
    TellsSince ctx.codec base s' r.2.batch := by
  unfold tryAdmit at h
  split at h
  · simp only [bind_eq, pure_eq, exec_bind, exec_done] at h
    obtain ⟨s₁, a₁, tr₁, tr₂, hc, ⟨rfl, rfl, rfl⟩, rfl⟩ := h
    exact closeFor_tells hc hT
  split at h
  · obtain ⟨rfl, rfl, rfl⟩ := (exec_done _).1 h
    exact hT
  have hopen : a.batch.closed = false := by simpa using ‹¬a.batch.closed = true›
  simp only [bind_eq, exec_bind, Act.exec_isShutdown] at h
  obtain ⟨s₁, sd, tr₁, tr₂, ⟨rfl, rfl, rfl⟩, h, rfl⟩ := h
  split at h
  · simp only [pure_eq, exec_bind, exec_done] at h
    obtain ⟨s₂, a₁, tr₃, tr₄, hc, ⟨rfl, rfl, rfl⟩, rfl⟩ := h
    exact closeFor_tells hc hT
  simp only [exec_bind, Act.exec_now] at h
  obtain ⟨s₂, n, tr₃, tr₄, ⟨rfl, rfl, rfl⟩, h, rfl⟩ := h
  have hloop := Exec.loop_invariant
    (I := fun b s₁ _ => b.batch.closed = false ∧ TellsSince ctx.codec base s₁ b.batch)
    (J := fun r s₁ _ => TellsSince ctx.codec base s₁ r.2.batch) ?_ [] ⟨hopen, hT⟩ h
  · obtain ⟨r₁, s₃, tr₅, tr₆, hJ, hdone, rfl⟩ := hloop
    obtain ⟨rfl, rfl, rfl⟩ := (exec_done _).1 hdone
    exact hJ
  intro b s₁ s₂ res tr pre hI hpass
  exact pullOnce_tells hq hpass hI.1 hI.2

end Assembler

/-! ## Quiet processing code -/

section
variable {σ ω : Type}

/-- The runs of processing code on a cursor, from `c` in the state `s`, that tell nothing of
the batch's story themselves: the cursor moves only by its own operations, and in between the
code's own work logs none of the story's messages. -/
inductive QuietRun (ctx : Context) (src : Source σ ω) (rt : Runtime (Shared (Env σ ω)))
    (c : Cursor) (s : Shared (Env σ ω)) : Cursor → Shared (Env σ ω) → Prop
  | nil : QuietRun ctx src rt c s c s
  /-- The code asks for the next document. -/
  | next {c₁ c₂ : Cursor} {s₁ s₂ : Shared (Env σ ω)} {tr : List (Wake (Shared (Env σ ω)))}
      {i : Option Nat} :
      QuietRun ctx src rt c s c₁ s₁ → Exec rt (c₁.next ctx src) s₁ s₂ (i, c₂) tr →
        QuietRun ctx src rt c s c₂ s₂
  /-- The code closes the batch. -/
  | close {c₁ c₂ : Cursor} {s₁ s₂ : Shared (Env σ ω)} {tr : List (Wake (Shared (Env σ ω)))} :
      QuietRun ctx src rt c s c₁ s₁ → Exec rt c₁.close s₁ s₂ c₂ tr → QuietRun ctx src rt c s c₂ s₂
  /-- The code puts a new document in place of an admitted one. -/
  | edit {c₁ : Cursor} {s₁ : Shared (Env σ ω)} (i : Nat) (d : Document) :
      QuietRun ctx src rt c s c₁ s₁ →
        QuietRun ctx src rt c s
          { c₁ with assembler := { c₁.assembler with batch := c₁.batch.setDocument i d } } s₁
  /-- The code works on its own, telling nothing of the story. -/
  | work {c₁ : Cursor} {s₁ s₂ : Shared (Env σ ω)} :
      QuietRun ctx src rt c s c₁ s₁ → storyOf s₂ = storyOf s₁ → QuietRun ctx src rt c s c₁ s₂

/-- A processor is quiet when every run of its processing is a quiet run of the cursor. -/
def Processor.Quiet (rt : Runtime (Shared (Env σ ω))) (ctx : Context) (src : Source σ ω)
    (p : Processor σ ω) : Prop :=
  ∀ c s s' r c' tr, Exec rt (Runner.processWith ctx src c p) s s' (r, c') tr →
    QuietRun ctx src rt c s c' s'

variable {rt : Runtime (Shared (Env σ ω))} {ctx : Context} {src : Source σ ω}
  {c c' c₁ c₂ : Cursor} {s s' s₁ s₂ : Shared (Env σ ω)} {tr : List (Wake (Shared (Env σ ω)))}
  {base : List Event}

/-- A quiet worker's processing of a document tells nothing. -/
theorem Cursor.process_story {w : Worker σ ω} (hw : w.Quiet) {i : Nat}
    {r : Except TransientError Bool} (h : Exec rt (c.process w i) s s' (r, c') tr) :
    storyOf s' = storyOf s := by
  unfold Cursor.process at h
  split at h
  · obtain ⟨rfl, -, -⟩ := (exec_done _).1 h
    rfl
  · simp only [bind_eq, exec_bind] at h
    obtain ⟨s₁, res, tr₁, tr₂, hwork, h, rfl⟩ := h
    obtain ⟨hs₁, -, -⟩ := (Eng.exec_work _).1 hwork
    obtain ⟨rfl, -, -⟩ := (exec_done _).1 h
    rw [hs₁]
    exact hw _ _

/-- Processing one document with a quiet worker is a quiet step of the cursor. -/
theorem QuietRun.process {w : Worker σ ω} (hw : w.Quiet) {i : Nat} {r : Except TransientError Bool}
    (h : QuietRun ctx src rt c s c₁ s₁) (hp : Exec rt (c₁.process w i) s₁ s₂ (r, c₂) tr) :
    QuietRun ctx src rt c s c₂ s₂ := by
  have hs := Cursor.process_story hw hp
  obtain ⟨-, -, rfl | ⟨d, rfl⟩⟩ := Cursor.process_exec hp
  · exact h.work hs
  · exact (h.work hs).edit i d

theorem Processor.single_quiet (rt : Runtime (Shared (Env σ ω))) (ctx : Context) (src : Source σ ω)
    {w : Worker σ ω} (hw : w.Quiet) : (Processor.single w).Quiet rt ctx src := by
  intro c s s' r c' tr h
  simp only [Runner.processWith, bind_eq, exec_bind] at h
  obtain ⟨s₁, ⟨i, c₁⟩, tr₁, tr₂, hn, h, rfl⟩ := h
  have h₁ : QuietRun ctx src rt c s c₁ s₁ := QuietRun.nil.next hn
  rcases i with _ | i
  · obtain ⟨rfl, hres, rfl⟩ := (exec_done _).1 h
    cases hres
    exact h₁
  · simp only [exec_bind] at h
    obtain ⟨s₂, ⟨r₂, c₂⟩, tr₃, tr₄, hp, h, rfl⟩ := h
    obtain ⟨rfl, hres, rfl⟩ := (exec_done _).1 h
    cases hres
    exact h₁.process hw hp

theorem Processor.bulkEach_quiet (rt : Runtime (Shared (Env σ ω))) (ctx : Context)
    (src : Source σ ω) {w : Worker σ ω} (hw : w.Quiet) : (Processor.bulkEach w).Quiet rt ctx src := by
  intro c s s' r c' tr h
  simp only [Runner.processWith, Processor.bulkEach, Processor.eachDocument, bind_eq, exec_bind] at h
  obtain ⟨s₁, ⟨n, c₁⟩, tr₁, tr₂, hd, h, rfl⟩ := h
  obtain ⟨rfl, hres, rfl⟩ := (exec_done _).1 h
  cases hres
  simp only [Cursor.drain, Proc.iterate] at hd
  have hloop := Exec.loop_invariant
    (I := fun b s₂ _ => QuietRun ctx src rt c s b.2 s₂)
    (J := fun b s₂ _ => QuietRun ctx src rt c s b.2 s₂) ?_ [] .nil hd
  · obtain ⟨⟨n', c₂⟩, s₃, tr₃, tr₄, hJ, hdone, rfl⟩ := hloop
    obtain ⟨rfl, hres, rfl⟩ := (exec_done _).1 hdone
    cases hres
    exact hJ
  rintro ⟨k, c₂⟩ s₂ s₃ res tr₅ pre hI hpass
  simp only [bind_eq, exec_bind] at hpass
  obtain ⟨s₄, ⟨i, c₃⟩, tr₆, tr₇, hn, hpass, rfl⟩ := hpass
  have h₃ := hI.next hn
  rcases i with _ | i
  · obtain ⟨rfl, rfl, rfl⟩ := (exec_done _).1 hpass
    exact h₃
  · simp only [exec_bind] at hpass
    obtain ⟨s₅, ⟨r₅, c₅⟩, tr₈, tr₉, hp, hpass, rfl⟩ := hpass
    have h₅ := h₃.process hw hp
    rcases r₅ with e | _ <;>
    · obtain ⟨rfl, rfl, rfl⟩ := (exec_done _).1 hpass
      exact h₅

/-- Quiet processing code keeps the story told: what it tells comes from the cursor's own
operations, each of which keeps the invariant. -/
theorem QuietRun.tells (hq : src.Quiet rt) (h : QuietRun ctx src rt c s c' s')
    (hT : TellsSince ctx.codec base s c.batch) : TellsSince ctx.codec base s' c'.batch := by
  induction h with
  | nil => exact hT
  | next _ hn ih =>
      rcases Cursor.next_exec hn with ⟨rfl, -, hc⟩ | ⟨adm, ha⟩
      · simpa [Cursor.batch, hc] using ih
      · exact Assembler.tryAdmit_tells hq ha ih
  | close _ hc ih =>
      obtain ⟨a, hca, hc'⟩ := Cursor.close_exec hc
      simpa [Cursor.batch, hc'] using Assembler.closeFor_tells hca ih
  | edit i d _ ih =>
      obtain ⟨M, hM, hT'⟩ := ih
      exact ⟨M, hM, hT'.setDocument i d⟩
  | work _ hs ih => exact ih.keep hs

end

/-! ## The answers after processing -/

namespace Runner

variable {σ ω : Type} {rt : Runtime (Shared (Env σ ω))} {ctx : Context} {src : Source σ ω}

theorem failed_story {t : Task} {e : Error} {s s' : Shared (Env σ ω)} {f : ResponseFailure}
    {tr : List (Wake (Shared (Env σ ω)))} (h : Exec rt (failed t e) s s' f tr) :
    storyOf s' = storyOf s ++ [BatchEvent.undelivered f] ∧ f = ⟨t.id, e⟩ := by
  simp only [failed, bind_eq, pure_eq, exec_bind, exec_done] at h
  obtain ⟨s₁, u, tr₁, tr₂, he, ⟨rfl, rfl, rfl⟩, rfl⟩ := h
  refine ⟨?_, rfl⟩
  simp [Eng.storyOf_emit he, story_singleton, storyMessages, BatchEvent.undelivered]

/-- Answering with successes tells one undelivered answer per response failure, in order. -/
theorem respondSuccess_story (hq : src.Quiet rt) :
    ∀ {es : List Entry} {s s' : Shared (Env σ ω)} {fs : List ResponseFailure}
      {tr : List (Wake (Shared (Env σ ω)))},
      Exec rt (respondSuccess ctx src es) s s' fs tr →
        storyOf s' = storyOf s ++ fs.map BatchEvent.undelivered
  | [], s, s', fs, tr, h => by
      obtain ⟨rfl, rfl, rfl⟩ := (exec_done _).1 h
      simp
  | e :: es, s, s', fs, tr, h => by
      simp only [respondSuccess, bind_eq, pure_eq] at h
      split at h
      · obtain ⟨s₁, r, tr₁, tr₂, hr, h, rfl⟩ := (exec_bind _ _).1 h
        have hs₁ := hq.respond hr
        rcases r with err | ⟨⟩
        · simp only [Proc.bind, exec_bind, exec_done] at h
          obtain ⟨s₂, f, tr₃, tr₄, hf, ⟨s₃, rest, tr₅, tr₆, hrest, ⟨rfl, rfl, rfl⟩, rfl⟩, rfl⟩ := h
          obtain ⟨hs₂, -⟩ := failed_story hf
          simp [respondSuccess_story hq hrest, hs₂, hs₁]
        · simp only [Proc.bind, exec_bind, exec_done] at h
          obtain ⟨s₃, rest, tr₅, tr₆, hrest, ⟨rfl, rfl, rfl⟩, rfl⟩ := h
          simp [respondSuccess_story hq hrest, hs₁]
      · simp only [Proc.bind, exec_bind, exec_done] at h
        obtain ⟨s₂, f, tr₃, tr₄, hf, ⟨s₃, rest, tr₅, tr₆, hrest, ⟨rfl, rfl, rfl⟩, rfl⟩, rfl⟩ := h
        obtain ⟨hs₂, -⟩ := failed_story hf
        simp [respondSuccess_story hq hrest, hs₂]

/-- Answering with rejections tells one undelivered answer per response failure, in order. -/
theorem respondRejected_story (hq : src.Quiet rt) {reason : String} :
    ∀ {es : List Entry} {s s' : Shared (Env σ ω)} {fs : List ResponseFailure}
      {tr : List (Wake (Shared (Env σ ω)))},
      Exec rt (respondRejected src reason es) s s' fs tr →
        storyOf s' = storyOf s ++ fs.map BatchEvent.undelivered
  | [], s, s', fs, tr, h => by
      obtain ⟨rfl, rfl, rfl⟩ := (exec_done _).1 h
      simp
  | e :: es, s, s', fs, tr, h => by
      simp only [respondRejected, bind_eq, pure_eq, exec_bind] at h
      obtain ⟨s₁, r, tr₁, tr₂, hr, h, rfl⟩ := h
      have hs₁ := hq.respond hr
      rcases r with err | ⟨⟩
      · simp only [Proc.bind, exec_bind, exec_done] at h
        obtain ⟨s₂, f, tr₃, tr₄, hf, ⟨s₃, rest, tr₅, tr₆, hrest, ⟨rfl, rfl, rfl⟩, rfl⟩, rfl⟩ := h
        obtain ⟨hs₂, -⟩ := failed_story hf
        simp [respondRejected_story hq hrest, hs₂, hs₁]
      · simp only [Proc.bind, exec_bind, exec_done] at h
        obtain ⟨s₃, rest, tr₅, tr₆, hrest, ⟨rfl, rfl, rfl⟩, rfl⟩ := h
        simp [respondRejected_story hq hrest, hs₁]

theorem transition_story {source target : String} {s s' : Shared (Env σ ω)} {u : Unit}
    {tr : List (Wake (Shared (Env σ ω)))} (h : Exec rt (transition source target) s s' u tr) :
    storyOf s' = storyOf s ++ [BatchEvent.transition source target] := by
  rw [Eng.storyOf_emit h]
  simp [story_singleton, storyMessages, BatchEvent.transition]

end Runner

/-! ## A batch run -/

section
variable {σ ω : Type} {rt : Runtime (Shared (Env σ ω))} {ctx : Context} {src : Source σ ω}
  {p : Processor σ ω} {s s' : Shared (Env σ ω)} {R : Report} {tr : List (Wake (Shared (Env σ ω)))}

/-- The end of a run: it reads the clock, logs if it has to, and returns what it computed
from the time. -/
theorem exec_now_logIf_story {α : Type} {c : Nat → Bool} {e : Nat → Event} {f : Nat → α} {a : α}
    (h : Exec rt (do
      let n ← Act.now
      if c n then Eng.emit (e n)
      pure (f n)) s s' a tr) :
    storyOf s' = storyOf s ++ story (if c s.now then [e s.now] else []) ∧ a = f s.now := by
  simp only [bind_eq, exec_bind, Act.exec_now] at h
  obtain ⟨_, _, _, tr₁, ⟨rfl, rfl, rfl⟩, h, rfl⟩ := h
  split at h
  · obtain ⟨s₁, u, tr₂, tr₃, he, hret, rfl⟩ := (exec_bind _ _).1 h
    obtain ⟨rfl, rfl, rfl⟩ := (exec_done _).1 hret
    simp [Eng.storyOf_emit he, *]
  · obtain ⟨rfl, rfl, rfl⟩ := (exec_done _).1 h
    simp [*]

/-- A batch run tells its first two transitions before processing; after it, the answers it
could not deliver, its last transition, and its completion when the batch admitted or refused
anything. -/
theorem runBatch_story (hq : src.Quiet rt) (h : Exec rt (runBatch ctx src p) s s' R tr) :
    ∃ s₀ s₁ res c tr₁, Exec rt (Runner.processWith ctx src
        { assembler := { limits := Runner.limits ctx.settings p } } p) s₀ s₁ (res, c) tr₁ ∧
      storyOf s₀ = storyOf s ++
        [BatchEvent.transition "new" "assembling", BatchEvent.transition "assembling" "running"] ∧
      storyOf s' = storyOf s₁ ++ R.failures.map BatchEvent.undelivered ++
        [BatchEvent.transition "running" R.outcome.name] ++
        (if 0 < R.size ∨ 0 < R.refused then [BatchEvent.completed R] else []) ∧
      R.size = c.batch.size ∧ R.refused = c.batch.refused ∧ R.closeReason = c.batch.closeReason := by
  obtain ⟨_, _, _, tr₁, hnow, h₁, rfl⟩ := (exec_bind _ _).1 h
  obtain ⟨rfl, rfl, rfl⟩ := Act.exec_now.1 hnow
  obtain ⟨s₁, u₁, tr₂, tr₃, ht₁, h₂, rfl⟩ := (exec_bind _ _).1 h₁
  obtain ⟨s₂, u₂, tr₄, tr₅, ht₂, h₃, rfl⟩ := (exec_bind _ _).1 h₂
  obtain ⟨s₃, ⟨res, c⟩, tr₆, tr₇, hp, h₄, rfl⟩ := (exec_bind _ _).1 h₃
  have hs₂ := Runner.transition_story ht₂
  rw [Runner.transition_story ht₁, List.append_assoc] at hs₂
  have hcount : (c.batch.size > 0 || c.batch.refused > 0) = true ↔
      0 < c.batch.size ∨ 0 < c.batch.refused := by simp
  cases res with
  | ok u =>
      obtain ⟨s₄, fs, tr₈, tr₉, hsucc, h₅, rfl⟩ := (exec_bind _ _).1 h₄
      obtain ⟨s₅, u₃, tr₁₀, tr₁₁, ht₃, h₆, rfl⟩ := (exec_bind _ _).1 h₅
      obtain ⟨_, _, _, tr₁₂, hpure, h₇, rfl⟩ := (exec_bind _ _).1 h₆
      obtain ⟨rfl, rfl, rfl⟩ := (exec_done _).1 hpure
      obtain ⟨hs₆, rfl⟩ := exec_now_logIf_story h₇
      refine ⟨_, _, _, _, _, hp, hs₂, ?_, rfl, rfl, rfl⟩
      rw [hs₆, Runner.transition_story ht₃, Runner.respondSuccess_story hq hsucc]
      by_cases hc : 0 < c.batch.size ∨ 0 < c.batch.refused
      · simp [hcount.2 hc, hc, story_singleton, storyMessages, BatchEvent.completed, Outcome.name]
      · simp [mt hcount.1 hc, hc, Outcome.name]
  | error err =>
      obtain ⟨s₄, u₃, tr₈, tr₉, he, h₅, rfl⟩ := (exec_bind _ _).1 h₄
      obtain ⟨s₅, fs, tr₁₀, tr₁₁, hrej, h₆, rfl⟩ := (exec_bind _ _).1 h₅
      obtain ⟨s₆, u₄, tr₁₂, tr₁₃, ht₃, h₇, rfl⟩ := (exec_bind _ _).1 h₆
      obtain ⟨_, _, _, tr₁₄, hpure, h₈, rfl⟩ := (exec_bind _ _).1 h₇
      obtain ⟨rfl, rfl, rfl⟩ := (exec_done _).1 hpure
      obtain ⟨hs₈, rfl⟩ := exec_now_logIf_story h₈
      have hs₄ : storyOf s₄ = storyOf s₃ := by
        simp [Eng.storyOf_emit he, story_singleton, storyMessages]
      refine ⟨_, _, _, _, _, hp, hs₂, ?_, rfl, rfl, rfl⟩
      rw [hs₈, Runner.transition_story ht₃, Runner.respondRejected_story hq hrej, hs₄]
      by_cases hc : 0 < c.batch.size ∨ 0 < c.batch.refused
      · simp [hcount.2 hc, hc, story_singleton, storyMessages, BatchEvent.completed, Outcome.name]
      · simp [mt hcount.1 hc, hc, Outcome.name]

end

/-! ## The story agrees with the report -/

/-- The story `L` that a run told agrees with its report `R`, the batch having held
`entries`. -/
structure Reported (codec : Codec) (R : Report) (entries : List Entry) (L : List Event) : Prop where
  /-- The batch went from new to assembling to running, then to succeeded or rejected by the
  outcome. -/
  transitions : withMessage "batch_transition" L =
    [BatchEvent.transition "new" "assembling", BatchEvent.transition "assembling" "running",
      BatchEvent.transition "running" R.outcome.name]
  size : R.size = entries.length
  /-- One admission per document, at the positions `0 … size - 1` in order, each with its
  task. -/
  admitted : withMessage "document admitted" L =
    (entries.map (·.task)).zipIdx.map fun x => BatchEvent.admitted x.1 x.2
  /-- One refusal per refused task, as many as the report counts, each with the task's own
  refusal. -/
  refused : ∃ rs : List (Task × Refusal), (∀ x ∈ rs, x.1.check codec = .error x.2) ∧
    rs.length = R.refused ∧
    withMessage "task refused" L = rs.map fun x => Assembler.refusedEvent x.1 x.2
  /-- A close exactly when the report gives a reason, with the reason and the batch's size. -/
  closed : withMessage "batch closed" L = R.closeReason.toList.map (BatchEvent.closed R.size)
  /-- One undelivered answer per response failure, in order. -/
  undelivered : withMessage "could not deliver response" L = R.failures.map BatchEvent.undelivered
  /-- The completion, with the report's figures, when the batch admitted or refused anything. -/
  completed : withMessage "batch completed" L =
    if 0 < R.size ∨ 0 < R.refused then [BatchEvent.completed R] else []
  /-- The host's statistics count exactly the runs that told their completion. -/
  counted : ∀ st : HostStats,
    (st.record R).batches = st.batches + (withMessage "batch completed" L).length

/-- The story told by processing holds no message but the three of the batch. -/
theorem Told.withMessage_other {codec : Codec} {b : Batch} {M : List Event} (hT : Told codec b M)
    {m : String} (h₁ : m ≠ "document admitted") (h₂ : m ≠ "task refused")
    (h₃ : m ≠ "batch closed") : withMessage m M = [] := by
  apply List.filter_eq_nil_iff.2
  intro e he
  rcases hT.only e he with h | h | h <;> simp [h, Ne.symm h₁, Ne.symm h₂, Ne.symm h₃]

/-- The host counts a run exactly when the batch admitted or refused anything. -/
theorem HostStats.record_batches (st : HostStats) (R : Report) :
    (st.record R).batches = st.batches + if 0 < R.size ∨ 0 < R.refused then 1 else 0 := by
  by_cases h : 0 < R.size ∨ 0 < R.refused
  · have hne : ¬(R.size = 0 ∧ R.refused = 0) := by omega
    simp [HostStats.record, hne, h]
  · have heq : R.size = 0 ∧ R.refused = 0 := by omega
    simp [HostStats.record, heq]

section
variable {σ ω : Type} {rt : Runtime (Shared (Env σ ω))} {ctx : Context} {src : Source σ ω}
  {p : Processor σ ω} {s s' : Shared (Env σ ω)} {R : Report} {tr : List (Wake (Shared (Env σ ω)))}

/-- A batch run, with a quiet source and quiet processing code and whatever the runtime
brings, tells in the log a story that agrees with the report it returns: its three
transitions by the outcome; an admission per document of the batch processing left, at its
position; a refusal per refused task, with the task's own refusal, as many as counted; a close
exactly when the report gives a reason, with the batch's size; an undelivered answer per
response failure; and its completion with the report's figures exactly when the host counts
the run. -/
theorem runBatch_tells_report (hq : src.Quiet rt) (hp : p.Quiet rt ctx src)
    (h : Exec rt (runBatch ctx src p) s s' R tr) :
    ∃ s₀ s₁ res c tr₁ L, Exec rt (Runner.processWith ctx src
        { assembler := { limits := Runner.limits ctx.settings p } } p) s₀ s₁ (res, c) tr₁ ∧
      storyOf s' = storyOf s ++ L ∧ Reported ctx.codec R c.batch.entries L := by
  obtain ⟨s₀, s₁, res, c, tr₁, hproc, hs₀, hs', hsize, hrefused, hreason⟩ := runBatch_story hq h
  have hT₀ : TellsSince ctx.codec (storyOf s ++
      [BatchEvent.transition "new" "assembling", BatchEvent.transition "assembling" "running"])
      s₀ ({ assembler := { limits := Runner.limits ctx.settings p } } : Cursor).batch :=
    ⟨[], by simp [hs₀], by simpa using Told.empty⟩
  obtain ⟨M, hM, hT⟩ := (hp _ _ _ _ _ _ hproc).tells hq hT₀
  refine ⟨s₀, s₁, res, c, tr₁, [BatchEvent.transition "new" "assembling",
    BatchEvent.transition "assembling" "running"] ++ M ++ R.failures.map BatchEvent.undelivered ++
    [BatchEvent.transition "running" R.outcome.name] ++
    (if 0 < R.size ∨ 0 < R.refused then [BatchEvent.completed R] else []), hproc, ?_, ?_⟩
  · rw [hs', hM]
    simp
  obtain ⟨rs, hrs, hlen, hrsM⟩ := hT.refused
  have hcompleted : withMessage "batch completed" ([BatchEvent.transition "new" "assembling",
      BatchEvent.transition "assembling" "running"] ++ M ++ R.failures.map BatchEvent.undelivered ++
      [BatchEvent.transition "running" R.outcome.name] ++
      (if 0 < R.size ∨ 0 < R.refused then [BatchEvent.completed R] else [])) =
      if 0 < R.size ∨ 0 < R.refused then [BatchEvent.completed R] else [] := by
    split <;> simp [withMessage_undelivered, hT.withMessage_other]
  exact {
    transitions := by
      split <;> simp [withMessage_undelivered, hT.withMessage_other]
    size := by rw [hsize, Batch.size]
    admitted := by
      split <;> simp [withMessage_undelivered, hT.admitted]
    refused := ⟨rs, hrs, hlen.trans hrefused.symm, by
      split <;> simp [withMessage_undelivered, hrsM]⟩
    closed := by
      split <;> simp [withMessage_undelivered, hT.closed, hreason, hsize]
    undelivered := by
      split <;> simp [withMessage_undelivered, hT.withMessage_other]
    completed := hcompleted
    counted := by
      intro st
      rw [hcompleted, HostStats.record_batches]
      split <;> simp }

end

theorem Outside.keepsStory (o : Outside) : KeepsStory (o.runtime : Runtime (Shared (Env σ ω))) := by
  intro w s r s' h
  have hs' : s' = (o.wake w s).2 := by rw [show o.wake w s = (r, s') from h]
  rcases o.wake_rest w s with hr | ⟨-, hr⟩ <;> simp only [storyOf, hs', hr]

theorem Worker.echo_quiet : (Worker.echo : Worker σ ω).Quiet := fun _ _ => rfl

/-- The bulk batch of a world that drops the receiver while the window runs, where a task is
refused and one admitted whose success goes undelivered: the story it tells agrees with its
report, which counts one admission, one refusal and one response failure. -/
theorem runBatch_tells_report_receiver_dropped :
    (Source.channel : Source Unit Unit).Quiet (Outside.runtime ⟨5000, some 1000⟩) ∧
      (Processor.bulkEach Worker.echo : Processor Unit Unit).Quiet (Outside.runtime ⟨5000, some 1000⟩)
        {} Source.channel ∧
      ∃ (s' : Shared (Env Unit Unit)) (R : Report) (tr : List (Wake (Shared (Env Unit Unit)))),
        Exec (Outside.runtime ⟨5000, some 1000⟩) (runBatch {} Source.channel (Processor.bulkEach Worker.echo))
          (Outside.start [{ id := 1 }, Task.blank 2]) s' R tr ∧
        (∃ (c : Cursor) (L : List Event),
          storyOf s' = storyOf (Outside.start [{ id := 1 }, Task.blank 2]) ++ L ∧
          Reported Codec.json R c.batch.entries L) ∧
        R.size = 1 ∧ R.refused = 1 ∧ R.failures.length = 1 := by
  have hq := Source.channel_quiet (Outside.keepsStory (σ := Unit) (ω := Unit) ⟨5000, some 1000⟩)
  have hp := Processor.bulkEach_quiet (Outside.runtime ⟨5000, some 1000⟩) {} Source.channel
    (Worker.echo_quiet (σ := Unit) (ω := Unit))
  obtain ⟨s', R, tr, h, hsize, hrefused, hfailures, -⟩ := runBatch_dropped_receiver_run
  obtain ⟨-, -, -, c, -, L, -, hstory, hrep⟩ := runBatch_tells_report hq hp h
  have hlen : R.failures.length = 1 := by simpa using congrArg List.length hfailures
  exact ⟨hq, hp, s', R, tr, h, ⟨c, L, hstory, hrep⟩, hsize, hrefused, hlen⟩

end DocBatch
