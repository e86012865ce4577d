import Mathlib.Data.List.Chain
import Mathlib.Algebra.GroupWithZero.Nat
import DocBatch.Proofs.Engine.Signal

/-!
# What a host does, batch by batch

A run of `runHost` on the channel is split into the batches it ran (`HostBatch`): where each
started and ended, its report, its waits and the waits of the backoff after it. `runHost_spec`
says, of every run, that

* the host returned only with the signal set, and started no batch with the signal set; an
  interrupted batch ends with the signal set, and every batch but the last ended with it clear;
* its counts are those of the reports of the batches that admitted or refused something
  (`HostStats.ofReports`);
* after a batch that did nothing or was rejected the next one started no sooner than the
  backoff later, and after any other the next one started at once;
* every task it took got exactly one answer, and the admitted ones got theirs in the order
  they were taken, across all batches (`AnswersFor`); the answers reached the response channel
  until its receiver was dropped, all of them if it never was (`Reaches`).

The runtime is only assumed to keep the signal set once set (`SignalRules`), to end a backoff
by the signal or once its time has come (`BackoffRule`), and to leave the answers to the
program (`KeepsAnswers`); the processor, to answer through its cursor and keep the signal.
The proof runs the host's loop with `Exec.loop_invariant`: between two cycles the host is in
a `HostSoFar`, and one cycle (`CycleRun`, one case per way a cycle ends) either keeps it there
with one batch more or ends it in a `HostSpec`.
-/

namespace DocBatch

open Proc

variable {σ ω : Type}

/-- Whether a batch admitted or refused anything: the batches a host counts. -/
def Report.counted (r : Report) : Bool := r.size != 0 || r.refused != 0

/-- The counts of a host that ran batches with the reports `rs`: over the counted ones, one batch
each, their documents and refusals, the rejected ones, and the answers that did not get through. -/
def HostStats.ofReports (rs : List Report) : HostStats :=
  let counted := rs.filter Report.counted
  { batches := counted.length
    documents := (counted.map (·.size)).sum
    refused := (counted.map (·.refused)).sum
    rejectedBatches := (counted.filter fun r => r.outcome == .rejected).length
    failedResponses := (counted.map (·.failures.length)).sum }

/-- Recording a report counts it as one more of the reports. -/
theorem HostStats.record_ofReports (rs : List Report) (r : Report) :
    (HostStats.ofReports rs).record r = HostStats.ofReports (rs ++ [r]) := by
  unfold HostStats.record HostStats.ofReports
  by_cases hr : r.size = 0 ∧ r.refused = 0
  · simp [hr, Report.counted]
  · have hc : r.counted = true := by
      simp only [Report.counted, bne_iff_ne, ne_eq, Bool.or_eq_true]
      omega
    rw [if_neg (by simpa using hr)]
    cases ho : r.outcome <;> simp [List.filter_append, hc, ho]

/-- A batch rejected without admitting or refusing anything is not counted. -/
example : (HostStats.ofReports [⟨0, 0, .rejected, none, false, [], 0⟩]).rejectedBatches = 0 := by decide

/-- The rule a runtime keeps for a host's backoff: a sleep raced against the shutdown signal ends
when the signal comes, or once its time has come. -/
def BackoffRule (rt : Runtime (Shared (Env σ ω))) : Prop :=
  ∀ {t s r s'}, rt (.orShutdown (.sleep t)) s r s' → r = .shutdown ∨ (r = .elapsed ∧ t ≤ s'.now)

theorem Outside.backoffRule (o : Outside) : BackoffRule (o.runtime : Runtime (Shared (Env σ ω))) :=
  fun h => o.wake_orShutdown_sleep h

/-- Whether a host backs off after a batch: when it admitted and refused nothing, or was
rejected. -/
def Report.backsOff (r : Report) : Bool :=
  r.size = 0 && r.refused = 0 || r.outcome = .rejected

/-- The answers `A` to the tasks `xs` taken: exactly one to each, and those to the admitted
tasks in the order the tasks were taken. -/
structure AnswersFor (codec : Codec) (xs : List (Task × Nat)) (A : List Delivery) : Prop where
  once : (A.map fun d => (d.taskId, d.correlationId)).Perm (xs.map fun x => (x.1.id, x.1.correlationId))
  ordered : ((Batch.admitted codec xs).map fun e => (e.task.id, e.task.correlationId)).Sublist
    (A.map fun d => (d.taskId, d.correlationId))

namespace AnswersFor

variable {codec : Codec} {xs ys : List (Task × Nat)} {A B : List Delivery}

theorem nil : AnswersFor codec [] [] := ⟨.nil, by simp⟩

theorem append (h₁ : AnswersFor codec xs A) (h₂ : AnswersFor codec ys B) :
    AnswersFor codec (xs ++ ys) (A ++ B) where
  once := by simpa using h₁.once.append h₂.once
  ordered := by simpa [Batch.admitted_append] using h₁.ordered.append h₂.ordered

end AnswersFor

/-- A batch run on the channel with the JSON codec, with a processor that respects its cursor,
answers the tasks it takes as `AnswersFor` says: the refused ones as they come, then the admitted
ones in order, as far as the receiver takes them. -/
theorem runBatch_answersFor {rt : Runtime (Shared (Env σ ω))} {ctx : Context} {p : Processor σ ω}
    {s s' : Shared (Env σ ω)} {R : Report} {tr : List (Wake (Shared (Env σ ω)))}
    (hrt : KeepsAnswers rt) (hjson : ctx.codec = Codec.json) (hp : p.Respects rt ctx Source.channel)
    (h : Exec rt (runBatch ctx Source.channel p) s s' R tr) :
    ∃ A, Reaches A s s' ∧ AnswersFor ctx.codec (taken tr) A := by
  obtain ⟨s₀, s₁, res, c, outcome, fs, tr₁, tr₂, hs₀, hproc, hfan, rfl, -⟩ := runBatch_exec h
  obtain ⟨-, rfl, -, hd₂, -⟩ := hfan.channel hjson
  obtain ⟨ht, -, hd₁⟩ := (hp _ _ _ _ _ _ hproc).answers hrt
  simp only [Cursor.batch_fresh, List.map_nil, List.nil_append] at ht
  have hkeys : (c.batch.entries.map (Entry.answer res)).map (fun d => (d.taskId, d.correlationId)) =
      (Batch.admitted ctx.codec (taken tr₁)).map fun e => (e.task.id, e.task.correlationId) := by
    have := congrArg (List.map fun t : Task => (t.id, t.correlationId)) ht
    simpa [Function.comp_def] using this
  refine ⟨refusalAnswers ctx.codec (taken tr₁) ++ c.batch.entries.map (Entry.answer res), ?_, ?_, ?_⟩
  · simpa using ((Reaches.of_effectsOnly hs₀).trans hd₁).trans hd₂
  · rw [List.append_nil, List.map_append, hkeys]
    exact refusalAnswers_admitted_perm _
  · rw [List.append_nil, List.map_append, hkeys]
    exact List.sublist_append_right _ _

section
variable {rt : Runtime (Shared (Env σ ω))} {s s' : Shared (Env σ ω)} {tr : List (Wake (Shared (Env σ ω)))}

/-- A warning logged or not changes nothing but the log. -/
theorem exec_ite_emit {α : Type} {c : Bool} {e : Event} {X : Eng σ ω α} {a : α}
    (h : Exec rt (if c = true then Proc.bind (Eng.emit e) (fun _ => X) else X) s s' a tr) :
    ∃ s₁, EffectsOnly s s₁ ∧ Exec rt X s₁ s' a tr := by
  split at h
  · obtain ⟨s₁, u, tr₁, tr₂, he, hX, rfl⟩ := (exec_bind _ _).1 h
    obtain ⟨hs, rfl⟩ := Eng.emit_effectsOnly he
    exact ⟨s₁, hs, hX⟩
  · exact ⟨s, .refl _, h⟩

/-- A backoff reads the clock and sleeps for `d` from then, unless the signal comes. -/
theorem exec_backoff {α : Type} {d : Nat} {k : Woken → Eng σ ω α} {a : α}
    (h : Exec rt (Proc.bind Act.now fun n => Proc.bind (Proc.await (.orShutdown (.sleep (n + d)))) k)
      s s' a tr) :
    ∃ r s₁ tr', rt (.orShutdown (.sleep (s.now + d))) s r s₁ ∧ Exec rt (k r) s₁ s' a tr' ∧
      tr = ⟨.orShutdown (.sleep (s.now + d)), r, s₁⟩ :: tr' := by
  obtain ⟨_, n, _, tr₁, hnow, h₁, rfl⟩ := (exec_bind _ _).1 h
  obtain ⟨rfl, rfl, rfl⟩ := Act.exec_now.1 hnow
  obtain ⟨s₁, r, tr₂, tr₃, haw, h₂, rfl⟩ := (exec_bind _ _).1 h₁
  obtain ⟨hw, rfl⟩ := (exec_await _).1 haw
  exact ⟨r, s₁, tr₃, hw, h₂, rfl⟩

end

/-- How a cycle of a host goes from `s` with the counts `stats`: the state it ends in, whether
the host goes on (`.inl`) or stops (`.inr`) with the new counts, and its waits. -/
inductive CycleRun (ctx : Context) (src : Source σ ω) (rt : Runtime (Shared (Env σ ω)))
    (p : Processor σ ω) (backoff : Nat) (stats : HostStats) (s : Shared (Env σ ω)) :
    Shared (Env σ ω) → HostStats ⊕ HostStats → List (Wake (Shared (Env σ ω))) → Prop
  /-- The signal is set at the head of the cycle: the host stops without a batch. -/
  | signalled : s.shutdown = true → CycleRun ctx src rt p backoff stats s s (.inr stats) []
  /-- The batch was interrupted: the host stops. -/
  | interrupted {s₁ : Shared (Env σ ω)} {R : Report} {tr : List (Wake (Shared (Env σ ω)))} :
      s.shutdown = false → Exec rt (runBatch ctx src p) s s₁ R tr → R.interrupted = true →
      CycleRun ctx src rt p backoff stats s s₁ (.inr (stats.record R)) tr
  /-- The batch did something and was not rejected: the next cycle comes at once. -/
  | busy {s₁ s₂ : Shared (Env σ ω)} {R : Report} {tr : List (Wake (Shared (Env σ ω)))} :
      s.shutdown = false → Exec rt (runBatch ctx src p) s s₁ R tr → R.interrupted = false →
      R.backsOff = false → EffectsOnly s₁ s₂ →
      CycleRun ctx src rt p backoff stats s s₂ (.inl (stats.record R)) tr
  /-- The batch did nothing or was rejected, and the backoff ran out: the next cycle comes. -/
  | rested {s₁ s₂ s₃ : Shared (Env σ ω)} {R : Report} {tr : List (Wake (Shared (Env σ ω)))}
      {r : Woken} :
      s.shutdown = false → Exec rt (runBatch ctx src p) s s₁ R tr → R.interrupted = false →
      R.backsOff = true → EffectsOnly s₁ s₂ → rt (.orShutdown (.sleep (s₂.now + backoff))) s₂ r s₃ →
      r ≠ .shutdown →
      CycleRun ctx src rt p backoff stats s s₃ (.inl (stats.record R))
        (tr ++ [⟨.orShutdown (.sleep (s₂.now + backoff)), r, s₃⟩])
  /-- The batch did nothing or was rejected, and the signal came during the backoff: the host
  stops. -/
  | woken {s₁ s₂ s₃ : Shared (Env σ ω)} {R : Report} {tr : List (Wake (Shared (Env σ ω)))} :
      s.shutdown = false → Exec rt (runBatch ctx src p) s s₁ R tr → R.interrupted = false →
      R.backsOff = true → EffectsOnly s₁ s₂ →
      rt (.orShutdown (.sleep (s₂.now + backoff))) s₂ .shutdown s₃ →
      CycleRun ctx src rt p backoff stats s s₃ (.inr (stats.record R))
        (tr ++ [⟨.orShutdown (.sleep (s₂.now + backoff)), .shutdown, s₃⟩])

/-- Every run of a cycle goes one of the ways `CycleRun` lists. -/
theorem Host.cycle_exec {rt : Runtime (Shared (Env σ ω))} {ctx : Context} {src : Source σ ω}
    {p : Processor σ ω} {backoff : Nat} {stats : HostStats} {s s' : Shared (Env σ ω)}
    {r : HostStats ⊕ HostStats} {tr : List (Wake (Shared (Env σ ω)))}
    (h : Exec rt (Host.cycle ctx src p backoff stats) s s' r tr) :
    CycleRun ctx src rt p backoff stats s s' r tr := by
  simp only [Host.cycle, bind_eq, exec_bind, Act.exec_isShutdown] at h
  obtain ⟨s₀, b, tr₀, tr₁, ⟨hs₀, hb₀, htr₀⟩, h₁, rfl⟩ := h
  subst s₀ b tr₀
  split at h₁
  · obtain ⟨rfl, rfl, rfl⟩ := (exec_done _).1 h₁
    exact .signalled ‹_›
  have hclear : s.shutdown = false := by simpa using ‹¬s.shutdown = true›
  obtain ⟨s₁, R, tr₂, tr₃, hb, h₂, rfl⟩ := (exec_bind _ _).1 h₁
  split at h₂
  · obtain ⟨rfl, rfl, rfl⟩ := (exec_done _).1 h₂
    simpa using CycleRun.interrupted hclear hb ‹_›
  have hgo : R.interrupted = false := by simpa using ‹¬R.interrupted = true›
  obtain ⟨s₂, hs₂, h₃⟩ := exec_ite_emit h₂
  split at h₃
  · rename_i hback
    obtain ⟨w, s₃, tr', hw, h₄, rfl⟩ := exec_backoff h₃
    rcases w with _ | _ | t | _ | _
    all_goals
      obtain ⟨rfl, rfl, rfl⟩ := (exec_done _).1 h₄
    · exact .rested hclear hb hgo hback hs₂ hw (by simp)
    · exact .woken hclear hb hgo hback hs₂ hw
    all_goals exact .rested hclear hb hgo hback hs₂ hw (by simp)
  · rename_i hback
    obtain ⟨rfl, rfl, rfl⟩ := (exec_done _).1 h₃
    simpa using CycleRun.busy hclear hb hgo (by simpa [Report.backsOff] using hback) hs₂

/-- A batch a host ran: the states it started and ended in, its report and its waits, and the
waits of the backoff after it. -/
structure HostBatch (σ ω : Type) where
  start : Shared (Env σ ω)
  stop : Shared (Env σ ω)
  report : Report
  trace : List (Wake (Shared (Env σ ω)))
  pause : List (Wake (Shared (Env σ ω)))

namespace HostBatch

/-- The cycle after `b` starts in `next` at once, with no wait in between; or, when the host
backs off after `b`, no sooner than the backoff after `b` ended. -/
def Waited (backoff : Nat) (b : HostBatch σ ω) (next : Shared (Env σ ω)) : Prop :=
  if b.report.backsOff then b.stop.now + backoff ≤ next.now else next.now = b.stop.now ∧ b.pause = []

/-- The batch `b'` follows `b`: `b` ended with the signal clear, and `b'` started as `Waited`
says. -/
def Follows (backoff : Nat) (b b' : HostBatch σ ω) : Prop :=
  b.stop.shutdown = false ∧ b.Waited backoff b'.start

end HostBatch

/-- What a host did from `s₀` through the batches `bs`, waiting as `tr` records, coming to the
state `s` with the counts `stats`. -/
structure HostBatches (ctx : Context) (rt : Runtime (Shared (Env σ ω))) (p : Processor σ ω)
    (backoff : Nat) (s₀ s : Shared (Env σ ω)) (stats : HostStats) (tr : List (Wake (Shared (Env σ ω))))
    (bs : List (HostBatch σ ω)) : Prop where
  /-- Each is a run of a batch. -/
  runs : ∀ b ∈ bs, Exec rt (runBatch ctx Source.channel p) b.start b.stop b.report b.trace
  /-- The host waited for its batches and their backoffs, in order, and for nothing else. -/
  trace : tr = (bs.map fun b => b.trace ++ b.pause).flatten
  /-- No batch starts with the signal set. -/
  clear : ∀ b ∈ bs, b.start.shutdown = false
  /-- An interrupted batch ends with the signal set. -/
  interrupted : ∀ b ∈ bs, b.report.interrupted = true → b.stop.shutdown = true
  /-- Each batch follows the one before. -/
  paced : bs.IsChain (HostBatch.Follows backoff)
  /-- The counts are those of the reports. -/
  stats : stats = HostStats.ofReports (bs.map (·.report))
  /-- Every task taken got exactly one answer, and the admitted ones got theirs in order; the
  answers reached the response channel until its receiver was dropped. -/
  answers : ∃ A, Reaches A s₀ s ∧ AnswersFor ctx.codec (taken tr) A

/-- A host between two cycles: what it did so far, with the last batch followed by the state
`s` the next cycle starts in as far as `Waited` goes, and with a signal it ended with still set. -/
structure HostSoFar (ctx : Context) (rt : Runtime (Shared (Env σ ω))) (p : Processor σ ω)
    (backoff : Nat) (s₀ s : Shared (Env σ ω)) (stats : HostStats) (tr : List (Wake (Shared (Env σ ω))))
    (bs : List (HostBatch σ ω)) : Prop extends HostBatches ctx rt p backoff s₀ s stats tr bs where
  last : ∀ b ∈ bs.getLast?, (b.stop.shutdown = true → s.shutdown = true) ∧ b.Waited backoff s

/-- What a whole host run did: its batches, and it stopped with the signal set. -/
structure HostSpec (ctx : Context) (rt : Runtime (Shared (Env σ ω))) (p : Processor σ ω)
    (backoff : Nat) (s₀ s : Shared (Env σ ω)) (stats : HostStats) (tr : List (Wake (Shared (Env σ ω))))
    (bs : List (HostBatch σ ω)) : Prop extends HostBatches ctx rt p backoff s₀ s stats tr bs where
  /-- The host returned only with the signal set. -/
  stopped : s.shutdown = true

section
variable {rt : Runtime (Shared (Env σ ω))} {ctx : Context} {p : Processor σ ω} {backoff : Nat}
  {s₀ s s' : Shared (Env σ ω)} {stats : HostStats} {tr : List (Wake (Shared (Env σ ω)))}
  {bs : List (HostBatch σ ω)}

/-- A batch that ended with the signal set is the last the host ran: once it has seen the signal
in a batch (an interrupted one, say), the host starts no other. -/
theorem HostBatches.getLast?_of_signalled (h : HostBatches ctx rt p backoff s₀ s stats tr bs)
    {b : HostBatch σ ω} (hb : b ∈ bs) (hs : b.stop.shutdown = true) : bs.getLast? = some b := by
  obtain ⟨l₁, l₂, rfl⟩ := List.append_of_mem hb
  cases l₂ with
  | nil => simp
  | cons b' l₂ =>
    have hf : HostBatch.Follows backoff b b' := (List.isChain_append_cons_cons.1 h.paced).2.1
    rw [hf.1] at hs
    cases hs

/-- Before the first cycle the host did nothing. -/
theorem HostSoFar.start : HostSoFar ctx rt p backoff s₀ s₀ {} [] [] where
  runs := by simp
  trace := rfl
  clear := by simp
  interrupted := by simp
  paced := .nil
  stats := rfl
  answers := ⟨[], .of_effectsOnly (.refl _), .nil⟩
  last := by simp

/-- One more batch, run from the head of a cycle, and whatever came after it until `s'` that
took no task and answered none: the host did that too. -/
theorem HostSoFar.push (hans : KeepsAnswers rt) (hjson : ctx.codec = Codec.json)
    (hp : p.Respects rt ctx Source.channel) (hkeep : p.KeepsSignal rt ctx Source.channel)
    (hI : HostSoFar ctx rt p backoff s₀ s stats tr bs) {b : HostBatch σ ω} (hstart : b.start = s)
    (hclear : s.shutdown = false)
    (hb : Exec rt (runBatch ctx Source.channel p) b.start b.stop b.report b.trace)
    (hpause : taken b.pause = []) (hd : Reaches [] b.stop s') :
    HostBatches ctx rt p backoff s₀ s' (stats.record b.report) (tr ++ (b.trace ++ b.pause)) (bs ++ [b]) where
  runs := List.forall_mem_append.2 ⟨hI.runs, List.forall_mem_singleton.2 hb⟩
  trace := by simp [hI.trace]
  clear := List.forall_mem_append.2
    ⟨hI.clear, List.forall_mem_singleton.2 (by rw [hstart]; exact hclear)⟩
  interrupted :=
    List.forall_mem_append.2 ⟨hI.interrupted, List.forall_mem_singleton.2 (runBatch_signal hkeep hb).2⟩
  paced := by
    refine List.isChain_append.2 ⟨hI.paced, .singleton b, ?_⟩
    intro x hx y hy
    obtain ⟨hsig, hwait⟩ := hI.last x hx
    have hy : y = b := by simpa [eq_comm] using hy
    subst hy
    refine ⟨Bool.eq_false_iff.2 fun h => ?_, hstart ▸ hwait⟩
    rw [hsig h] at hclear
    cases hclear
  stats := by rw [hI.stats, HostStats.record_ofReports, List.map_append, List.map_singleton]
  answers := by
    obtain ⟨A, hA, hfor⟩ := hI.answers
    obtain ⟨B, hB, hforB⟩ := runBatch_answersFor hans hjson hp hb
    rw [hstart] at hB
    exact ⟨A ++ B, by simpa using (hA.trans hB).trans hd, by simpa [hpause] using hfor.append hforB⟩

/-- A sleep of the backoff takes no task. -/
theorem taken_backoff (hsleep : BackoffRule rt) {t : Nat} {r : Woken} {s₁ s₂ : Shared (Env σ ω)}
    (hw : rt (.orShutdown (.sleep t)) s₁ r s₂) : taken [⟨.orShutdown (.sleep t), r, s₂⟩] = [] := by
  rcases hsleep hw with rfl | ⟨rfl, -⟩ <;> rfl

/-- A cycle from the head of a cycle: the host goes on, between two cycles again with one more
batch, or it stops with the signal set. -/
theorem HostSoFar.cycle (hsig : SignalRules rt) (hsleep : BackoffRule rt) (hans : KeepsAnswers rt)
    (hjson : ctx.codec = Codec.json) (hp : p.Respects rt ctx Source.channel)
    (hkeep : p.KeepsSignal rt ctx Source.channel) (hI : HostSoFar ctx rt p backoff s₀ s stats tr bs)
    {r : HostStats ⊕ HostStats} {trc : List (Wake (Shared (Env σ ω)))}
    (hc : CycleRun ctx Source.channel rt p backoff stats s s' r trc) :
    r.elim (fun stats' => ∃ bs', HostSoFar ctx rt p backoff s₀ s' stats' (tr ++ trc) bs')
      (fun stats' => ∃ bs', HostSpec ctx rt p backoff s₀ s' stats' (tr ++ trc) bs') := by
  cases hc with
  | signalled hsd =>
      rw [List.append_nil]
      exact ⟨bs, { hI.toHostBatches with stopped := hsd }⟩
  | @interrupted _ R _ hclear hb hint =>
      have hB := hI.push hans hjson hp hkeep (b := ⟨s, s', R, trc, []⟩) rfl hclear hb rfl
        (.of_effectsOnly (.refl _))
      simp only [List.append_nil] at hB
      exact ⟨_, { hB with stopped := (runBatch_signal hkeep hb).2 hint }⟩
  | @busy s₁ _ R _ hclear hb _ hback hs₂ =>
      have hB := hI.push hans hjson hp hkeep (b := ⟨s, s₁, R, trc, []⟩) rfl hclear hb rfl
        (.of_effectsOnly hs₂)
      simp only [List.append_nil] at hB
      refine ⟨_, { hB with last := ?_ }⟩
      intro b hb'
      simp only [List.getLast?_append, List.getLast?_singleton, Option.some_or, Option.mem_def,
        Option.some.injEq] at hb'
      subst hb'
      refine ⟨fun h => hs₂.shutdown.trans h, ?_⟩
      simp [HostBatch.Waited, hback, hs₂.now]
  | @rested s₁ s₂ _ R trb w hclear hb _ hback hs₂ hw hne =>
      have hd : Reaches [] s₁ s' := by simpa using (Reaches.of_effectsOnly hs₂).trans (.of_wait hans hw)
      have hB := hI.push hans hjson hp hkeep (b := ⟨s, s₁, R, trb, [⟨_, w, s'⟩]⟩) rfl hclear hb
        (taken_backoff hsleep hw) hd
      refine ⟨_, { hB with trace := by simpa using hB.trace, last := ?_ }⟩
      intro b hb'
      simp only [List.getLast?_append, List.getLast?_singleton, Option.some_or, Option.mem_def,
        Option.some.injEq] at hb'
      subst hb'
      refine ⟨fun h => hsig.sticky hw (hs₂.shutdown.trans h), ?_⟩
      rcases hsleep hw with h | ⟨-, hle⟩
      · exact absurd h hne
      · simp [HostBatch.Waited, hback, ← hs₂.now, hle]
  | @woken s₁ s₂ _ R trb hclear hb _ hback hs₂ hw =>
      have hd : Reaches [] s₁ s' := by simpa using (Reaches.of_effectsOnly hs₂).trans (.of_wait hans hw)
      have hB := hI.push hans hjson hp hkeep (b := ⟨s, s₁, R, trb, [⟨_, .shutdown, s'⟩]⟩) rfl hclear hb
        (taken_backoff hsleep hw) hd
      exact ⟨_, { hB with trace := by simpa using hB.trace, stopped := hsig.shutdown hw }⟩

/-- Steps before the first cycle and after the last that change neither the clock, the signal,
the channel nor the answers leave a host spec as it is. -/
theorem HostSpec.frame {s₁ s₂ s₃ : Shared (Env σ ω)} (h₀ : EffectsOnly s₀ s₁)
    (h₁ : EffectsOnly s₂ s₃) (h : HostSpec ctx rt p backoff s₁ s₂ stats tr bs) :
    HostSpec ctx rt p backoff s₀ s₃ stats tr bs :=
  { h with
    answers := by
      obtain ⟨A, hA, hfor⟩ := h.answers
      exact ⟨A, by simpa using ((Reaches.of_effectsOnly h₀).trans hA).trans (.of_effectsOnly h₁), hfor⟩
    stopped := h₁.shutdown.trans h.stopped }

/-- A host on the channel with the JSON codec, whatever its processor does through its cursor
as long as it keeps the signal, and whatever the runtime brings as long as it keeps the rules of
the signal, the backoff and the answers, runs batches until the signal as `HostSpec` says. -/
theorem runHost_spec (hsig : SignalRules rt) (hsleep : BackoffRule rt) (hans : KeepsAnswers rt)
    (hjson : ctx.codec = Codec.json) (hp : p.Respects rt ctx Source.channel)
    (hkeep : p.KeepsSignal rt ctx Source.channel)
    (h : Exec rt (runHost ctx Source.channel p backoff) s s' stats tr) :
    ∃ bs, HostSpec ctx rt p backoff s s' stats tr bs := by
  obtain ⟨s₀, u₀, tr₀, tr₁, he₀, h₁, rfl⟩ := (exec_bind _ _).1 h
  obtain ⟨hs₀, rfl⟩ := Eng.emit_effectsOnly he₀
  obtain ⟨s₁, st, tr₂, tr₃, hloop, h₂, rfl⟩ := (exec_bind _ _).1 h₁
  obtain ⟨s₂, u₂, tr₄, tr₅, he₁, hret, rfl⟩ := (exec_bind _ _).1 h₂
  obtain ⟨hs₂, rfl⟩ := Eng.emit_effectsOnly he₁
  obtain ⟨rfl, rfl, rfl⟩ := (exec_done _).1 hret
  have hrun := Exec.loop_invariant
    (I := fun stats s pre => ∃ bs, HostSoFar ctx rt p backoff s₀ s stats pre bs)
    (J := fun stats s pre => ∃ bs, HostSpec ctx rt p backoff s₀ s stats pre bs) ?_ [] ⟨[], .start⟩ hloop
  · obtain ⟨stats', s₃, tr₆, tr₇, ⟨bs, hJ⟩, hdone, rfl⟩ := hrun
    obtain ⟨rfl, rfl, rfl⟩ := (exec_done _).1 hdone
    simp only [List.nil_append, List.append_nil] at hJ ⊢
    exact ⟨bs, hJ.frame hs₀ hs₂⟩
  intro stats₁ s₃ s₄ r trc pre ⟨bs, hI⟩ hc
  have hnext := hI.cycle hsig hsleep hans hjson hp hkeep (Host.cycle_exec hc)
  cases r <;> exact hnext

end

/-- A host with three tasks in the channel, the first without data, in a world that sets the
signal at 5 s: the first batch refuses the first task and answers the second, the next answers
the third, and the host then finds the channel empty, backs off, and stops at the signal. -/
theorem runHost_spec_three_tasks :
    SignalRules (Outside.runtime ⟨5000, none⟩ : Runtime (Shared (Env Unit Unit))) ∧
      BackoffRule (Outside.runtime ⟨5000, none⟩ : Runtime (Shared (Env Unit Unit))) ∧
      KeepsAnswers (Outside.runtime ⟨5000, none⟩ : Runtime (Shared (Env Unit Unit))) ∧
      ∃ (s' : Shared (Env Unit Unit)) (stats : HostStats) (tr : List (Wake (Shared (Env Unit Unit)))),
        Exec (Outside.runtime ⟨5000, none⟩) (runHost {} Source.channel (.single Worker.echo) 100)
          (Outside.start [{ id := 1 }, Task.blank 2, Task.blank 3]) s' stats tr ∧
        (∃ bs, HostSpec {} (Outside.runtime ⟨5000, none⟩) (.single Worker.echo) 100
          (Outside.start [{ id := 1 }, Task.blank 2, Task.blank 3]) s' stats tr bs) ∧
        stats.batches = 2 ∧ stats.documents = 2 ∧ stats.refused = 1 ∧ s'.rest.delivered.size = 3 := by
  have hsig := Outside.signalRules (σ := Unit) (ω := Unit) ⟨5000, none⟩
  obtain ⟨s', stats, tr, h, hfacts⟩ := exec_of_runFor_any (show
    (runFor (Outside.wake ⟨5000, none⟩) 10000
      (runHost {} Source.channel (.single (Worker.echo : Worker Unit Unit)) 100)
        (Outside.start [{ id := 1 }, Task.blank 2, Task.blank 3])).any
      (fun x => x.2.1.batches == 2 && x.2.1.documents == 2 && x.2.1.refused == 1 &&
        x.1.rest.delivered.size == 3) = true by decide +kernel)
  simp only [Bool.and_eq_true, beq_iff_eq] at hfacts
  obtain ⟨⟨⟨hbatches, hdocs⟩, hrefused⟩, hsize⟩ := hfacts
  exact ⟨hsig, Outside.backoffRule _, Outside.keepsAnswers _, s', stats, tr, h,
    runHost_spec hsig (Outside.backoffRule _) (Outside.keepsAnswers _) rfl
      (Processor.single_respects _ _ _ _) (Processor.single_keepsSignal hsig _) h,
    hbatches, hdocs, hrefused, hsize⟩

/-! ## A host's ledger

Counting needs nothing of the signal: whatever wakes a host, the tasks it took went into its
batches, its counts are theirs, and it answered each task it took once. `runHost_ledger` says
so under the runtime rules for the backoff and the answers alone; a host run among others, whose
waits may see anything happen, keeps the same ledger. -/

theorem Batch.length_admitted_add_refusals (codec : Codec) (xs : List (Task × Nat)) :
    (Batch.admitted codec xs).length + Batch.refusals codec xs = xs.length := by
  induction xs with
  | nil => rfl
  | cons x xs ih =>
    have hx : (Batch.admitted codec [x]).length + Batch.refusals codec [x] = 1 := by
      cases h : x.1.accepted? codec <;> simp [Batch.refusals, h]
    rw [← List.singleton_append, Batch.admitted_append, Batch.refusals_append, List.length_append,
      List.length_append, List.length_singleton]
    omega

/-- Documents and refusals together count every task of every batch counted. -/
theorem HostStats.ofReports_documents_add_refused (rs : List Report) :
    (HostStats.ofReports rs).documents + (HostStats.ofReports rs).refused =
      (rs.map fun r => r.size + r.refused).sum := by
  induction rs with
  | nil => rfl
  | cons r rs ih =>
    by_cases hc : r.counted = true
    · simp [HostStats.ofReports, List.filter_cons, hc] at ih ⊢
      omega
    · have hz : r.size = 0 ∧ r.refused = 0 := by simpa [Report.counted] using hc
      simp [HostStats.ofReports, hc, hz] at ih ⊢
      omega

section
variable {rt : Runtime (Shared (Env σ ω))} {ctx : Context} {p : Processor σ ω}
  {s s' : Shared (Env σ ω)} {R : Report} {tr : List (Wake (Shared (Env σ ω)))}

/-- A batch run on the channel admits or refuses every task it takes. -/
theorem runBatch_taken_length (hans : KeepsAnswers rt) (hjson : ctx.codec = Codec.json)
    (hp : p.Respects rt ctx Source.channel) (h : Exec rt (runBatch ctx Source.channel p) s s' R tr) :
    R.size + R.refused = (taken tr).length := by
  obtain ⟨s₀, s₁, res, c, outcome, fs, tr₁, tr₂, -, hproc, hfan, rfl, rfl⟩ := runBatch_exec h
  obtain ⟨-, rfl, -, -, -⟩ := hfan.channel hjson
  obtain ⟨ht, hr, -⟩ := (hp _ _ _ _ _ _ hproc).answers hans
  simp only [Cursor.batch_fresh, List.map_nil, List.nil_append] at ht hr
  have hsize : c.batch.size = (Batch.admitted ctx.codec (taken tr₁)).length := by
    simpa [Batch.size] using congrArg List.length ht
  simp only [hsize, hr, Nat.zero_add, List.append_nil]
  exact Batch.length_admitted_add_refusals _ _

end

/-- What a host did with the tasks it took, batch by batch, as far as the counts and the answers
go: each batch is a run, the host waited for its batches and the backoffs after them, the
backoffs took nothing, the counts are those of the reports, and the answers `A` it sent answer
the tasks it took. -/
structure HostLedger (ctx : Context) (rt : Runtime (Shared (Env σ ω))) (p : Processor σ ω)
    (A : List Delivery) (stats : HostStats) (tr : List (Wake (Shared (Env σ ω))))
    (bs : List (HostBatch σ ω)) : Prop where
  runs : ∀ b ∈ bs, Exec rt (runBatch ctx Source.channel p) b.start b.stop b.report b.trace
  trace : tr = (bs.map fun b => b.trace ++ b.pause).flatten
  pauses : ∀ b ∈ bs, taken b.pause = []
  stats : stats = HostStats.ofReports (bs.map (·.report))
  answers : AnswersFor ctx.codec (taken tr) A

namespace HostLedger

variable {rt : Runtime (Shared (Env σ ω))} {ctx : Context} {p : Processor σ ω} {A : List Delivery}
  {stats : HostStats} {tr : List (Wake (Shared (Env σ ω)))} {bs : List (HostBatch σ ω)}

theorem nil : HostLedger ctx rt p [] {} [] [] where
  runs := by simp
  trace := rfl
  pauses := by simp
  stats := rfl
  answers := .nil

/-- One batch more, answered by `B`, and a backoff after it that took nothing. -/
theorem push (hl : HostLedger ctx rt p A stats tr bs) {b : HostBatch σ ω}
    (hb : Exec rt (runBatch ctx Source.channel p) b.start b.stop b.report b.trace)
    (hpause : taken b.pause = []) {B : List Delivery} (hB : AnswersFor ctx.codec (taken b.trace) B) :
    HostLedger ctx rt p (A ++ B) (stats.record b.report) (tr ++ (b.trace ++ b.pause)) (bs ++ [b]) where
  runs := List.forall_mem_append.2 ⟨hl.runs, List.forall_mem_singleton.2 hb⟩
  trace := by simp [hl.trace]
  pauses := List.forall_mem_append.2 ⟨hl.pauses, List.forall_mem_singleton.2 hpause⟩
  stats := by rw [hl.stats, HostStats.record_ofReports, List.map_append, List.map_singleton]
  answers := by simpa [hpause] using hl.answers.append hB

/-- The backoffs take nothing, so the host took what its batches took, in order. -/
theorem taken_eq (hl : HostLedger ctx rt p A stats tr bs) :
    taken tr = bs.flatMap fun b => taken b.trace := by
  have hflat : ∀ cs : List (HostBatch σ ω), (∀ b ∈ cs, taken b.pause = []) →
      taken (cs.map fun b => b.trace ++ b.pause).flatten = cs.flatMap fun b => taken b.trace := by
    intro cs hcs
    induction cs with
    | nil => rfl
    | cons b cs ih =>
      have hrest := ih fun x hx => hcs x (List.mem_cons_of_mem b hx)
      simp [hcs b List.mem_cons_self, hrest]
  rw [hl.trace]
  exact hflat bs hl.pauses

/-- The documents and refusals a host counts are the tasks it took. -/
theorem count (hans : KeepsAnswers rt) (hjson : ctx.codec = Codec.json)
    (hp : p.Respects rt ctx Source.channel) (hl : HostLedger ctx rt p A stats tr bs) :
    stats.documents + stats.refused = (taken tr).length := by
  have hbatch : ∀ b ∈ bs, b.report.size + b.report.refused = (taken b.trace).length :=
    fun b hb => runBatch_taken_length hans hjson hp (hl.runs b hb)
  rw [hl.stats, HostStats.ofReports_documents_add_refused, hl.taken_eq, List.length_flatMap,
    List.map_map]
  exact congrArg List.sum (List.map_congr_left fun b hb => hbatch b hb)

end HostLedger

section
variable {rt : Runtime (Shared (Env σ ω))} {ctx : Context} {p : Processor σ ω} {backoff : Nat}
  {s₀ s s' : Shared (Env σ ω)} {A : List Delivery} {stats : HostStats}
  {tr : List (Wake (Shared (Env σ ω)))} {bs : List (HostBatch σ ω)}

/-- A cycle adds to the ledger the batch it ran, if any, and its backoff. -/
theorem HostLedger.cycle (hsleep : BackoffRule rt) (hans : KeepsAnswers rt)
    (hjson : ctx.codec = Codec.json) (hp : p.Respects rt ctx Source.channel)
    (hA : Reaches A s₀ s) (hl : HostLedger ctx rt p A stats tr bs) {r : HostStats ⊕ HostStats}
    {trc : List (Wake (Shared (Env σ ω)))} (hc : CycleRun ctx Source.channel rt p backoff stats s s' r trc) :
    ∃ A' bs', Reaches A' s₀ s' ∧ HostLedger ctx rt p A' (r.elim id id) (tr ++ trc) bs' := by
  have hpush : ∀ b : HostBatch σ ω, b.start = s →
      Exec rt (runBatch ctx Source.channel p) b.start b.stop b.report b.trace → taken b.pause = [] →
      Reaches [] b.stop s' →
      ∃ A' bs', Reaches A' s₀ s' ∧
        HostLedger ctx rt p A' (stats.record b.report) (tr ++ (b.trace ++ b.pause)) bs' := by
    intro b hstart hb hpause hd
    obtain ⟨B, hB, hfor⟩ := runBatch_answersFor hans hjson hp hb
    rw [hstart] at hB
    exact ⟨A ++ B, bs ++ [b], by simpa using (hA.trans hB).trans hd, hl.push hb hpause hfor⟩
  cases hc with
  | signalled _ => exact ⟨A, bs, hA, by simpa using hl⟩
  | @interrupted _ R _ _ hb _ =>
      simpa using hpush ⟨s, s', R, trc, []⟩ rfl hb rfl (.of_effectsOnly (.refl _))
  | @busy s₁ _ R _ _ hb _ _ hs₂ => simpa using hpush ⟨s, s₁, R, trc, []⟩ rfl hb rfl (.of_effectsOnly hs₂)
  | @rested s₁ _ _ R trb w _ hb _ _ hs₂ hw _ =>
      simpa using hpush ⟨s, s₁, R, trb, [⟨_, w, s'⟩]⟩ rfl hb (taken_backoff hsleep hw)
        (by simpa using (Reaches.of_effectsOnly hs₂).trans (.of_wait hans hw))
  | @woken s₁ _ _ R trb _ hb _ _ hs₂ hw =>
      simpa using hpush ⟨s, s₁, R, trb, [⟨_, .shutdown, s'⟩]⟩ rfl hb (taken_backoff hsleep hw)
        (by simpa using (Reaches.of_effectsOnly hs₂).trans (.of_wait hans hw))

/-- Whatever the signal does, a host on the channel keeps a ledger of what it did, and the
answers it sent reached the response channel until its receiver was dropped. -/
theorem runHost_ledger (hsleep : BackoffRule rt) (hans : KeepsAnswers rt)
    (hjson : ctx.codec = Codec.json) (hp : p.Respects rt ctx Source.channel)
    (h : Exec rt (runHost ctx Source.channel p backoff) s s' stats tr) :
    ∃ A bs, Reaches A s s' ∧ HostLedger ctx rt p A stats tr bs := by
  obtain ⟨s₁, u₀, tr₀, tr₁, he₀, h₁, rfl⟩ := (exec_bind _ _).1 h
  obtain ⟨hs₁, rfl⟩ := Eng.emit_effectsOnly he₀
  obtain ⟨s₂, st, tr₂, tr₃, hloop, h₂, rfl⟩ := (exec_bind _ _).1 h₁
  obtain ⟨s₃, u₂, tr₄, tr₅, he₁, hret, rfl⟩ := (exec_bind _ _).1 h₂
  obtain ⟨hs₃, rfl⟩ := Eng.emit_effectsOnly he₁
  obtain ⟨rfl, rfl, rfl⟩ := (exec_done _).1 hret
  have hrun := Exec.loop_invariant
    (I := fun stats s pre => ∃ A bs, Reaches A s₁ s ∧ HostLedger ctx rt p A stats pre bs)
    (J := fun stats s pre => ∃ A bs, Reaches A s₁ s ∧ HostLedger ctx rt p A stats pre bs) ?_ []
    ⟨[], [], .of_effectsOnly (.refl _), .nil⟩ hloop
  · obtain ⟨st', s₄, tr₆, tr₇, ⟨A, bs, hA, hl⟩, hdone, rfl⟩ := hrun
    obtain ⟨rfl, rfl, rfl⟩ := (exec_done _).1 hdone
    refine ⟨A, bs, ?_, by simpa using hl⟩
    simpa using ((Reaches.of_effectsOnly hs₁).trans hA).trans (.of_effectsOnly hs₃)
  intro stats₁ s₄ s₅ r trc pre ⟨A, bs, hA, hl⟩ hc
  have hnext := hl.cycle hsleep hans hjson hp hA (Host.cycle_exec hc)
  cases r <;> exact hnext

end

end DocBatch
