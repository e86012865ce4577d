import DocBatch.Proofs.Process.Exec
import DocBatch.Engine.Assembler
import DocBatch.Service.Engine

/-!
# What a task source consumes

The engine sees a task source only through its two operations: a pull, which may give a task,
and an answer. What a run took from the channel is on its trace: every wait that ended with a
task (`taken`), with the time on the clock when it came.

A source is **faithful** to a runtime when a pull, raced against the shutdown signal as the
assembler races it, takes from the channel exactly the task it gives, and at the time it ends,
and an answer takes nothing. The channel source is faithful to every runtime, and so is the
scripted source of the service, which fails the pulls and answers it is told to: whatever order
and timing the runtime gives to tasks, empty pulls, failures and the shutdown signal, the
trace of a run says which tasks the engine consumed.

For runs at fixed inputs, `Outside.runtime` decides every wait by a function of the state: the
rest of the system is a clock that moves only while the processes wait, a time at which the
shutdown signal is set and perhaps a time at which whoever reads the answers drops the response
channel's receiver.
-/

namespace DocBatch

open Proc

variable {σ ω : Type}

/-! ## Steps of the engine -/

namespace Eng

variable {rt : Runtime (Shared (Env σ ω))} {s s' : Shared (Env σ ω)} {tr : List (Wake (Shared (Env σ ω)))}

@[simp] theorem exec_work {α : Type} (w : Work σ ω α) {a : α} :
    Exec rt (Eng.work w) s s' a tr ↔
      s' = { s with rest := { s.rest with fx := (w.run s.rest.fx).2 } } ∧
        a = (w.run s.rest.fx).1 ∧ tr = [] := by
  simp only [Eng.work, Act.exec_modifyOwn]
  rfl

@[simp] theorem exec_emit (e : Event) {u : Unit} :
    Exec rt (Eng.emit e) s s' u tr ↔
      s' = { s with rest := { s.rest with fx := ((Work.emit e).run s.rest.fx).2 } } ∧ tr = [] := by
  simp [Eng.emit]

@[simp] theorem exec_deliver (d : Delivery) {u : Unit} :
    Exec rt (Eng.deliver d) s s' u tr ↔
      s' = { s with rest := { s.rest with delivered := s.rest.delivered.push d } } ∧ tr = [] := by
  simp [Eng.deliver]

end Eng

/-- `s'` differs from `s` at most in the effects of processing (the log, the value store and
the processing code's own state): the clock, the signal, the channel, the answers and the
response channel's receiver are untouched. -/
structure EffectsOnly (s s' : Shared (Env σ ω)) : Prop where
  now : s'.now = s.now
  shutdown : s'.shutdown = s.shutdown
  inbox : s'.inbox = s.inbox
  capacity : s'.capacity = s.capacity
  closed : s'.closed = s.closed
  delivered : s'.rest.delivered = s.rest.delivered
  receiving : s'.rest.receiving = s.rest.receiving

namespace EffectsOnly

variable {s₁ s₂ s₃ : Shared (Env σ ω)}

theorem refl (s : Shared (Env σ ω)) : EffectsOnly s s := ⟨rfl, rfl, rfl, rfl, rfl, rfl, rfl⟩

theorem trans (h₁ : EffectsOnly s₁ s₂) (h₂ : EffectsOnly s₂ s₃) : EffectsOnly s₁ s₃ :=
  ⟨h₂.now.trans h₁.now, h₂.shutdown.trans h₁.shutdown, h₂.inbox.trans h₁.inbox,
    h₂.capacity.trans h₁.capacity, h₂.closed.trans h₁.closed, h₂.delivered.trans h₁.delivered,
    h₂.receiving.trans h₁.receiving⟩

theorem of_fx (s : Shared (Env σ ω)) (fx : Effects σ ω) :
    EffectsOnly s { s with rest := { s.rest with fx := fx } } :=
  ⟨rfl, rfl, rfl, rfl, rfl, rfl, rfl⟩

end EffectsOnly

theorem Eng.work_effectsOnly {rt : Runtime (Shared (Env σ ω))} {s s' : Shared (Env σ ω)}
    {tr : List (Wake (Shared (Env σ ω)))} {α : Type} {w : Work σ ω α} {a : α}
    (h : Exec rt (Eng.work w) s s' a tr) : EffectsOnly s s' ∧ tr = [] := by
  obtain ⟨rfl, -, rfl⟩ := (Eng.exec_work w).1 h
  exact ⟨.of_fx _ _, rfl⟩

theorem Eng.emit_effectsOnly {rt : Runtime (Shared (Env σ ω))} {s s' : Shared (Env σ ω)}
    {tr : List (Wake (Shared (Env σ ω)))} {e : Event} {u : Unit}
    (h : Exec rt (Eng.emit e) s s' u tr) : EffectsOnly s s' ∧ tr = [] :=
  Eng.work_effectsOnly h

/-! ## The tasks a run took -/

/-- The task a wait brought, with the time on the clock when it came. -/
def Proc.Wake.task? {ε : Type} (w : Wake (Shared ε)) : Option (Task × Nat) :=
  match w.woken with
  | .task t => some (t, w.state.now)
  | _ => none

/-- The tasks a run took from the channel, in order, each with the time it came. -/
def taken {ε : Type} (tr : List (Wake (Shared ε))) : List (Task × Nat) :=
  tr.filterMap Wake.task?

section
variable {ε : Type}

@[simp] theorem taken_nil : taken ([] : List (Wake (Shared ε))) = [] := rfl

@[simp] theorem taken_append (tr₁ tr₂ : List (Wake (Shared ε))) :
    taken (tr₁ ++ tr₂) = taken tr₁ ++ taken tr₂ :=
  List.filterMap_append

@[simp] theorem taken_cons (w : Wake (Shared ε)) (tr : List (Wake (Shared ε))) :
    taken (w :: tr) = w.task?.toList ++ taken tr := by
  cases h : w.task? <;> simp [taken, h]

end

/-- The task a pull gave, if it gave one. -/
def pulled : Option (Except Error (Option Task)) → Option Task
  | some (.ok (some t)) => some t
  | _ => none

/-- A source is faithful to a runtime when a pull raced against the shutdown signal takes from
the channel exactly the task it gives, at the time it ends, and an answer takes nothing. -/
structure Source.Faithful (rt : Runtime (Shared (Env σ ω))) (src : Source σ ω) : Prop where
  next : ∀ {m s s' r tr}, Exec rt (unlessShutdown (src.next m)) s s' r tr →
    taken tr = ((pulled r).map fun t => (t, s'.now)).toList
  respond : ∀ {t resp s s' r tr}, Exec rt (src.respond t resp) s s' r tr → taken tr = []

/-! ## The channel source -/

/-- A pull on the channel reads the clock and waits for a task until its deadline, unless the
shutdown signal comes first. -/
theorem unlessShutdown_channel_next (m : Nat) :
    unlessShutdown ((Source.channel : Source σ ω).next m) =
      .step (fun s => (s, s)) fun s => .wait (.orShutdown (.pull (s.now + m))) fun
        | .shutdown => .done none
        | .task t => .done (some (.ok (some t)))
        | _ => .done (some (.ok none)) := by
  simp only [Source.channel, Act.now, Proc.read, Proc.await, bind_eq, pure_eq, Proc.bind,
    Proc.unlessShutdown]
  congr
  funext s
  congr
  funext r
  cases r <;> rfl

/-- An answer on the channel reaches the response channel while its receiver is held; once
the receiver is dropped it fails, naming its task, and changes nothing. Either way it does not
wait. -/
theorem exec_channel_respond {rt : Runtime (Shared (Env σ ω))} {s s' : Shared (Env σ ω)}
    {tr : List (Wake (Shared (Env σ ω)))} {t : Task} {resp : Response} {r : Except Error Unit} :
    Exec rt ((Source.channel : Source σ ω).respond t resp) s s' r tr ↔
      tr = [] ∧
        if s.rest.receiving then
          r = .ok () ∧
            s' = { s with rest := { s.rest with delivered := s.rest.delivered.push ⟨t.id, t.correlationId, resp⟩ } }
        else r = .error (receiverDropped t) ∧ s' = s := by
  simp only [Source.channel, bind_eq, pure_eq, exec_bind, Act.exec_own]
  constructor
  · rintro ⟨s₁, _, tr₁, tr₂, ⟨hs, rfl, rfl⟩, h, rfl⟩
    rw [hs] at h
    by_cases hrec : s.rest.receiving = true
    · rw [if_pos hrec] at h ⊢
      simp only [exec_bind, Eng.exec_deliver, exec_done] at h
      obtain ⟨s₂, u, tr₃, tr₄, ⟨rfl, rfl⟩, ⟨rfl, rfl, rfl⟩, rfl⟩ := h
      simp
    · rw [if_neg hrec] at h ⊢
      obtain ⟨rfl, rfl, rfl⟩ := (exec_done _).1 h
      simp
  · rintro ⟨rfl, h⟩
    refine ⟨s, s.rest, [], [], ⟨rfl, rfl, rfl⟩, ?_, rfl⟩
    by_cases hrec : s.rest.receiving = true
    · rw [if_pos hrec] at h ⊢
      obtain ⟨rfl, rfl⟩ := h
      simp [exec_bind, Eng.exec_deliver, exec_done]
    · rw [if_neg hrec] at h ⊢
      obtain ⟨rfl, rfl⟩ := h
      exact (exec_done _).2 ⟨rfl, rfl, rfl⟩

theorem channel_respond_exec {rt : Runtime (Shared (Env σ ω))} {s s' : Shared (Env σ ω)}
    {tr : List (Wake (Shared (Env σ ω)))} {t : Task} {resp : Response} {r : Except Error Unit}
    (h : Exec rt ((Source.channel : Source σ ω).respond t resp) s s' r tr) :
    tr = [] ∧
      (s.rest.receiving = true ∧ r = .ok () ∧
          s' = { s with rest := { s.rest with delivered := s.rest.delivered.push ⟨t.id, t.correlationId, resp⟩ } } ∨
        s.rest.receiving = false ∧ r = .error (receiverDropped t) ∧ s' = s) := by
  obtain ⟨rfl, hif⟩ := exec_channel_respond.1 h
  by_cases hrec : s.rest.receiving = true
  · rw [if_pos hrec] at hif
    exact ⟨rfl, .inl ⟨hrec, hif⟩⟩
  · rw [if_neg hrec] at hif
    exact ⟨rfl, .inr ⟨by simpa using hrec, hif⟩⟩

theorem Source.channel_faithful (rt : Runtime (Shared (Env σ ω))) :
    (Source.channel : Source σ ω).Faithful rt where
  next := by
    intro m s s' r tr h
    rw [unlessShutdown_channel_next] at h
    simp only [exec_step, exec_wait] at h
    obtain ⟨r₀, s₁, tr', -, hk, rfl⟩ := h
    cases r₀ with
    | task t =>
        obtain ⟨rfl, rfl, rfl⟩ := (exec_done _).1 hk
        simp [Wake.task?, pulled]
    | shutdown | elapsed | closed | sent =>
        obtain ⟨rfl, rfl, rfl⟩ := (exec_done _).1 hk
        simp [Wake.task?, pulled]
  respond := by
    intro t resp s s' r tr h
    obtain ⟨rfl, -⟩ := channel_respond_exec h
    rfl

/-- The scripted source counts each pull and fails those it is told to; the others are pulls
on the channel. -/
theorem Service.scriptedSource_faithful (rt : Runtime (Shared Service.Scene))
    (failPulls : List Nat) (failAnswers : List Int) :
    (Service.scriptedSource failPulls failAnswers).Faithful rt where
  next := by
    intro m s s' r tr h
    simp only [Service.scriptedSource, bind_eq, unlessShutdown_bind, exec_bind] at h
    obtain ⟨s₁, n, tr₁, tr₂, hn, h, rfl⟩ := h
    have hn' : n.isSome ∧ tr₁ = [] := by
      simp only [Eng.work, Act.modifyOwn, unlessShutdown, exec_step, exec_done] at hn
      obtain ⟨-, rfl, rfl⟩ := hn
      exact ⟨rfl, rfl⟩
    obtain ⟨hsome, rfl⟩ := hn'
    obtain ⟨n, rfl⟩ := Option.isSome_iff_exists.1 hsome
    by_cases hfail : failPulls.contains n = true
    · simp only [hfail, if_true, pure_eq, unlessShutdown_done, exec_done] at h
      obtain ⟨rfl, rfl, rfl⟩ := h
      rfl
    · simp only [hfail, Bool.false_eq_true, if_false] at h
      simpa using (Source.channel_faithful rt).next h
  respond := by
    intro t resp s s' r tr h
    simp only [Service.scriptedSource] at h
    split at h
    · obtain ⟨-, -, rfl⟩ := (exec_done _).1 h
      rfl
    · exact (Source.channel_faithful rt).respond h

/-! ## A scripted outside world -/

/-- What the rest of the system does while the engine runs: it sets the shutdown signal once the
clock reaches `stopAt`, and drops the response channel's receiver once the clock reaches
`dropAt`, if ever. -/
structure Outside where
  stopAt : Nat
  dropAt : Option Nat := none

namespace Outside

/-- The clock moves on to `t`, never back, and the outside does what is due by then. -/
def advance (o : Outside) (t : Nat) (s : Shared (Env σ ω)) : Shared (Env σ ω) :=
  let now := max s.now t
  { s with
    now := now
    shutdown := s.shutdown || decide (o.stopAt ≤ now)
    rest :=
      match o.dropAt with
      | some d => if d ≤ now then { s.rest with receiving := false } else s.rest
      | none => s.rest }

/-- Waiting for the clock to reach `t`, raced against the shutdown signal: the signal wins when
it is due by then. -/
def race (o : Outside) (t : Nat) (s : Shared (Env σ ω)) : Woken × Shared (Env σ ω) :=
  if o.stopAt ≤ t then (.shutdown, o.advance o.stopAt s) else (.elapsed, o.advance t s)

/-- How a wait ends: a pull takes the task at the head of the channel at once, or on an empty
channel waits for its deadline; a sleep waits for its time; a send always finds room; a race
against a signal already set ends with the signal. -/
def wake (o : Outside) : Wait → Shared (Env σ ω) → Woken × Shared (Env σ ω)
  | .sleep t, s => (.elapsed, o.advance t s)
  | .pull d, s =>
    match s.inbox with
    | t :: rest => (.task t, { s with inbox := rest })
    | [] => if s.closed then (.closed, s) else (.elapsed, o.advance d s)
  | .send t, s => (.sent, { s with inbox := s.inbox ++ [t] })
  | .orShutdown w, s =>
    if s.shutdown then (.shutdown, s)
    else
      match w with
      | .sleep t => o.race t s
      | .pull d =>
        match s.inbox with
        | t :: rest => (.task t, { s with inbox := rest })
        | [] => if s.closed then (.closed, s) else o.race d s
      | w => o.wake w s

/-- The runtime in which every wait ends as `wake` says. -/
def runtime (o : Outside) : Runtime (Shared (Env σ ω)) := .ofFun o.wake

theorem advance_rest (o : Outside) (t : Nat) (s : Shared (Env σ ω)) :
    (o.advance t s).rest = s.rest ∨
      o.dropAt.isSome ∧ (o.advance t s).rest = { s.rest with receiving := false } := by
  unfold advance
  rcases o.dropAt with _ | d
  · exact .inl rfl
  · dsimp only
    split
    · exact .inr ⟨rfl, rfl⟩
    · exact .inl rfl

theorem race_rest (o : Outside) (t : Nat) (s : Shared (Env σ ω)) :
    (o.race t s).2.rest = s.rest ∨
      o.dropAt.isSome ∧ (o.race t s).2.rest = { s.rest with receiving := false } := by
  unfold race
  split
  · exact o.advance_rest _ s
  · exact o.advance_rest _ s

/-- However a wait ends, the outside leaves the processes' own part as it was, but for perhaps
dropping the receiver, when it drops it at all. -/
theorem wake_rest (o : Outside) : ∀ (w : Wait) (s : Shared (Env σ ω)),
    (o.wake w s).2.rest = s.rest ∨
      o.dropAt.isSome ∧ (o.wake w s).2.rest = { s.rest with receiving := false }
  | .sleep t, s => o.advance_rest t s
  | .pull d, s => by
      unfold wake
      split
      · exact .inl rfl
      · split
        · exact .inl rfl
        · exact o.advance_rest d s
  | .send t, s => .inl rfl
  | .orShutdown w, s => by
      unfold wake
      split
      · exact .inl rfl
      · split
        · exact o.race_rest _ s
        · split
          · exact .inl rfl
          · split
            · exact .inl rfl
            · exact o.race_rest _ s
        · exact o.wake_rest _ s

theorem advance_shutdown (o : Outside) (t : Nat) (s : Shared (Env σ ω)) (h : s.shutdown = true) :
    (o.advance t s).shutdown = true := by
  simp [advance, h]

/-- However a wait ends, a signal set stays set. -/
theorem wake_shutdown (o : Outside) : ∀ (w : Wait) (s : Shared (Env σ ω)), s.shutdown = true →
    (o.wake w s).2.shutdown = true
  | .sleep t, s, h => o.advance_shutdown t s h
  | .pull d, s, h => by
      unfold wake
      split
      · exact h
      · split
        · exact h
        · exact o.advance_shutdown d s h
  | .send t, s, h => h
  | .orShutdown w, s, h => by
      unfold wake
      rw [if_pos h]
      exact h

theorem race_shutdown (o : Outside) {t : Nat} {s s' : Shared (Env σ ω)}
    (h : o.race t s = (.shutdown, s')) : s'.shutdown = true := by
  unfold race at h
  split at h
  · obtain ⟨-, rfl⟩ := Prod.mk.inj h
    simp only [advance, Bool.or_eq_true, decide_eq_true_eq]
    exact .inr (Nat.le_max_right _ _)
  · cases (Prod.mk.inj h).1

/-- A wait raced against the signal that ends with the signal ends with it set. -/
theorem wake_orShutdown_shutdown (o : Outside) : ∀ (w : Wait) {s s' : Shared (Env σ ω)},
    o.wake (.orShutdown w) s = (.shutdown, s') → s'.shutdown = true
  | w, s, s', h => by
      unfold wake at h
      split at h
      · obtain ⟨-, rfl⟩ := Prod.mk.inj h
        assumption
      · split at h
        · exact o.race_shutdown h
        · split at h
          · cases (Prod.mk.inj h).1
          · split at h
            · cases (Prod.mk.inj h).1
            · exact o.race_shutdown h
        · rename_i hsleep hpull
          cases w with
          | sleep t => exact absurd rfl (hsleep t)
          | pull d => exact absurd rfl (hpull d)
          | send t =>
              unfold wake at h
              cases (Prod.mk.inj h).1
          | orShutdown w => exact o.wake_orShutdown_shutdown w h

/-- A sleep raced against the signal ends with the signal, or once its time has come. -/
theorem wake_orShutdown_sleep (o : Outside) {t : Nat} {s s' : Shared (Env σ ω)} {r : Woken}
    (h : o.wake (.orShutdown (.sleep t)) s = (r, s')) : r = .shutdown ∨ (r = .elapsed ∧ t ≤ s'.now) := by
  have hw : o.wake (.orShutdown (.sleep t)) s = if s.shutdown then (.shutdown, s) else o.race t s := rfl
  rw [hw] at h
  split at h
  · exact .inl (Prod.mk.inj h).1.symm
  · unfold race at h
    split at h
    · exact .inl (Prod.mk.inj h).1.symm
    · obtain ⟨rfl, rfl⟩ := Prod.mk.inj h
      exact .inr ⟨rfl, Nat.le_max_right _ _⟩

/-- The state at time 0 with the tasks `inbox` in the channel, the receiver held, nothing
answered yet, and processing with no store and no state of its own. -/
def start (inbox : List Task) : Shared (Env Unit Unit) :=
  { inbox, rest := { fx := { store := (), own := () } } }

end Outside

end DocBatch
