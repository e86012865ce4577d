import Mathlib.Algebra.BigOperators.Fin
import DocBatch.Proofs.Process.Channel
import DocBatch.Proofs.Engine.Footprint
import DocBatch.Proofs.Engine.HostRuns

/-!
# Hosts sharing a channel

Several hosts run on one channel, with one context, one clock, one signal, one store and one
receiver of the answers. The scheduler runs one process at a time, from one wait to the next,
and `Fleet.Move` says the same of a fleet: a member runs alone from a wait to its next wait (a
`Segment`), and between moves the world outside may put tasks into the channel, move the clock,
set the signal, close the channel or drop the receiver. The order of the moves is free, so what
holds of every `Fleet.Run` holds in every interleaving, the scheduler's included. The answers
each member sends are kept apart, so that each can be matched to the tasks its member took.

Two facts carry the account:
* every member, seen alone, makes a run of its program (`Run.follows`) under `hostRuntime`,
  whose waits may find the shared state changed by the others in any way; a host's ledger
  (`runHost_ledger`) holds of that run;
* the steps of the engine keep to their own part (`runHost_ownSteps`), so only the waits touch
  the channel, and under `ChannelRules` the channel is a queue over the whole run
  (`Run.queue`); nor do they touch the receiver, so a member that stopped while it was held saw
  it held all along (`Fleet.Held`).

`fleet_accounts` puts them together: every task handed out went into the batches of one member,
was answered once, and was counted once; the answers reached the receiver until it was dropped,
all of them if it never was. `fleet_accounts_dropped` runs two hosts on three tasks, one of them
refused, with the receiver dropped in between. The account is about finished runs. It says nothing
of when the hosts finish, or whether they do, nor of how long a task waits.
-/

namespace DocBatch

open Proc

variable {σ ω : Type}

/-! ## Fleets -/

/-- The state with the answers `d`, the receiver `held` or not: what a process of the engine
sees of a state without answers. -/
def Shared.withAnswers (s : Shared (Effects σ ω)) (d : Array Delivery) (held : Bool) : Shared (Env σ ω) :=
  { now := s.now, shutdown := s.shutdown, inbox := s.inbox, capacity := s.capacity,
    closed := s.closed, rest := { fx := s.rest, delivered := d, receiving := held } }

/-- The state without its answers. -/
def Shared.withoutAnswers (v : Shared (Env σ ω)) : Shared (Effects σ ω) :=
  { now := v.now, shutdown := v.shutdown, inbox := v.inbox, capacity := v.capacity,
    closed := v.closed, rest := v.rest.fx }

/-- A process of a fleet, as the fleet holds it: what is left of it, the state it stood in when
it last stopped, which holds the answers it sent, and whether it has run at all. -/
structure Member (σ ω α : Type) where
  proc : Eng σ ω α
  paused : Shared (Env σ ω)
  started : Bool

/-- The answers a member sent, in order. -/
def Member.answers {α : Type} (m : Member σ ω α) : List Delivery := m.paused.rest.delivered.toList

/-- Processes of the engine that share the clock, the signal, the channel, the effects of
processing and the receiver of the answers; the answers each sends are its own. -/
structure Fleet (σ ω α : Type) (k : Nat) where
  shared : Shared (Effects σ ω)
  /-- Whether the receiving end of the response channel is still held. -/
  receiving : Bool
  members : Fin k → Member σ ω α

namespace Fleet

variable {α : Type} {k : Nat}

/-- A fleet of processes that have not run, in the state `s`, with the receiver held. -/
def init (s : Shared (Effects σ ω)) (procs : Fin k → Eng σ ω α) : Fleet σ ω α k :=
  { shared := s, receiving := true
    members := fun j => { proc := procs j, paused := s.withAnswers #[] true, started := false } }

/-- The state as member `j` sees it: the shared state and receiver, with its own answers. -/
def view (c : Fleet σ ω α k) (j : Fin k) : Shared (Env σ ω) :=
  c.shared.withAnswers (c.members j).paused.rest.delivered c.receiving

/-- Member `j` stopped as `q` in the state `v`, which it leaves to the others. -/
def resume (c : Fleet σ ω α k) (j : Fin k) (q : Eng σ ω α) (v : Shared (Env σ ω)) : Fleet σ ω α k :=
  { shared := v.withoutAnswers, receiving := v.rest.receiving
    members := Function.update c.members j { proc := q, paused := v, started := true } }

/-- What happens in one move of a fleet. -/
inductive Event (σ ω : Type) (k : Nat) where
  /-- The world outside puts the tasks `sent` into the channel, after those in it, and may
  change anything else of the shared state: move the clock, set the signal, close the
  channel, drop the receiver. -/
  | outside (sent : List Task)
  /-- Member `j` runs for the first time, up to its first wait or its end. -/
  | start (j : Fin k)
  /-- The wait of member `j` ends as `w` records, and `j` runs up to its next wait or its end. -/
  | wake (j : Fin k) (w : Wake (Shared (Env σ ω)))

namespace Event

/-- The tasks an event put into the channel. -/
def sent : Event σ ω k → List Task
  | .outside ts => ts
  | .start _ => []
  | .wake _ w => (w.wait.sent? w.woken).toList

/-- The task an event took from the channel. -/
def took : Event σ ω k → List Task
  | .wake _ w => w.woken.task?.toList
  | _ => []

/-- The wait of member `j` that an event ended. -/
def wakeOf (j : Fin k) : Event σ ω k → Option (Wake (Shared (Env σ ω)))
  | .wake i w => if i = j then some w else none
  | _ => none

@[simp] theorem filterMap_wakeOf_singleton (j : Fin k) (e : Event σ ω k) :
    [e].filterMap (wakeOf j) = (e.wakeOf j).toList := by
  cases h : e.wakeOf j <;> simp [h]

end Event

/-- One move of a fleet, its waits ending by the rules `W`. A member runs alone from one wait to
the next; which member moves, and when the world outside does, is not fixed. -/
inductive Move (W : Runtime (Shared (Env σ ω))) :
    Fleet σ ω α k → Event σ ω k → Fleet σ ω α k → Prop
  | outside {c : Fleet σ ω α k} {s : Shared (Effects σ ω)} {ts : List Task} {held : Bool} :
      s.inbox = c.shared.inbox ++ ts → (held = true → c.receiving = true) →
        Move W c (.outside ts) { c with shared := s, receiving := held }
  | start {c : Fleet σ ω α k} {j : Fin k} {q : Eng σ ω α} {v : Shared (Env σ ω)} :
      (c.members j).started = false → Segment (c.members j).proc (c.view j) q v →
        Move W c (.start j) (c.resume j q v)
  | wake {c : Fleet σ ω α k} {j : Fin k} {w : Wait} {next : Woken → Eng σ ω α} {r : Woken}
      {v₁ v : Shared (Env σ ω)} {q : Eng σ ω α} :
      (c.members j).proc = .wait w next → W w (c.view j) r v₁ → Segment (next r) v₁ q v →
        Move W c (.wake j ⟨w, r, v₁⟩) (c.resume j q v)

/-- A run of a fleet: its moves, one after another. -/
inductive Run (W : Runtime (Shared (Env σ ω))) :
    Fleet σ ω α k → List (Event σ ω k) → Fleet σ ω α k → Prop
  | nil (c : Fleet σ ω α k) : Run W c [] c
  | snoc {c c₁ c₂ : Fleet σ ω α k} {es : List (Event σ ω k)} {e : Event σ ω k} :
      Run W c es c₁ → Move W c₁ e c₂ → Run W c (es ++ [e]) c₂

/-- What a member's waits may bring, seen from the member: anything may have happened to the
shared state while it waited, but not to its answers, and the receiver may have been dropped
but not taken up again; then the wait ended by the rules `W`. -/
def hostRuntime (W : Runtime (Shared (Env σ ω))) : Runtime (Shared (Env σ ω)) :=
  fun w v r v₁ => ∃ v₀ : Shared (Env σ ω), v₀.rest.delivered = v.rest.delivered ∧
    (v₀.rest.receiving = true → v.rest.receiving = true) ∧ W w v₀ r v₁

section
variable {c : Fleet σ ω α k} {i j : Fin k} {q : Eng σ ω α} {v : Shared (Env σ ω)}

@[simp] theorem resume_shared : (c.resume j q v).shared = v.withoutAnswers := rfl

@[simp] theorem resume_receiving : (c.resume j q v).receiving = v.rest.receiving := rfl

@[simp] theorem resume_members_self :
    (c.resume j q v).members j = { proc := q, paused := v, started := true } :=
  Function.update_self _ _ _

theorem resume_members_of_ne (h : i ≠ j) : (c.resume j q v).members i = c.members i :=
  Function.update_of_ne h _ _

@[simp] theorem view_inbox : (c.view j).inbox = c.shared.inbox := rfl

@[simp] theorem view_delivered : (c.view j).rest.delivered = (c.members j).paused.rest.delivered := rfl

@[simp] theorem view_receiving : (c.view j).rest.receiving = c.receiving := rfl

@[simp] theorem withoutAnswers_inbox : v.withoutAnswers.inbox = v.inbox := rfl

end

section
variable {W : Runtime (Shared (Env σ ω))}

theorem hostRuntime_keepsAnswers (hW : ChannelRules W) : KeepsAnswers (hostRuntime W) := by
  rintro w v r v₁ ⟨v₀, hd, hr, hw⟩
  rw [← hd, hW.rest hw]
  exact ⟨rfl, hr⟩

theorem hostRuntime_backoff (hW : ChannelRules W) : BackoffRule (hostRuntime W) :=
  fun ⟨_, _, _, hw⟩ => hW.backoff hw

end

end Fleet

/-! ## Each member runs as if alone -/

/-- Member `m` has followed `p` from a state without answers, its waits ending as `tr` records:
either it has not run, or every run of what is left of it, from where it stopped, finishes a run
of `p`. -/
inductive Member.Follows {α : Type} (rt : Runtime (Shared (Env σ ω))) (p : Eng σ ω α) :
    Member σ ω α → List (Wake (Shared (Env σ ω))) → Prop
  | fresh {m : Member σ ω α} :
      m.started = false → m.proc = p → m.paused.rest.delivered = #[] → Member.Follows rt p m []
  | started {m : Member σ ω α} {tr : List (Wake (Shared (Env σ ω)))} (v₀ : Shared (Env σ ω)) :
      m.started = true → v₀.rest.delivered = #[] →
      (∀ s' a tr', Exec rt m.proc m.paused s' a tr' → Exec rt p v₀ s' a (tr ++ tr')) →
        Member.Follows rt p m tr

/-- A member that has finished finished a run of its program, from a state without answers and
up to where it stopped. -/
theorem Member.Follows.exec_of_done {α : Type} {p : Eng σ ω α} {m : Member σ ω α}
    {tr : List (Wake (Shared (Env σ ω)))} {rt : Runtime (Shared (Env σ ω))} {a : α}
    (hf : m.Follows rt p tr) (hdone : m.proc = .done a) :
    ∃ v₀ : Shared (Env σ ω), v₀.rest.delivered = #[] ∧ Exec rt p v₀ m.paused a tr := by
  cases hf with
  | fresh _ hp hd =>
      exact ⟨m.paused, hd, by rw [← hp, hdone]; exact (exec_done _).2 ⟨rfl, rfl, rfl⟩⟩
  | started v₀ _ hd hfollow =>
      have h := hfollow m.paused a [] (by rw [hdone]; exact (exec_done _).2 ⟨rfl, rfl, rfl⟩)
      exact ⟨v₀, hd, by simpa using h⟩

namespace Fleet

variable {α : Type} {k : Nat} {W : Runtime (Shared (Env σ ω))} {p : Eng σ ω α}

/-- While the fleet holds the receiver, every member stopped with it held: a receiver once
dropped is not taken up again. -/
def Held (c : Fleet σ ω α k) : Prop :=
  ∀ j, c.receiving = true → (c.members j).paused.rest.receiving = true

theorem Held.init (s : Shared (Effects σ ω)) (procs : Fin k → Eng σ ω α) : (init s procs).Held :=
  fun _ _ => rfl

/-- A move keeps every member following its program, with the wait it ended, if it was the
member's, added to its waits. -/
theorem Move.follows {c c' : Fleet σ ω α k} {e : Event σ ω k} (hm : Move W c e c') (hh : c.Held)
    (j : Fin k) {tr : List (Wake (Shared (Env σ ω)))} (hf : (c.members j).Follows (hostRuntime W) p tr) :
    (c'.members j).Follows (hostRuntime W) p (tr ++ (e.wakeOf j).toList) := by
  cases hm with
  | outside _ _ => simpa [Event.wakeOf] using hf
  | @start i q v hfresh hseg =>
      by_cases hij : i = j
      · subst hij
        cases hf with
        | fresh _ hp hd =>
            simp only [resume_members_self, Event.wakeOf, Option.toList_none, List.append_nil]
            refine .started (c.view i) rfl (by simpa using hd) fun s' a tr' h => ?_
            rw [← hp]
            exact hseg.exec h
        | started _ hs _ _ =>
            rw [hs] at hfresh
            cases hfresh
      · simpa [resume_members_of_ne (Ne.symm hij), Event.wakeOf] using hf
  | @wake i w next r v₁ v q hproc hw hseg =>
      by_cases hij : i = j
      · subst hij
        have hrun : ∀ v' : Shared (Env σ ω), v'.rest.delivered = (c.members i).paused.rest.delivered →
            (c.receiving = true → v'.rest.receiving = true) →
            ∀ s' a tr', Exec (hostRuntime W) q v s' a tr' →
              Exec (hostRuntime W) (c.members i).proc v' s' a (⟨w, r, v₁⟩ :: tr') := by
          intro v' hv' hr' s' a tr' h
          rw [hproc]
          exact (exec_wait _ _).2 ⟨r, v₁, tr', ⟨c.view i, by simp [hv'], hr', hw⟩, hseg.exec h, rfl⟩
        simp only [resume_members_self, Event.wakeOf, ↓reduceIte, Option.toList_some]
        cases hf with
        | fresh _ hp hd =>
            refine .started (c.view i) rfl (by simpa using hd) fun s' a tr' h => ?_
            rw [← hp]
            exact hrun (c.view i) rfl id s' a tr' h
        | started v₀ _ hd hfollow =>
            refine .started v₀ rfl hd fun s' a tr' h => ?_
            simpa using hfollow s' a _ (hrun _ rfl (hh i) s' a tr' h)
      · simpa [resume_members_of_ne (Ne.symm hij), Event.wakeOf, hij] using hf

/-! ## The channel hands each task out once -/

/-- A move puts into the channel what its event sent and takes from its head what its event
took, and keeps the receiver held by the members while the fleet holds it, when the members'
steps keep to the engine's part: the steps touch neither the channel nor the receiver, the waits
leave the receiver to the members, and the world outside only drops it. -/
theorem Move.queue (hW : ChannelRules W) {c c' : Fleet σ ω α k} {e : Event σ ω k}
    (hm : Move W c e c') (hg : ∀ j, Guarded EngOnly (c.members j).proc) (hh : c.Held) :
    c.shared.inbox ++ e.sent = e.took ++ c'.shared.inbox ∧
      (∀ j, Guarded EngOnly (c'.members j).proc) ∧ c'.Held := by
  have hresume : ∀ {j q v}, Guarded EngOnly q → (v.rest.receiving = true → c.receiving = true) →
      (∀ i, Guarded EngOnly ((c.resume j q v).members i).proc) ∧ (c.resume j q v).Held := by
    intro j q v hq hv
    refine ⟨fun i => ?_, fun i hrec => ?_⟩
    · by_cases hij : i = j
      · subst hij
        simpa using hq
      · rw [resume_members_of_ne hij]
        exact hg i
    · by_cases hij : i = j
      · subst hij
        simpa using hrec
      · rw [resume_members_of_ne hij]
        exact hh i (hv hrec)
  cases hm with
  | outside hs hheld => exact ⟨by simp [hs, Event.sent, Event.took], hg, fun j hrec => hh j (hheld hrec)⟩
  | @start j q v _ hseg =>
      obtain ⟨heng, hq⟩ := hseg.engOnly (hg j)
      exact ⟨by simp [Event.sent, Event.took, heng.inbox], hresume hq fun h => by simpa [heng.receiving] using h⟩
  | @wake j w next r v₁ v q hproc hw hseg =>
      have hnext : Guarded EngOnly (next r) := by
        have := hg j
        rw [hproc] at this
        exact this.wait_inv r
      obtain ⟨heng, hq⟩ := hseg.engOnly hnext
      refine ⟨?_, hresume hq fun h => ?_⟩
      · simpa [Event.sent, Event.took, heng.inbox] using hW.queue hw
      · rw [heng.receiving, hW.rest hw] at h
        simpa using h

/-- Over a run, what was in the channel and what was put into it is what was taken from it, in
order, and what is left in it; and the members hold the receiver while the fleet does. -/
theorem Run.queue (hW : ChannelRules W) {c₀ c : Fleet σ ω α k} {es : List (Event σ ω k)}
    (h : Run W c₀ es c) (hg : ∀ j, Guarded EngOnly (c₀.members j).proc) (hh : c₀.Held) :
    c₀.shared.inbox ++ es.flatMap Event.sent = es.flatMap Event.took ++ c.shared.inbox ∧
      (∀ j, Guarded EngOnly (c.members j).proc) ∧ c.Held := by
  induction h with
  | nil => simpa using ⟨hg, hh⟩
  | @snoc c₁ c₂ es e _ hm ih =>
      obtain ⟨hq, hg₁, hh₁⟩ := ih
      obtain ⟨hq', hg₂, hh₂⟩ := hm.queue hW hg₁ hh₁
      refine ⟨?_, hg₂, hh₂⟩
      calc c₀.shared.inbox ++ (es ++ [e]).flatMap Event.sent
          = (c₀.shared.inbox ++ es.flatMap Event.sent) ++ e.sent := by simp
        _ = es.flatMap Event.took ++ (c₁.shared.inbox ++ e.sent) := by rw [hq, List.append_assoc]
        _ = es.flatMap Event.took ++ (e.took ++ c₂.shared.inbox) := by rw [hq']
        _ = (es ++ [e]).flatMap Event.took ++ c₂.shared.inbox := by simp

/-- Over a run, every member follows its program, its waits ending as the run's events
record. -/
theorem Run.follows (hW : ChannelRules W) {c₀ c : Fleet σ ω α k} {es : List (Event σ ω k)}
    (h : Run W c₀ es c) (hg : ∀ j, Guarded EngOnly (c₀.members j).proc) (hh : c₀.Held) (j : Fin k)
    (hf : (c₀.members j).Follows (hostRuntime W) p []) :
    (c.members j).Follows (hostRuntime W) p (es.filterMap (Event.wakeOf j)) := by
  induction h with
  | nil => exact hf
  | @snoc c₁ c₂ es e h₁ hm ih =>
      rw [List.filterMap_append, Event.filterMap_wakeOf_singleton]
      exact hm.follows (h₁.queue hW hg hh).2.2 j ih

/-! ## Each task taken, by one member -/

/-- The tasks a run's waits brought, in order. -/
theorem taken_map_fst {ε : Type} (tr : List (Wake (Shared ε))) :
    (taken tr).map (·.1) = tr.flatMap fun w => w.woken.task?.toList := by
  induction tr with
  | nil => rfl
  | cons w tr ih =>
      rw [taken_cons, List.map_append, ih, List.flatMap_cons]
      congr 1
      unfold Wake.task?
      cases w.woken <;> rfl

/-- The tasks member `j`'s waits brought in a run with the events `es`, in order. -/
def tookBy (es : List (Event σ ω k)) (j : Fin k) : List Task :=
  (taken (es.filterMap (Event.wakeOf j))).map (·.1)

/-- Every task taken in a run was taken by one member: counted with repetition, the tasks
taken are those the members' waits brought. -/
theorem count_took (es : List (Event σ ω k)) (t : Task) :
    (es.flatMap Event.took).count t = ∑ j, (tookBy es j).count t := by
  simp only [tookBy, taken_map_fst]
  induction es with
  | nil => simp
  | cons e es ih =>
      have he : (e.took).count t =
          ∑ j, (([e].filterMap (Event.wakeOf j)).flatMap fun w => w.woken.task?.toList).count t := by
        cases e with
        | outside ts => simp [Event.took, Event.wakeOf]
        | start i => simp [Event.took, Event.wakeOf]
        | wake i w =>
            simp [Event.took, Event.wakeOf, apply_ite]
      rw [List.flatMap_cons, List.count_append, ih, he, ← Finset.sum_add_distrib]
      refine Finset.sum_congr rfl fun j _ => ?_
      rw [← List.count_append, ← List.flatMap_append, ← List.filterMap_append, List.singleton_append]

/-- The tasks taken in a run, in some order, are those each member's waits brought, member
after member. -/
theorem took_perm (es : List (Event σ ω k)) :
    (es.flatMap Event.took).Perm (List.ofFn (tookBy es)).flatten := by
  rw [List.perm_iff_count]
  intro t
  simp only [count_took, List.count_flatten, List.map_ofFn, List.sum_ofFn, Function.comp_def]

end Fleet

/-- Lists that are, one by one, permutations of each other, put one after another, are a
permutation of each other. -/
theorem perm_flatten_ofFn {β : Type} [DecidableEq β] {k : Nat} {f g : Fin k → List β}
    (h : ∀ j, (f j).Perm (g j)) : (List.ofFn f).flatten.Perm (List.ofFn g).flatten := by
  rw [List.perm_iff_count]
  intro x
  simp only [List.count_flatten, List.map_ofFn, List.sum_ofFn, Function.comp_def]
  exact Finset.sum_congr rfl fun j _ => (h j).count_eq x

/-! ## Hosts sharing a channel -/

/-- What a finished run of `k` hosts on one channel accounts for, from the state `s₀`, its events
`es` ending in `c`, host `j` having counted `stats j`:
* the channel handed out what was in it and what was sent to it, in order, and kept the rest;
* the tasks the hosts' batches took are, all together and counted with repetition, the tasks
  handed out, so a task handed out once is in one batch of one host;
* the answers the hosts gave are one to each task handed out, and they reached the receiver
  until it was dropped: what each host's answers that were received are a prefix of what it gave,
  all of it while the receiver is still held;
* the documents and refusals the hosts counted add up to the tasks handed out. -/
structure FleetAccounts {k : Nat} (W : Runtime (Shared (Env σ ω))) (ctx : Context)
    (p : Fin k → Processor σ ω) (s₀ : Shared (Effects σ ω)) (es : List (Fleet.Event σ ω k))
    (c : Fleet σ ω HostStats k) (stats : Fin k → HostStats) : Prop where
  queue : s₀.inbox ++ es.flatMap Fleet.Event.sent = es.flatMap Fleet.Event.took ++ c.shared.inbox
  batches : ∃ bs : Fin k → List (HostBatch σ ω),
    (∀ j, ∀ b ∈ bs j, Exec (Fleet.hostRuntime W) (runBatch ctx Source.channel (p j))
      b.start b.stop b.report b.trace) ∧
    (es.flatMap Fleet.Event.took).Perm
      (List.ofFn fun j => (bs j).flatMap fun b => (taken b.trace).map (·.1)).flatten
  answers : ∃ A : Fin k → List Delivery,
    ((List.ofFn A).flatten.map fun d => (d.taskId, d.correlationId)).Perm
      ((es.flatMap Fleet.Event.took).map fun t => (t.id, t.correlationId)) ∧
    ∀ j, (c.members j).answers <+: A j ∧ (c.receiving = true → (c.members j).answers = A j)
  counts : ∑ j, ((stats j).documents + (stats j).refused) = (es.flatMap Fleet.Event.took).length

section

variable {k backoff : Nat} {W : Runtime (Shared (Env σ ω))} {ctx : Context} {p : Fin k → Processor σ ω}
  {s₀ : Shared (Effects σ ω)} {es : List (Fleet.Event σ ω k)} {c : Fleet σ ω HostStats k}
  {stats : Fin k → HostStats}

/-- A host of a fleet that has finished kept a ledger of its own: seen alone, it ran `runHost`
from a state without answers, its waits those of the run's events for it; what it received of
its answers is a prefix of them, all of them while the fleet holds the receiver. -/
theorem Fleet.Run.hostLedger (hW : ChannelRules W) (hjson : ctx.codec = Codec.json)
    (h : Fleet.Run W (Fleet.init s₀ fun j => runHost ctx Source.channel (p j) backoff) es c)
    (hown : ∀ j, (p j).OwnSteps ctx Source.channel)
    {j : Fin k} (hp : (p j).Respects (Fleet.hostRuntime W) ctx Source.channel)
    (hdone : (c.members j).proc = .done (stats j)) :
    ∃ A bs, HostLedger ctx (Fleet.hostRuntime W) (p j) A (stats j) (es.filterMap (Fleet.Event.wakeOf j)) bs ∧
      (c.members j).answers <+: A ∧ (c.receiving = true → (c.members j).answers = A) := by
  have hg : ∀ i, Guarded EngOnly ((Fleet.init s₀ fun j => runHost ctx Source.channel (p j) backoff).members i).proc :=
    fun i => runHost_ownSteps Source.channel_ownSteps (p i) (hown i) backoff
  obtain ⟨v₀, hv₀, hrun⟩ := (h.follows hW hg (.init _ _) j (.fresh rfl rfl rfl)).exec_of_done hdone
  obtain ⟨A, bs, hA, hl⟩ := runHost_ledger (Fleet.hostRuntime_backoff hW)
    (Fleet.hostRuntime_keepsAnswers hW) hjson hp hrun
  refine ⟨A, bs, hl, ?_, fun hrec => ?_⟩
  · obtain ⟨-, n, -, hd, -, -⟩ := hA
    have hanswers : (c.members j).answers = A.take n := by simpa [hv₀, Member.answers] using hd
    exact hanswers ▸ List.take_prefix n A
  · have hheld := (h.queue hW hg (.init _ _)).2.2 j hrec
    simpa [hv₀, Member.answers] using hA.eq_append hheld

/-- `k` hosts that share the context, the channel, the clock, the signal and the effects of
processing, each with its own processor, account for every task once (`FleetAccounts`) in any
interleaving of their moves with each other and with the world outside, once all have
finished. -/
theorem fleet_accounts (hW : ChannelRules W) (hjson : ctx.codec = Codec.json)
    (hp : ∀ j, (p j).Respects (Fleet.hostRuntime W) ctx Source.channel)
    (hown : ∀ j, (p j).OwnSteps ctx Source.channel)
    (h : Fleet.Run W (Fleet.init s₀ fun j => runHost ctx Source.channel (p j) backoff) es c)
    (hdone : ∀ j, (c.members j).proc = .done (stats j)) :
    FleetAccounts W ctx p s₀ es c stats := by
  choose A bs hbs hrecv using fun j => h.hostLedger hW hjson hown (hp j) (hdone j)
  have hqueue := h.queue hW (fun j => runHost_ownSteps Source.channel_ownSteps (p j) (hown j) backoff)
    (.init _ _)
  have htook := Fleet.took_perm es
  refine ⟨hqueue.1, ⟨bs, fun j => (hbs j).runs, ?_⟩, ?_, ?_⟩
  · refine htook.trans (.of_eq (congrArg _ (congrArg _ (funext fun j => ?_))))
    rw [Fleet.tookBy, (hbs j).taken_eq, List.map_flatMap]
  · have hmember : ∀ j, ((A j).map fun d => (d.taskId, d.correlationId)).Perm
        ((Fleet.tookBy es j).map fun t => (t.id, t.correlationId)) := by
      intro j
      simpa [Fleet.tookBy, List.map_map, Function.comp_def] using (hbs j).answers.once
    have hall : ((List.ofFn A).flatten.map fun d => (d.taskId, d.correlationId)).Perm
        ((List.ofFn (Fleet.tookBy es)).flatten.map fun t => (t.id, t.correlationId)) := by
      simp only [List.map_flatten, List.map_ofFn, Function.comp_def]
      exact perm_flatten_ofFn hmember
    exact ⟨A, hall.trans (htook.map _).symm, hrecv⟩
  · have hcount : ∀ j, (stats j).documents + (stats j).refused = (Fleet.tookBy es j).length := by
      intro j
      rw [Fleet.tookBy, List.length_map]
      exact (hbs j).count (Fleet.hostRuntime_keepsAnswers hW) hjson (hp j)
    rw [htook.length_eq, List.length_flatten, List.map_ofFn, List.sum_ofFn]
    exact Finset.sum_congr rfl fun j _ => hcount j

end

/-! ## A fleet in a scripted world

A run of a fleet can be computed: the waits end as a scripted world says (`Outside`), and a script
of turns says who moves when. `Fleet.play` computes the events and the fleet they lead to, and
what it computes is a `Fleet.Run` (`Fleet.Run.of_play`). -/

namespace Outside

theorem race_queue (o : Outside) (t : Nat) (s : Shared (Env σ ω)) :
    (o.race t s).1.task? = none ∧ (o.race t s).2.inbox = s.inbox := by
  unfold race
  split <;> exact ⟨rfl, rfl⟩

/-- However a wait ends, the channel held what it holds after, with what the wait took from it
at its head and without what it put into it. -/
theorem wake_queue (o : Outside) : ∀ (w : Wait) (s : Shared (Env σ ω)),
    s.inbox ++ (w.sent? (o.wake w s).1).toList = (o.wake w s).1.task?.toList ++ (o.wake w s).2.inbox
  | .sleep t, s => by simp [wake, advance, Wait.sent?, Woken.task?]
  | .pull d, s => by
      unfold wake
      split
      · next t rest h => simp [h, Wait.sent?, Woken.task?]
      · next h => split <;> simp [h, advance, Wait.sent?, Woken.task?]
  | .send t, s => by simp [wake, Wait.sent?, Woken.task?]
  | .orShutdown w, s => by
      unfold wake
      split
      · simp [Woken.task?]
      · split
        · next _ t =>
            obtain ⟨hr, hs⟩ := o.race_queue t s
            simp [Wait.sent?, hr, hs]
        · next _ d =>
            split
            · next t rest h => simp [h, Wait.sent?, Woken.task?]
            · next h =>
                split
                · simp [h, Wait.sent?, Woken.task?]
                · obtain ⟨hr, hs⟩ := o.race_queue d s
                  simp [Wait.sent?, hr, hs, h]
        · simpa [Wait.sent?] using o.wake_queue w s

/-- A world that never drops the receiver keeps the rules of the channel. -/
theorem channelRules (o : Outside) (h : o.dropAt = none) : ChannelRules (o.runtime (σ := σ) (ω := ω)) where
  queue {w s r s'} hw := by
    have hw' : o.wake w s = (r, s') := hw
    simpa [hw'] using o.wake_queue w s
  rest {w s r s'} hw := by
    have hw' : o.wake w s = (r, s') := hw
    simpa [hw', h] using o.wake_rest w s
  backoff hw := o.wake_orShutdown_sleep hw

end Outside

namespace Fleet

variable {α : Type} {k : Nat}

/-- Who moves next in a scripted run of a fleet. -/
inductive Turn (k : Nat) where
  /-- Member `j` runs for the first time. -/
  | start (j : Fin k)
  /-- The wait of member `j` ends. -/
  | wake (j : Fin k)
  /-- The world outside drops the receiver of the answers. -/
  | drop

/-- The move of turn `t`, when the waits end as `wake` says: its event and the fleet after it,
the member running at most `fuel` steps; none when the turn cannot be taken. -/
def turn (wake : Wait → Shared (Env σ ω) → Woken × Shared (Env σ ω)) (fuel : Nat)
    (c : Fleet σ ω α k) : Turn k → Option (Event σ ω k × Fleet σ ω α k)
  | .start j =>
    if (c.members j).started then none
    else (Segment.segmentFor fuel (c.members j).proc (c.view j)).map fun x =>
      (.start j, c.resume j x.1 x.2)
  | .wake j =>
    match (c.members j).proc with
    | .wait w next =>
      (Segment.segmentFor fuel (next (wake w (c.view j)).1) (wake w (c.view j)).2).map fun x =>
        (.wake j ⟨w, (wake w (c.view j)).1, (wake w (c.view j)).2⟩, c.resume j x.1 x.2)
    | _ => none
  | .drop => some (.outside [], { c with receiving := false })

/-- The moves of a scripted run, turn after turn. -/
def play (wake : Wait → Shared (Env σ ω) → Woken × Shared (Env σ ω)) (fuel : Nat) :
    Fleet σ ω α k → List (Turn k) → Option (List (Event σ ω k) × Fleet σ ω α k)
  | c, [] => some ([], c)
  | c, t :: ts => (turn wake fuel c t).bind fun x =>
      (play wake fuel x.2 ts).map fun y => (x.1 :: y.1, y.2)

section
variable {wake : Wait → Shared (Env σ ω) → Woken × Shared (Env σ ω)} {fuel : Nat}

theorem Move.of_turn {c c' : Fleet σ ω α k} {e : Event σ ω k} (t : Turn k)
    (h : turn wake fuel c t = some (e, c')) : Move (.ofFun wake) c e c' := by
  cases t with
  | start j =>
      cases hstart : (c.members j).started
      · simp only [turn, hstart, Bool.false_eq_true, ↓reduceIte] at h
        obtain ⟨⟨q, v⟩, hseg, he⟩ := Option.map_eq_some_iff.1 h
        cases he
        exact .start hstart (Segment.of_segmentFor fuel hseg)
      · simp [turn, hstart] at h
  | wake j =>
      simp only [turn] at h
      split at h
      · next w next hproc =>
          obtain ⟨⟨q, v⟩, hseg, he⟩ := Option.map_eq_some_iff.1 h
          cases he
          exact .wake hproc rfl (Segment.of_segmentFor fuel hseg)
      · cases h
  | drop =>
      simp only [turn, Option.some.injEq, Prod.mk.injEq] at h
      obtain ⟨rfl, rfl⟩ := h
      exact .outside (by simp) (fun h => nomatch h)

/-- A move before a run makes a run. -/
theorem Run.cons {c c₁ c₂ : Fleet σ ω α k} {e : Event σ ω k} {es : List (Event σ ω k)}
    {W : Runtime (Shared (Env σ ω))} (hm : Move W c e c₁) (h : Run W c₁ es c₂) :
    Run W c (e :: es) c₂ := by
  induction h with
  | nil => exact .snoc (.nil c) hm
  | snoc _ hm' ih => exact .snoc ih hm'

/-- What a script plays is a run of the fleet. -/
theorem Run.of_play : ∀ {c c' : Fleet σ ω α k} {ts : List (Turn k)} {es : List (Event σ ω k)},
    play wake fuel c ts = some (es, c') → Run (.ofFun wake) c es c'
  | c, c', [], es, h => by
      cases h
      exact .nil c
  | c, c', t :: ts, es, h => by
      obtain ⟨⟨e, c₁⟩, hturn, hrest⟩ := Option.bind_eq_some_iff.1 h
      obtain ⟨⟨es', c₂⟩, hplay, he⟩ := Option.map_eq_some_iff.1 hrest
      cases he
      exact .cons (Move.of_turn t hturn) (Run.of_play hplay)

end

end Fleet

/-- What member `m` returned, once it has finished. -/
def Member.result? {α : Type} (m : Member σ ω α) : Option α :=
  match m.proc with
  | .done a => some a
  | _ => none

theorem Member.proc_of_result? {α : Type} {m : Member σ ω α} {a : α} (h : m.result? = some a) :
    m.proc = .done a := by
  unfold Member.result? at h
  split at h
  · next b hb =>
      cases h
      exact hb
  · cases h

/-- Two hosts on three tasks, the first of them without data, in a world that sets the signal
at 1 s: host 0 refuses the first task and its refusal is received; then the receiver is dropped,
hosts 1 and 0 each process one task and find no one to take their answers; both stop at the
signal. The run accounts for the three tasks, though only one answer was received. -/
theorem fleet_accounts_dropped :
    ∃ (es : List (Fleet.Event Unit Unit 2)) (c : Fleet Unit Unit HostStats 2)
      (stats : Fin 2 → HostStats),
      Fleet.Run (Outside.runtime ⟨1000, none⟩)
        (Fleet.init (Outside.start [{ id := 1 }, Task.blank 2, Task.blank 3]).withoutAnswers
          fun _ => runHost {} Source.channel (.single Worker.echo) 100) es c ∧
      (∀ j, (c.members j).proc = .done (stats j)) ∧
      FleetAccounts (Outside.runtime ⟨1000, none⟩) {} (fun _ => .single Worker.echo)
        (Outside.start [{ id := 1 }, Task.blank 2, Task.blank 3]).withoutAnswers es c stats ∧
      (es.flatMap Fleet.Event.took).length = 3 ∧ c.receiving = false ∧
      (c.members 0).answers.length = 1 ∧ (c.members 1).answers = [] := by
  obtain ⟨⟨es, c⟩, hplay, hfacts⟩ := (Option.any_eq_true _ _).1 (show
    (Fleet.play (Outside.wake ⟨1000, none⟩) 10000
        (Fleet.init (Outside.start [{ id := 1 }, Task.blank 2, Task.blank 3]).withoutAnswers
          fun _ => runHost {} Source.channel (.single (Worker.echo : Worker Unit Unit)) 100)
        [.start 0, .start 1, .wake 0, .drop, .wake 1, .wake 0, .wake 1, .wake 0]).any
      (fun (x : List (Fleet.Event Unit Unit 2) × Fleet Unit Unit HostStats 2) =>
        (x.2.members 0).result?.isSome && (x.2.members 1).result?.isSome &&
        (x.1.flatMap Fleet.Event.took).length == 3 && !x.2.receiving &&
        (x.2.members 0).answers.length == 1 && (x.2.members 1).answers.isEmpty) = true
    by decide +kernel)
  simp only [Bool.and_eq_true, beq_iff_eq, Bool.not_eq_true', List.isEmpty_iff,
    Option.isSome_iff_exists] at hfacts
  obtain ⟨⟨⟨⟨⟨⟨a₀, h₀⟩, a₁, h₁⟩, htook⟩, hrecv⟩, hans₀⟩, hans₁⟩ := hfacts
  have hrun := Fleet.Run.of_play hplay
  have hdone : ∀ j, (c.members j).proc = .done (![a₀, a₁] j) :=
    Fin.forall_fin_two.2 ⟨Member.proc_of_result? h₀, Member.proc_of_result? h₁⟩
  exact ⟨es, c, _, hrun, hdone, fleet_accounts (Outside.channelRules _ rfl) rfl
    (fun _ => Processor.single_respects _ _ _ _)
    (fun _ => Processor.single_ownSteps Source.channel_ownSteps _) hrun hdone,
    htook, hrecv, hans₀, hans₁⟩

end DocBatch
