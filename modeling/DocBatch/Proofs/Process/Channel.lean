import DocBatch.Proofs.Process.Exec
import DocBatch.Schedule.Run

/-!
# The channel as the scheduler hands it out

A run of a process (`Exec`) leaves open how its waits end. Processes that share the channel
rely on a few rules of it, gathered in `ChannelRules`: a wait takes the task it brings from the
head of the channel and puts the task it sends at its end, it leaves the processes' own part of
the state alone, and a sleep raced against the signal ends by the signal or once its time has
come.

The scheduler (`Schedule.run`) ends a wait when `State.attempt` finds it over. `Schedule.waits`
is the runtime of those ends, and `Schedule.waits_channelRules` shows that it keeps the rules:
what a statement proves from `ChannelRules` holds of the runs the scheduler makes. The other
rules of the scheduler (who holds the lock, which timer fires first) are not needed there and
are left out.
-/

namespace DocBatch

open Proc

/-- The task a wait brought from the channel, if it brought one. -/
def Woken.task? : Woken → Option Task
  | .task t => some t
  | _ => none

/-- The task a wait put into the channel, if it ended by sending one. -/
def Wait.sent? : Wait → Woken → Option Task
  | .send t, .sent => some t
  | .orShutdown w, r => w.sent? r
  | _, _ => none

@[simp] theorem Wait.sent?_shutdown (w : Wait) : w.sent? .shutdown = none := by
  induction w with
  | orShutdown w ih => exact ih
  | _ => rfl

/-- How waits end, as far as the channel goes: a wait takes from the head of the channel the
task it brings and puts at its end the task it sends, and changes nothing else of it; it leaves
the processes' own part alone; and a sleep raced against the signal ends by the signal, or once
its time has come. -/
structure ChannelRules {ε : Type} (W : Runtime (Shared ε)) : Prop where
  queue : ∀ {w s r s'}, W w s r s' → s.inbox ++ (w.sent? r).toList = r.task?.toList ++ s'.inbox
  rest : ∀ {w s r s'}, W w s r s' → s'.rest = s.rest
  backoff : ∀ {t s r s'}, W (.orShutdown (.sleep t)) s r s' →
    r = .shutdown ∨ (r = .elapsed ∧ t ≤ s'.now)

/-- `s'` differs from `s` at most in what the channel holds. -/
structure InboxOnly {ε : Type} (s s' : Shared ε) : Prop where
  now : s'.now = s.now
  shutdown : s'.shutdown = s.shutdown
  capacity : s'.capacity = s.capacity
  closed : s'.closed = s.closed
  rest : s'.rest = s.rest

namespace InboxOnly

variable {ε : Type}

theorem refl (s : Shared ε) : InboxOnly s s := ⟨rfl, rfl, rfl, rfl, rfl⟩

theorem of_inbox (s : Shared ε) (xs : List Task) : InboxOnly s { s with inbox := xs } :=
  ⟨rfl, rfl, rfl, rfl, rfl⟩

end InboxOnly

namespace Schedule

namespace State

variable {ε : Type} (i : Nat) (s : State ε)

@[simp] theorem wake_shared : (s.wake i).shared = s.shared := by
  unfold wake
  split_ifs <;> rfl

@[simp] theorem release_shared : (s.release i).shared = s.shared := by
  unfold release
  split
  · split <;> simp
  · rfl

variable {i d : Nat} {s s' : State ε} {r : Woken}

/-- The receiving half of a pull that ends takes the task it brings from the head of the
channel, and changes nothing else of the shared state. -/
theorem receive_channel (h : s.receive i d = (some r, s')) :
    s.shared.inbox = r.task?.toList ++ s'.shared.inbox ∧ InboxOnly s.shared s'.shared := by
  unfold receive at h
  cases hq : s.shared.inbox with
  | cons t rest =>
    simp only [hq, Prod.mk.injEq, Option.some.injEq] at h
    obtain ⟨rfl, hs'⟩ := h
    have hshared : s'.shared = { s.shared with inbox := rest } := by
      rw [← hs', release_shared]
      split <;> simp only [wake_shared]
    rw [hshared]
    exact ⟨by simp [Woken.task?], .of_inbox _ _⟩
  | nil =>
    simp only [hq] at h
    split_ifs at h <;> simp only [Prod.mk.injEq, Option.some.injEq, reduceCtorEq, false_and] at h <;>
      obtain ⟨rfl, rfl⟩ := h <;> simp [Woken.task?, hq, InboxOnly.refl]

/-- A pull that ends is the receiving half of it, once the lock is taken. -/
theorem pull_channel (h : s.pull i d = (some r, s')) :
    s.shared.inbox = r.task?.toList ++ s'.shared.inbox ∧ InboxOnly s.shared s'.shared := by
  unfold pull at h
  split at h
  · exact receive_channel h
  · split_ifs at h
    · dsimp only at h
      have hrecv := receive_channel h
      exact hrecv
    · simp only [Prod.mk.injEq, Option.some.injEq] at h
      obtain ⟨rfl, rfl⟩ := h
      exact ⟨rfl, .refl _⟩
    · simp only [Prod.mk.injEq, reduceCtorEq, false_and] at h

/-- A wait raced against the signal ends by the signal, with nothing changed, or as the wait
alone would. -/
theorem attempt_orShutdown {w : Wait} (h : attempt i (.orShutdown w) s = (some r, s')) :
    (r = .shutdown ∧ s' = s) ∨ attempt i w s = (some r, s') := by
  unfold attempt at h
  split_ifs at h
  · simp only [Prod.mk.injEq, Option.some.injEq] at h
    exact .inl ⟨h.1.symm, h.2.symm⟩
  · split at h
    · simp only [Prod.mk.injEq, Option.some.injEq] at h
      obtain ⟨rfl, rfl⟩ := h
      exact .inr (by assumption)
    · simp only [Prod.mk.injEq, reduceCtorEq, false_and] at h

/-- A sleep that ends ends once its time has come, with nothing changed. -/
theorem attempt_sleep {t : Nat} (h : attempt i (.sleep t) s = (some r, s')) :
    r = .elapsed ∧ s' = s ∧ t ≤ s.shared.now := by
  unfold attempt at h
  split_ifs at h with hdue <;> simp only [Prod.mk.injEq, Option.some.injEq, reduceCtorEq, false_and] at h
  exact ⟨h.1.symm, h.2.symm, hdue⟩

/-- A wait that the scheduler finds over took from the head of the channel the task it
brought, and put at its end the task it sent; nothing else of the shared state changed. -/
theorem attempt_channel (w : Wait) (h : attempt i w s = (some r, s')) :
    s.shared.inbox ++ (w.sent? r).toList = r.task?.toList ++ s'.shared.inbox ∧
      InboxOnly s.shared s'.shared := by
  induction w generalizing s' r with
  | sleep t =>
    obtain ⟨rfl, rfl, -⟩ := attempt_sleep h
    exact ⟨by simp [Wait.sent?, Woken.task?], .refl _⟩
  | send task =>
    unfold attempt at h
    split_ifs at h <;> simp only [Prod.mk.injEq, Option.some.injEq, reduceCtorEq, false_and] at h
    obtain ⟨rfl, hs'⟩ := h
    have hshared : s'.shared = { s.shared with inbox := s.shared.inbox ++ [task] } := by
      rw [← hs']
      split <;> simp only [wake_shared]
    rw [hshared]
    exact ⟨by simp [Wait.sent?, Woken.task?], .of_inbox _ _⟩
  | pull d =>
    obtain ⟨hq, hown⟩ := pull_channel h
    exact ⟨by simpa [Wait.sent?] using hq, hown⟩
  | orShutdown w ih =>
    rcases attempt_orShutdown h with ⟨rfl, rfl⟩ | h
    · exact ⟨by simp [Woken.task?], .refl _⟩
    · exact ih h

end State

/-- How the scheduler ends waits: process `i`, polled in a state whose shared part is `s`,
finds its wait over with `r`, the shared part then being `s'`. -/
def waits {ε : Type} : Runtime (Shared ε) := fun w s r s' =>
  ∃ (i : Nat) (st st' : State ε), st.shared = s ∧ st.attempt i w = (some r, st') ∧ st'.shared = s'

/-- The scheduler hands out the channel as a queue, leaves the processes' own part to them, and
ends a sleep raced against the signal by the signal or once its time has come. -/
theorem waits_channelRules {ε : Type} : ChannelRules (waits : Runtime (Shared ε)) where
  queue := by
    rintro w _ r _ ⟨i, st, st', rfl, h, rfl⟩
    exact (State.attempt_channel w h).1
  rest := by
    rintro w _ r _ ⟨i, st, st', rfl, h, rfl⟩
    exact (State.attempt_channel w h).2.rest
  backoff := by
    rintro t _ r _ ⟨i, st, st', rfl, h, rfl⟩
    rcases State.attempt_orShutdown h with ⟨rfl, -⟩ | h
    · exact .inl rfl
    · obtain ⟨rfl, rfl, hdue⟩ := State.attempt_sleep h
      exact .inr ⟨rfl, hdue⟩

end Schedule

end DocBatch
