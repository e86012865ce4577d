import Mathlib.Tactic.Common
import DocBatch.Schedule.Proc

/-!
# Runs of a process against a runtime

A process (`Proc`) only says what it does between waits; what ends a wait, and what the rest of
the system does meanwhile, is up to whoever runs it. This module gives processes a meaning
that leaves that open: a **runtime** is a relation `rt w s r s'` saying that a process that
starts waiting for `w` in the state `s` may go on with `r` in the state `s'`. The steps of a
process run atomically on the state it finds; other processes and the clock move only while it
waits. `Exec rt p s s' a tr` says that `p`, started in `s`, can finish in `s'` with `a`, its
waits ending as the trace `tr` records.

A theorem that holds for every runtime holds however the scheduler interleaves, whatever the
task source answers and whenever the clock moves; one that needs more names the rules of the
runtime it relies on as hypotheses.

The lemmas below take a run apart along the structure of the process: `exec_bind` splits a
run of `p >>= g` at the end of `p`, and `Exec.loop_invariant` proves what a loop gives from
what each pass of its body keeps. Both rest on the number of constructors a run goes
through (`ExecIn`), which only the proof of `ExecIn.bind` looks at.
-/

namespace DocBatch

namespace Proc

variable {σ : Type}

/-- What a runtime may do with a wait: `rt w s r s'` when a process that starts waiting for
`w` in `s` may be woken with `r` in `s'`. -/
abbrev Runtime (σ : Type) := Wait → σ → Woken → σ → Prop

/-- A wait as a run shows it: what was waited for, how it ended, and the state then. -/
structure Wake (σ : Type) where
  wait : Wait
  woken : Woken
  state : σ

/-- Runs of a process, counted by the constructors they pass through. -/
inductive ExecIn (rt : Runtime σ) : {α : Type} → Nat → Proc σ α → σ → σ → α → List (Wake σ) → Prop
  | done {α : Type} {a : α} {s : σ} : ExecIn rt 0 (.done a) s s a []
  | step {α β : Type} {f : σ → β × σ} {k : β → Proc σ α} {n : Nat} {s s' : σ} {a : α}
      {tr : List (Wake σ)} :
      ExecIn rt n (k (f s).1) (f s).2 s' a tr → ExecIn rt (n + 1) (.step f k) s s' a tr
  | wait {α : Type} {w : Wait} {k : Woken → Proc σ α} {n : Nat} {s s₁ s' : σ} {r : Woken} {a : α}
      {tr : List (Wake σ)} :
      rt w s r s₁ → ExecIn rt n (k r) s₁ s' a tr →
        ExecIn rt (n + 1) (.wait w k) s s' a (⟨w, r, s₁⟩ :: tr)
  | loop {α β γ : Type} {b : β} {body : β → Proc σ (β ⊕ γ)} {k : γ → Proc σ α} {n : Nat}
      {s s' : σ} {a : α} {tr : List (Wake σ)} :
      ExecIn rt n (unroll b body k) s s' a tr → ExecIn rt (n + 1) (.loop b body k) s s' a tr

/-- `p`, started in `s`, can finish in `s'` with `a`, its waits ending as `tr` records. -/
def Exec (rt : Runtime σ) {α : Type} (p : Proc σ α) (s s' : σ) (a : α) (tr : List (Wake σ)) :
    Prop :=
  ∃ n, ExecIn rt n p s s' a tr

/-! ## The monad of processes -/

@[simp] theorem pure_eq {α : Type} (a : α) : (pure a : Proc σ α) = .done a := rfl

@[simp] theorem bind_eq {α β : Type} (p : Proc σ α) (g : α → Proc σ β) : p >>= g = bind p g := rfl

theorem bind_assoc {α β δ : Type} :
    ∀ (p : Proc σ α) (f : α → Proc σ β) (g : β → Proc σ δ),
      bind (bind p f) g = bind p fun a => bind (f a) g
  | .done _, _, _ => rfl
  | .step f k, f', g => by
      simp only [bind]
      congr
      funext b
      exact bind_assoc (k b) f' g
  | .wait w k, f, g => by
      simp only [bind]
      congr
      funext r
      exact bind_assoc (k r) f g
  | .loop b body k, f, g => by
      simp only [bind]
      congr
      funext c
      exact bind_assoc (k c) f g

/-- A pass of a loop whose continuation goes on with `g` is a pass of the loop, then `g`. -/
theorem unroll_bind {α β γ δ : Type} (b : β) (body : β → Proc σ (β ⊕ γ)) (k : γ → Proc σ α)
    (g : α → Proc σ δ) : unroll b body (fun c => bind (k c) g) = bind (unroll b body k) g := by
  simp only [unroll, bind_assoc]
  congr
  funext r
  cases r <;> rfl

/-! ## Taking runs apart -/

variable {rt : Runtime σ}

theorem ExecIn.bind {α β : Type} {g : α → Proc σ β} {p : Proc σ α} {n₁ n₂ : Nat}
    {s s' s'' : σ} {a : α} {c : β} {tr₁ tr₂ : List (Wake σ)}
    (h₁ : ExecIn rt n₁ p s s' a tr₁) (h₂ : ExecIn rt n₂ (g a) s' s'' c tr₂) :
    ExecIn rt (n₁ + n₂) (Proc.bind p g) s s'' c (tr₁ ++ tr₂) := by
  induction h₁ with
  | done => simpa [Proc.bind] using h₂
  | @step β f k n s s' a tr _ ih =>
      have h := ExecIn.step (f := f) (k := fun b => Proc.bind (k b) g) (ih h₂)
      rwa [Nat.add_right_comm] at h
  | @wait w k n s s₁ s' r a tr hw _ ih =>
      have h := ExecIn.wait (k := fun r => Proc.bind (k r) g) hw (ih h₂)
      rwa [Nat.add_right_comm] at h
  | @loop β γ b body k n s s' a tr _ ih =>
      rw [← unroll_bind] at ih
      have h := ExecIn.loop (ih h₂)
      rwa [Nat.add_right_comm] at h

/-- A run of `p >>= g` is a run of `p`, then one of `g` on its result. -/
theorem ExecIn.of_bind {α β : Type} {g : α → Proc σ β} :
    ∀ (n : Nat) (p : Proc σ α) {s s'' : σ} {c : β} {tr : List (Wake σ)},
      ExecIn rt n (Proc.bind p g) s s'' c tr →
        ∃ n₁ n₂ s' a tr₁ tr₂, ExecIn rt n₁ p s s' a tr₁ ∧ ExecIn rt n₂ (g a) s' s'' c tr₂ ∧
          tr = tr₁ ++ tr₂ ∧ n = n₁ + n₂
  | n, .done a, s, _, _, _, h => ⟨0, n, s, a, [], _, .done, h, rfl, by omega⟩
  | _, .step f k, s, _, _, _, h => by
      cases h with
      | step h =>
          obtain ⟨n₁, n₂, s', a, tr₁, tr₂, h₁, h₂, rfl, rfl⟩ := of_bind _ _ h
          exact ⟨n₁ + 1, n₂, s', a, tr₁, tr₂, .step h₁, h₂, rfl, by omega⟩
  | _, .wait w k, s, _, _, _, h => by
      cases h with
      | wait hw h =>
          obtain ⟨n₁, n₂, s', a, tr₁, tr₂, h₁, h₂, rfl, rfl⟩ := of_bind _ _ h
          exact ⟨n₁ + 1, n₂, s', a, _, tr₂, .wait hw h₁, h₂, rfl, by omega⟩
  | _, .loop b body k, s, _, _, _, h => by
      cases h with
      | loop h =>
          rw [unroll_bind] at h
          obtain ⟨n₁, n₂, s', a, tr₁, tr₂, h₁, h₂, rfl, rfl⟩ := of_bind _ _ h
          exact ⟨n₁ + 1, n₂, s', a, tr₁, tr₂, .loop h₁, h₂, rfl, by omega⟩
termination_by n => n
decreasing_by all_goals omega

section
variable {α : Type} {s s' : σ} {a : α} {tr : List (Wake σ)}

@[simp] theorem exec_done (x : α) : Exec rt (.done x) s s' a tr ↔ s' = s ∧ a = x ∧ tr = [] := by
  constructor
  · rintro ⟨n, h⟩
    cases h
    exact ⟨rfl, rfl, rfl⟩
  · rintro ⟨rfl, rfl, rfl⟩
    exact ⟨0, .done⟩

@[simp] theorem exec_step {β : Type} (f : σ → β × σ) (k : β → Proc σ α) :
    Exec rt (.step f k) s s' a tr ↔ Exec rt (k (f s).1) (f s).2 s' a tr := by
  constructor
  · rintro ⟨n, h⟩
    cases h with
    | step h => exact ⟨_, h⟩
  · rintro ⟨n, h⟩
    exact ⟨n + 1, .step h⟩

@[simp] theorem exec_wait (w : Wait) (k : Woken → Proc σ α) :
    Exec rt (.wait w k) s s' a tr ↔
      ∃ r s₁ tr', rt w s r s₁ ∧ Exec rt (k r) s₁ s' a tr' ∧ tr = ⟨w, r, s₁⟩ :: tr' := by
  constructor
  · rintro ⟨n, h⟩
    cases h with
    | wait hw h => exact ⟨_, _, _, hw, ⟨_, h⟩, rfl⟩
  · rintro ⟨r, s₁, tr', hw, ⟨n, h⟩, rfl⟩
    exact ⟨n + 1, .wait hw h⟩

@[simp] theorem exec_loop {β γ : Type} (b : β) (body : β → Proc σ (β ⊕ γ)) (k : γ → Proc σ α) :
    Exec rt (.loop b body k) s s' a tr ↔ Exec rt (unroll b body k) s s' a tr := by
  constructor
  · rintro ⟨n, h⟩
    cases h with
    | loop h => exact ⟨_, h⟩
  · rintro ⟨n, h⟩
    exact ⟨n + 1, .loop h⟩

end

/-- A run of `p >>= g` is a run of `p` followed by a run of `g` on what `p` gave. -/
@[simp] theorem exec_bind {α β : Type} (p : Proc σ α) (g : α → Proc σ β) {s s'' : σ} {c : β}
    {tr : List (Wake σ)} :
    Exec rt (Proc.bind p g) s s'' c tr ↔
      ∃ s' a tr₁ tr₂, Exec rt p s s' a tr₁ ∧ Exec rt (g a) s' s'' c tr₂ ∧ tr = tr₁ ++ tr₂ := by
  constructor
  · rintro ⟨n, h⟩
    obtain ⟨n₁, n₂, s', a, tr₁, tr₂, h₁, h₂, rfl, -⟩ := ExecIn.of_bind n p h
    exact ⟨s', a, tr₁, tr₂, ⟨n₁, h₁⟩, ⟨n₂, h₂⟩, rfl⟩
  · rintro ⟨s', a, tr₁, tr₂, ⟨n₁, h₁⟩, ⟨n₂, h₂⟩, rfl⟩
    exact ⟨_, h₁.bind h₂⟩

/-! ## Loops

A loop keeps an invariant when each pass of its body does: from a state and a trace where the
invariant holds of the value the loop goes on with, a pass ends where it holds of the next
value, or where the loop's outcome has the property wanted of it. The invariant may look at
the trace so far, so that it can count what the waits brought. -/

theorem ExecIn.loop_invariant {α β γ : Type} {body : β → Proc σ (β ⊕ γ)} {k : γ → Proc σ α}
    (I : β → σ → List (Wake σ) → Prop) (J : γ → σ → List (Wake σ) → Prop)
    (hbody : ∀ b s s' r tr pre, I b s pre → Exec rt (body b) s s' r tr →
      Sum.elim (fun b' => I b' s' (pre ++ tr)) (fun c => J c s' (pre ++ tr)) r) :
    ∀ (n : Nat) {b : β} {s s' : σ} {a : α} {tr pre : List (Wake σ)}, I b s pre →
      ExecIn rt n (.loop b body k) s s' a tr →
        ∃ c s₁ tr₁ tr₂, J c s₁ (pre ++ tr₁) ∧ Exec rt (k c) s₁ s' a tr₂ ∧ tr = tr₁ ++ tr₂
  | _, b, s, s', a, tr, pre, hI, h => by
      cases h with
      | loop h =>
        obtain ⟨n₁, n₂, s₁, r, tr₁, tr₂, h₁, h₂, rfl, rfl⟩ := ExecIn.of_bind _ _ h
        have hr := hbody b s s₁ r tr₁ pre hI ⟨n₁, h₁⟩
        cases r with
        | inl b' =>
            obtain ⟨c, s₂, t₁, t₂, hJ, hk, rfl⟩ := loop_invariant I J hbody n₂ hr h₂
            exact ⟨c, s₂, tr₁ ++ t₁, t₂, by simpa [List.append_assoc] using hJ, hk, by simp⟩
        | inr c => exact ⟨c, s₁, tr₁, tr₂, hr, ⟨n₂, h₂⟩, rfl⟩
termination_by n => n
decreasing_by omega

/-- What a loop gives, from what each pass of its body keeps. -/
theorem Exec.loop_invariant {α β γ : Type} {body : β → Proc σ (β ⊕ γ)} {k : γ → Proc σ α}
    (I : β → σ → List (Wake σ) → Prop) (J : γ → σ → List (Wake σ) → Prop)
    (hbody : ∀ b s s' r tr pre, I b s pre → Exec rt (body b) s s' r tr →
      Sum.elim (fun b' => I b' s' (pre ++ tr)) (fun c => J c s' (pre ++ tr)) r)
    {b : β} {s s' : σ} {a : α} {tr : List (Wake σ)} (pre : List (Wake σ)) (hI : I b s pre)
    (h : Exec rt (.loop b body k) s s' a tr) :
    ∃ c s₁ tr₁ tr₂, J c s₁ (pre ++ tr₁) ∧ Exec rt (k c) s₁ s' a tr₂ ∧ tr = tr₁ ++ tr₂ :=
  let ⟨n, h⟩ := h
  ExecIn.loop_invariant I J hbody n hI h

/-! ## Reading, changing and waiting

The primitive processes, each a single step or a single wait. -/

section
variable {α : Type} {s s' : σ} {tr : List (Wake σ)}

@[simp] theorem exec_read {a : σ} : Exec rt Proc.read s s' a tr ↔ s' = s ∧ a = s ∧ tr = [] := by
  simp only [Proc.read, exec_step, exec_done]

@[simp] theorem exec_update (f : σ → σ) {u : Unit} :
    Exec rt (Proc.update f) s s' u tr ↔ s' = f s ∧ tr = [] := by
  simp [Proc.update]

@[simp] theorem exec_await (w : Wait) {r : Woken} :
    Exec rt (Proc.await w) s s' r tr ↔ rt w s r s' ∧ tr = [⟨w, r, s'⟩] := by
  simp only [Proc.await, exec_wait, exec_done]
  constructor
  · rintro ⟨r, s₁, tr', hw, ⟨rfl, rfl, rfl⟩, rfl⟩
    exact ⟨hw, rfl⟩
  · rintro ⟨hw, rfl⟩
    exact ⟨r, s', [], hw, ⟨rfl, rfl, rfl⟩, rfl⟩

end

/-! ## Giving way to the shutdown signal

`unlessShutdown p` runs `p` with every wait racing the shutdown signal. It commutes with
sequencing: under it, `p >>= g` is `p` under it, then `g` under it unless `p` was cut short.
A raced run that gave a result is a run of `p` whose waits the signal did not win
(`unsignalled`), and a run of `p` that never waits is a raced run as it stands. -/

theorem unlessShutdown_bind {α β : Type} :
    ∀ (p : Proc σ α) (g : α → Proc σ β),
      unlessShutdown (bind p g) =
        bind (unlessShutdown p) fun
          | none => .done none
          | some a => unlessShutdown (g a)
  | .done _, _ => rfl
  | .step f k, g => by
      simp only [bind, unlessShutdown]
      congr
      funext b
      exact unlessShutdown_bind (k b) g
  | .wait w k, g => by
      simp only [bind, unlessShutdown]
      congr
      funext r
      cases r <;> simp only [bind] <;> exact unlessShutdown_bind (k _) g
  | .loop b body k, g => by
      simp only [bind, unlessShutdown]
      congr
      funext c
      cases c with
      | none => rfl
      | some c => exact unlessShutdown_bind (k c) g

@[simp] theorem unlessShutdown_done {α : Type} (a : α) :
    unlessShutdown (.done a : Proc σ α) = .done (some a) := rfl

/-- The runtime a process sees when its waits are raced against the shutdown signal and the
signal does not win: a wait ends as the raced wait does, otherwise than by the signal. -/
def unsignalled (rt : Runtime σ) : Runtime σ := fun w s r s' => rt (.orShutdown w) s r s' ∧ r ≠ .shutdown

/-- A loop raced against the signal is a loop whose passes are the passes of the original
loop, raced against the signal. -/
theorem unlessShutdown_loop {α β γ : Type} (b : β) (body : β → Proc σ (β ⊕ γ)) (k : γ → Proc σ α) :
    ∃ (body' : β → Proc σ (β ⊕ Option γ)) (k' : Option γ → Proc σ (Option α)),
      unlessShutdown (.loop b body k) = .loop b body' k' ∧
      ∀ b', unroll b' body' k' = unlessShutdown (unroll b' body k) := by
  refine ⟨_, _, unlessShutdown.eq_4 _ _ b body k, fun b' => ?_⟩
  simp only [unroll, unlessShutdown_bind, bind_assoc]
  congr
  funext r
  rcases r with _ | b'' | c
  · rfl
  · exact (unlessShutdown.eq_4 _ _ b'' body k).symm
  · rfl

/-- A run of a process raced against the signal that the signal did not cut short is a run
of the process under the runtime where the signal does not win. -/
theorem ExecIn.of_unlessShutdown {α : Type} :
    ∀ (n : Nat) (p : Proc σ α) {s s' : σ} {a : α} {tr : List (Wake σ)},
      ExecIn rt n (unlessShutdown p) s s' (some a) tr → ∃ tr', Exec (unsignalled rt) p s s' a tr'
  | _, .done x, s, _, _, _, h => by
      cases h
      exact ⟨[], (exec_done x).2 ⟨rfl, rfl, rfl⟩⟩
  | _, .step f k, s, _, _, _, h => by
      cases h with
      | step h =>
          obtain ⟨tr', h'⟩ := of_unlessShutdown _ _ h
          exact ⟨tr', (exec_step f k).2 h'⟩
  | _, .wait w k, s, _, _, _, h => by
      rw [unlessShutdown.eq_3] at h
      cases h with
      | @wait _ _ _ _ s₁ _ r _ _ hrt h =>
          cases r with
          | shutdown => cases h
          | elapsed =>
              obtain ⟨tr', h'⟩ := of_unlessShutdown _ _ h
              exact ⟨_, (exec_wait w k).2 ⟨_, s₁, tr', ⟨hrt, by simp⟩, h', rfl⟩⟩
          | task t =>
              obtain ⟨tr', h'⟩ := of_unlessShutdown _ _ h
              exact ⟨_, (exec_wait w k).2 ⟨_, s₁, tr', ⟨hrt, by simp⟩, h', rfl⟩⟩
          | closed =>
              obtain ⟨tr', h'⟩ := of_unlessShutdown _ _ h
              exact ⟨_, (exec_wait w k).2 ⟨_, s₁, tr', ⟨hrt, by simp⟩, h', rfl⟩⟩
          | sent =>
              obtain ⟨tr', h'⟩ := of_unlessShutdown _ _ h
              exact ⟨_, (exec_wait w k).2 ⟨_, s₁, tr', ⟨hrt, by simp⟩, h', rfl⟩⟩
  | _, .loop b body k, s, _, _, _, h => by
      obtain ⟨body', k', heq, hunroll⟩ := unlessShutdown_loop b body k
      rw [heq] at h
      cases h with
      | loop h =>
          rw [hunroll] at h
          obtain ⟨tr', h'⟩ := of_unlessShutdown _ _ h
          exact ⟨tr', (exec_loop b body k).2 h'⟩
termination_by n => n
decreasing_by all_goals omega

/-- A run of a process raced against the signal that gave a result is a run of the process,
its waits ended otherwise than by the signal. -/
theorem exec_of_unlessShutdown {α : Type} {p : Proc σ α} {s s' : σ} {a : α} {tr : List (Wake σ)}
    (h : Exec rt (unlessShutdown p) s s' (some a) tr) : ∃ tr', Exec (unsignalled rt) p s s' a tr' :=
  let ⟨n, h⟩ := h
  ExecIn.of_unlessShutdown n p h

/-- A run of a process that never waits is a run of it raced against the signal. -/
theorem ExecIn.unlessShutdown_of_nil {rt' : Runtime σ} {α : Type} :
    ∀ (n : Nat) (p : Proc σ α) {s s' : σ} {a : α},
      ExecIn rt' n p s s' a [] → Exec rt (unlessShutdown p) s s' (some a) []
  | _, .done x, s, _, _, h => by
      cases h
      exact (exec_done _).2 ⟨rfl, rfl, rfl⟩
  | _, .step f k, s, _, _, h => by
      cases h with
      | step h => exact (exec_step f _).2 (unlessShutdown_of_nil _ _ h)
  | _, .wait w k, s, _, _, h => by cases h
  | _, .loop b body k, s, _, _, h => by
      obtain ⟨body', k', heq, hunroll⟩ := unlessShutdown_loop b body k
      rw [heq]
      cases h with
      | loop h =>
          refine (exec_loop b body' k').2 ?_
          rw [hunroll]
          exact unlessShutdown_of_nil _ _ h
termination_by n => n
decreasing_by all_goals omega

/-! ## Runs decided by a function

When a function decides how every wait ends, a process has one run, and `runFor` computes it;
`exec_of_runFor` says that what it computes is a run. -/

/-- The runtime in which `wake` decides how every wait ends, and the state it ends in. -/
def Runtime.ofFun (wake : Wait → σ → Woken × σ) : Runtime σ := fun w s r s' => wake w s = (r, s')

/-- The run of `p` from `s` when `wake` decides every wait, if it passes through at most `fuel`
constructors: its end state, result and trace. -/
def runFor {α : Type} (wake : Wait → σ → Woken × σ) : Nat → Proc σ α → σ → Option (σ × α × List (Wake σ))
  | _, .done a, s => some (s, a, [])
  | 0, _, _ => none
  | n + 1, .step f k, s => runFor wake n (k (f s).1) (f s).2
  | n + 1, .wait w k, s =>
    (runFor wake n (k (wake w s).1) (wake w s).2).map fun (s', a, tr) =>
      (s', a, ⟨w, (wake w s).1, (wake w s).2⟩ :: tr)
  | n + 1, .loop b body k, s => runFor wake n (unroll b body k) s

theorem exec_of_runFor {α : Type} {wake : Wait → σ → Woken × σ} :
    ∀ (n : Nat) {p : Proc σ α} {s s' : σ} {a : α} {tr : List (Wake σ)},
      runFor wake n p s = some (s', a, tr) → Exec (.ofFun wake) p s s' a tr
  | _, .done x, s, s', a, tr, h => by
      simp only [runFor, Option.some.injEq, Prod.mk.injEq] at h
      obtain ⟨rfl, rfl, rfl⟩ := h
      exact (exec_done x).2 ⟨rfl, rfl, rfl⟩
  | 0, .step _ _, _, _, _, _, h | 0, .wait _ _, _, _, _, _, h | 0, .loop _ _ _, _, _, _, _, h => by
      simp [runFor] at h
  | n + 1, .step f k, s, s', a, tr, h => (exec_step f k).2 (exec_of_runFor n h)
  | n + 1, .wait w k, s, s', a, tr, h => by
      simp only [runFor, Option.map_eq_some_iff, Prod.exists, Prod.mk.injEq] at h
      obtain ⟨s₁, a₁, tr₁, h, rfl, rfl, rfl⟩ := h
      exact (exec_wait w k).2 ⟨_, _, tr₁, rfl, exec_of_runFor n h, rfl⟩
  | n + 1, .loop b body k, s, s', a, tr, h => (exec_loop b body k).2 (exec_of_runFor n h)

/-- A computed run that has a property is a run with it. -/
theorem exec_of_runFor_any {α : Type} {wake : Wait → σ → Woken × σ} {n : Nat} {p : Proc σ α}
    {s : σ} {P : σ × α × List (Wake σ) → Bool} (h : (runFor wake n p s).any P = true) :
    ∃ s' a tr, Exec (.ofFun wake) p s s' a tr ∧ P (s', a, tr) = true := by
  obtain ⟨⟨s', a, tr⟩, hrun, hP⟩ := (Option.any_eq_true _ _).1 h
  exact ⟨s', a, tr, exec_of_runFor n hrun, hP⟩

end Proc

namespace Act

variable {ε : Type} {rt : Proc.Runtime (Shared ε)} {s s' : Shared ε} {tr : List (Proc.Wake (Shared ε))}

@[simp] theorem exec_now {n : Nat} : Proc.Exec rt Act.now s s' n tr ↔ s' = s ∧ n = s.now ∧ tr = [] := by
  simpa [Act.now] using and_rotate

@[simp] theorem exec_isShutdown {b : Bool} :
    Proc.Exec rt Act.isShutdown s s' b tr ↔ s' = s ∧ b = s.shutdown ∧ tr = [] := by
  simpa [Act.isShutdown] using and_rotate

@[simp] theorem exec_own {e : ε} : Proc.Exec rt Act.own s s' e tr ↔ s' = s ∧ e = s.rest ∧ tr = [] := by
  simpa [Act.own] using and_rotate

@[simp] theorem exec_modifyOwn {α : Type} (f : ε → α × ε) {a : α} :
    Proc.Exec rt (Act.modifyOwn f) s s' a tr ↔
      s' = { s with rest := (f s.rest).2 } ∧ a = (f s.rest).1 ∧ tr = [] := by
  simp only [Act.modifyOwn, Proc.exec_step, Proc.exec_done]

end Act

end DocBatch
