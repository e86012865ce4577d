import Mathlib.Order.RelClasses
import Mathlib.Logic.Relation
import DocBatch.Proofs.Process.Exec

/-!
# Processes that terminate

`Exec` describes the runs of a process that finish; it says nothing of runs that go on
forever. Here a process is read move by move: a **move** is one step, one wait that the
runtime ends, or the start of a pass of a loop. A process **terminates** when every sequence
of moves from it is finite: it is accessible for the converse of the move relation, so no way
the runtime answers its waits keeps it running forever.

A runtime may bring tasks as often as it likes, and a process that pulls tasks in a loop runs as
long as they come. The moves therefore carry the number of tasks the runtime may still bring: a
wait that ends with a task spends one, and none can end so when none is left. Terminating from
`s` with `n` tasks to come is the statement for a world that sends finitely many tasks; every
other answer of the runtime, and when it comes, stays free.

Termination is built along the structure of a process: `Terminates.bind` from a terminating
process and terminating continuations of its finished runs, `Terminates.loop` from a measure
that every pass of the body that goes on makes smaller. Both count the tasks a finished run
took (`tasks`) off the number still to come. A process without loops (`LoopFree`) terminates
outright. Termination is not only the absence of infinite runs: against a runtime that can
always end a wait without a task, a terminating process has a finished run
(`Terminates.exists_exec`).

A measure need not be a number: `Terminates.loop_wellFounded` takes one in any well-founded
order, such as time left and then work left. Racing the shutdown signal only cuts runs short,
so a raced process terminates when it does under the runtime where the signal never wins
(`Terminates.unlessShutdown`). The converse tool shows that a process goes on forever: a
finished run is a sequence of moves (`ExecIn.moves_bind`), and a process whose moves lead from
every configuration of a family back into the family does not terminate from any of them
(`not_terminates_of_recurs`); in particular a loop does not, when a pass from any state of a
family goes on in the family (`not_terminates_loop`).
-/

namespace DocBatch

/-- Whether a wait ended with a task. -/
def Woken.isTask : Woken → Bool
  | .task _ => true
  | _ => false

namespace Proc

variable {σ : Type}

/-- The number of waits of a trace that ended with a task. -/
def tasks (tr : List (Wake σ)) : Nat := tr.countP (·.woken.isTask)

@[simp] theorem tasks_nil : tasks ([] : List (Wake σ)) = 0 := rfl

@[simp] theorem tasks_cons (w : Wake σ) (tr : List (Wake σ)) :
    tasks (w :: tr) = tasks tr + if w.woken.isTask then 1 else 0 := by
  cases h : w.woken.isTask <;> simp [tasks, h]

@[simp] theorem tasks_append (tr₁ tr₂ : List (Wake σ)) :
    tasks (tr₁ ++ tr₂) = tasks tr₁ + tasks tr₂ :=
  List.countP_append

/-- One move of a process in a state, with the number of tasks the runtime may still bring: a
step, a wait the runtime ends (with a task only while one may still come), or the start of a
pass of a loop. -/
inductive Move (rt : Runtime σ) {α : Type} : Proc σ α × σ × Nat → Proc σ α × σ × Nat → Prop
  | step {β : Type} {f : σ → β × σ} {k : β → Proc σ α} {s : σ} {n : Nat} :
      Move rt (.step f k, s, n) (k (f s).1, (f s).2, n)
  | wait {w : Wait} {k : Woken → Proc σ α} {s s' : σ} {r : Woken} {n : Nat} :
      rt w s r s' → r.isTask = false → Move rt (.wait w k, s, n) (k r, s', n)
  | task {w : Wait} {k : Woken → Proc σ α} {s s' : σ} {t : Task} {n : Nat} :
      rt w s (.task t) s' → Move rt (.wait w k, s, n + 1) (k (.task t), s', n)
  | loop {β γ : Type} {b : β} {body : β → Proc σ (β ⊕ γ)} {k : γ → Proc σ α} {s : σ} {n : Nat} :
      Move rt (.loop b body k, s, n) (unroll b body k, s, n)

/-- Every sequence of moves of `p` from `s`, with at most `n` more tasks to come, is finite. -/
def Terminates (rt : Runtime σ) {α : Type} (p : Proc σ α) (s : σ) (n : Nat) : Prop :=
  Acc (fun c c' => Move rt c' c) (p, s, n)

variable {rt : Runtime σ} {α β : Type}

namespace Terminates

theorem done (a : α) (s : σ) (n : Nat) : Terminates rt (.done a) s n :=
  ⟨_, fun _ h => nomatch h⟩

theorem step {f : σ → β × σ} {k : β → Proc σ α} {s : σ} {n : Nat}
    (h : Terminates rt (k (f s).1) (f s).2 n) : Terminates rt (.step f k) s n := by
  refine ⟨_, fun c hmove => ?_⟩
  cases hmove
  exact h

/-- A wait terminates when what follows does, however the runtime ends it: with a task only
while one may still come, and then with one fewer to come. -/
theorem wait {w : Wait} {k : Woken → Proc σ α} {s : σ} {n : Nat}
    (hw : ∀ r s', rt w s r s' → r.isTask = false → Terminates rt (k r) s' n)
    (ht : ∀ t s' m, n = m + 1 → rt w s (.task t) s' → Terminates rt (k (.task t)) s' m) :
    Terminates rt (.wait w k) s n := by
  refine ⟨_, fun c hmove => ?_⟩
  cases hmove with
  | wait hrt hnt => exact hw _ _ hrt hnt
  | task hrt => exact ht _ _ _ rfl hrt

/-- `bind` over the configurations of `p`: every configuration that `p` moves through, run
under `g`, terminates, as long as `g` terminates after every finished run of `p`. -/
theorem bind_of_acc {g : α → Proc σ β} :
    ∀ c : Proc σ α × σ × Nat, Acc (fun c c' => Move rt c' c) c →
      (∀ s' a tr m, Exec rt c.1 c.2.1 s' a tr → c.2.2 = m + tasks tr → Terminates rt (g a) s' m) →
      Terminates rt (Proc.bind c.1 g) c.2.1 c.2.2 := by
  intro c hc
  induction hc with
  | intro c _ ih =>
    obtain ⟨p, s, n⟩ := c
    intro hg
    cases p with
    | done a => exact hg s a [] n ((exec_done a).2 ⟨rfl, rfl, rfl⟩) rfl
    | step f k =>
        refine ⟨_, fun c' hmove => ?_⟩
        cases hmove
        exact ih _ .step fun s' a tr m h hm => hg s' a tr m ((exec_step f k).2 h) hm
    | wait w k =>
        refine ⟨_, fun c' hmove => ?_⟩
        cases hmove with
        | @wait _ _ _ s₁ r _ hrt hnt =>
            refine ih _ (.wait hrt hnt) fun s' a tr m h hm => hg s' a (⟨w, r, s₁⟩ :: tr) m ?_ ?_
            · exact (exec_wait w k).2 ⟨r, s₁, tr, hrt, h, rfl⟩
            · simpa [hnt] using hm
        | @task _ _ _ s₁ t n hrt =>
            refine ih _ (.task hrt) fun s' a tr m h hm => hg s' a (⟨w, .task t, s₁⟩ :: tr) m ?_ ?_
            · exact (exec_wait w k).2 ⟨.task t, s₁, tr, hrt, h, rfl⟩
            · show n + 1 = m + tasks (_ :: tr)
              have hm : n = m + tasks tr := hm
              simp only [tasks_cons, Woken.isTask, ↓reduceIte]
              omega
    | loop b body k =>
        refine ⟨_, fun c' hmove => ?_⟩
        cases hmove
        rw [unroll_bind]
        exact ih _ .loop fun s' a tr m h hm => hg s' a tr m ((exec_loop b body k).2 h) hm

/-- `p >>= g` terminates when `p` does and `g` does after every finished run of `p`, with the
tasks that run took spent. -/
theorem bind {p : Proc σ α} {g : α → Proc σ β} {s : σ} {n : Nat} (hp : Terminates rt p s n)
    (hg : ∀ s' a tr m, Exec rt p s s' a tr → n = m + tasks tr → Terminates rt (g a) s' m) :
    Terminates rt (Proc.bind p g) s n :=
  bind_of_acc (p, s, n) hp hg

/-- A loop terminates when its body does from every state where the invariant `I` holds, and
every pass that goes on keeps `I` and makes the measure `μ`, taken in a well-founded order,
smaller. -/
theorem loop_wellFounded {τ : Type} [LT τ] [WellFoundedLT τ] {γ : Type}
    {body : β → Proc σ (β ⊕ γ)} {k : γ → Proc σ α}
    (I : β → σ → Nat → Prop) (μ : β → σ → Nat → τ)
    (hbody : ∀ b s n, I b s n → Terminates rt (body b) s n)
    (hnext : ∀ b s n b' s' tr m, I b s n → Exec rt (body b) s s' (.inl b') tr → n = m + tasks tr →
      I b' s' m ∧ μ b' s' m < μ b s n)
    (hdone : ∀ b s n c s' tr m, I b s n → Exec rt (body b) s s' (.inr c) tr → n = m + tasks tr →
      Terminates rt (k c) s' m) :
    ∀ b s n, I b s n → Terminates rt (.loop b body k) s n := by
  suffices h : ∀ x b s n, μ b s n = x → I b s n → Terminates rt (.loop b body k) s n from
    fun b s n => h _ b s n rfl
  intro x
  induction x using WellFoundedLT.induction with
  | _ x ih =>
    intro b s n hx hI
    refine ⟨_, fun c hmove => ?_⟩
    cases hmove
    refine bind (hbody b s n hI) fun s' r tr m h hm => ?_
    cases r with
    | inl b' =>
        obtain ⟨hI', hlt⟩ := hnext b s n b' s' tr m hI h hm
        exact ih _ (hx ▸ hlt) b' s' m rfl hI'
    | inr c => exact hdone b s n c s' tr m hI h hm

/-- A loop terminates when its body does from every state where the invariant `I` holds, and
every pass that goes on keeps `I` and makes the measure `μ` smaller. -/
theorem loop {γ : Type} {body : β → Proc σ (β ⊕ γ)} {k : γ → Proc σ α}
    (I : β → σ → Nat → Prop) (μ : β → σ → Nat → Nat)
    (hbody : ∀ b s n, I b s n → Terminates rt (body b) s n)
    (hnext : ∀ b s n b' s' tr m, I b s n → Exec rt (body b) s s' (.inl b') tr → n = m + tasks tr →
      I b' s' m ∧ μ b' s' m < μ b s n)
    (hdone : ∀ b s n c s' tr m, I b s n → Exec rt (body b) s s' (.inr c) tr → n = m + tasks tr →
      Terminates rt (k c) s' m) :
    ∀ b s n, I b s n → Terminates rt (.loop b body k) s n :=
  loop_wellFounded I μ hbody hnext hdone

/-- Against a runtime that can end every wait without a task, a terminating process has a run
to its end, taking at most the tasks still to come. -/
theorem exists_exec (hlive : ∀ w s, ∃ r s', rt w s r s' ∧ r.isTask = false) {p : Proc σ α}
    {s : σ} {n : Nat} (h : Terminates rt p s n) : ∃ s' a tr, Exec rt p s s' a tr ∧ tasks tr ≤ n := by
  suffices hc : ∀ c : Proc σ α × σ × Nat, Acc (fun c c' => Move rt c' c) c →
      ∃ s' a tr, Exec rt c.1 c.2.1 s' a tr ∧ tasks tr ≤ c.2.2 from hc _ h
  intro c hc
  induction hc with
  | intro c _ ih =>
    obtain ⟨p, s, n⟩ := c
    cases p with
    | done a => exact ⟨s, a, [], (exec_done a).2 ⟨rfl, rfl, rfl⟩, Nat.zero_le n⟩
    | step f k =>
        obtain ⟨s', a, tr, h, hn⟩ := ih _ .step
        exact ⟨s', a, tr, (exec_step f k).2 h, hn⟩
    | wait w k =>
        obtain ⟨r, s₁, hrt, hnt⟩ := hlive w s
        obtain ⟨s', a, tr, h, hn⟩ := ih _ (.wait hrt hnt)
        exact ⟨s', a, ⟨w, r, s₁⟩ :: tr, (exec_wait w k).2 ⟨r, s₁, tr, hrt, h, rfl⟩, by simpa [hnt] using hn⟩
    | loop b body k =>
        obtain ⟨s', a, tr, h, hn⟩ := ih _ .loop
        exact ⟨s', a, tr, (exec_loop b body k).2 h, hn⟩

end Terminates

/-- A process that never loops: it takes steps and waits, finitely often on every path. -/
inductive LoopFree : {α : Type} → Proc σ α → Prop
  | done {α : Type} {a : α} : LoopFree (.done a)
  | step {α β : Type} {f : σ → β × σ} {k : β → Proc σ α} : (∀ b, LoopFree (k b)) → LoopFree (.step f k)
  | wait {α : Type} {w : Wait} {k : Woken → Proc σ α} : (∀ r, LoopFree (k r)) → LoopFree (.wait w k)

namespace LoopFree

theorem bind {p : Proc σ α} {g : α → Proc σ β} (hp : LoopFree p) (hg : ∀ a, LoopFree (g a)) :
    LoopFree (Proc.bind p g) := by
  induction hp with
  | done => exact hg _
  | step _ ih => exact .step ih
  | wait _ ih => exact .wait ih

/-- A process without loops terminates, whatever the runtime and however many tasks come. -/
theorem terminates {p : Proc σ α} (hp : LoopFree p) (s : σ) (n : Nat) : Terminates rt p s n := by
  induction hp generalizing s n with
  | done => exact .done _ s n
  | step _ ih => exact .step (ih _ _ _)
  | wait _ ih => exact .wait (fun r s' _ _ => ih r s' n) fun t s' m _ _ => ih _ s' m

end LoopFree

/-! ## Races and runs that never end -/

namespace Terminates

/-- Racing against the signal only cuts runs short: a process raced against the signal
terminates when the process does under the runtime where the signal does not win. -/
theorem unlessShutdown {p : Proc σ α} {s : σ} {n : Nat} (h : Terminates (unsignalled rt) p s n) :
    Terminates rt (Proc.unlessShutdown p) s n := by
  suffices hc : ∀ c : Proc σ α × σ × Nat, Acc (fun c c' => Move (unsignalled rt) c' c) c →
      Terminates rt (Proc.unlessShutdown c.1) c.2.1 c.2.2 from hc _ h
  intro c hc
  induction hc with
  | intro c _ ih =>
    obtain ⟨p, s, n⟩ := c
    cases p with
    | done a => exact .done _ s n
    | step f k => exact .step (ih _ .step)
    | wait w k =>
        rw [Proc.unlessShutdown.eq_3]
        refine .wait (fun r s' hrt hnt => ?_) fun t s' m hn hrt => ?_
        · cases r with
          | shutdown => exact .done _ s' n
          | elapsed => exact ih _ (.wait ⟨hrt, by simp⟩ hnt)
          | task t => exact ih _ (.wait ⟨hrt, by simp⟩ hnt)
          | closed => exact ih _ (.wait ⟨hrt, by simp⟩ hnt)
          | sent => exact ih _ (.wait ⟨hrt, by simp⟩ hnt)
        · subst hn
          exact ih _ (.task ⟨hrt, by simp⟩)
    | loop b body k =>
        obtain ⟨body', k', heq, hunroll⟩ := unlessShutdown_loop b body k
        rw [heq]
        refine ⟨_, fun c hmove => ?_⟩
        cases hmove
        rw [hunroll]
        exact ih _ .loop

/-- Terminating from a configuration, a process terminates from every configuration its moves
lead to. -/
theorem of_moves {p : Proc σ α} {s : σ} {n : Nat} (h : Terminates rt p s n) {c : Proc σ α × σ × Nat}
    (hc : Relation.ReflTransGen (Move rt) (p, s, n) c) : Acc (fun c c' => Move rt c' c) c := by
  induction hc with
  | refl => exact h
  | tail _ hmove ih => exact ih.inv hmove

end Terminates

/-- A finished run of `p` is a sequence of moves of `p >>= g` to `g` on its result, spending the
tasks the run took. -/
theorem ExecIn.moves_bind {g : α → Proc σ β} {i : Nat} {p : Proc σ α} {s s' : σ} {a : α}
    {tr : List (Wake σ)} (h : ExecIn rt i p s s' a tr) (m : Nat) :
    Relation.ReflTransGen (Move rt) (Proc.bind p g, s, m + tasks tr) (g a, s', m) := by
  induction h generalizing m with
  | done => exact .refl
  | step _ ih => exact .head .step (ih m)
  | @wait w k _ s s₁ s' r a tr hw _ ih =>
      cases hr : r.isTask with
      | false =>
          have hm : m + tasks (⟨w, r, s₁⟩ :: tr) = m + tasks tr := by simp [hr]
          rw [hm]
          exact .head (.wait hw hr) (ih m)
      | true =>
          cases r with
          | task t =>
              have hm : m + tasks (⟨w, .task t, s₁⟩ :: tr) = m + tasks tr + 1 := by
                simp [Woken.isTask]; omega
              rw [hm]
              exact .head (.task hw) (ih m)
          | _ => cases hr
  | @loop β' γ b body k _ s s' a tr _ ih =>
      refine .head .loop ?_
      rw [unroll_bind]
      exact ih m

/-- A finished run of `p` leaves `p >>= g` terminating no more than `g` on its result. -/
theorem Terminates.of_exec_bind {g : α → Proc σ β} {p : Proc σ α} {s s' : σ} {a : α}
    {tr : List (Wake σ)} {m : Nat} (hg : Terminates rt (Proc.bind p g) s (m + tasks tr))
    (h : Exec rt p s s' a tr) : Terminates rt (g a) s' m :=
  let ⟨_, h⟩ := h
  hg.of_moves (h.moves_bind m)

/-- A process does not terminate from a configuration of a family when, from every
configuration of the family, its moves lead to one of the family again. -/
theorem not_terminates_of_recurs (S : Proc σ α × σ × Nat → Prop)
    (hS : ∀ c, S c → ∃ c', S c' ∧ Relation.TransGen (Move rt) c c') {p : Proc σ α} {s : σ}
    {n : Nat} (h : S (p, s, n)) : ¬ Terminates rt p s n := by
  intro hterm
  suffices hc : ∀ c, Acc (Relation.TransGen fun c c' => Move rt c' c) c → ¬ S c from
    hc _ hterm.transGen h
  intro c hacc
  induction hacc with
  | intro c _ ih =>
    intro hc
    obtain ⟨c', hc', hmove⟩ := hS c hc
    exact ih c' (Relation.transGen_swap.mpr hmove) hc'

/-- A loop does not terminate from a state of a family when, from every state of the family, a
pass of its body that brings no task goes on from a state of the family. -/
theorem not_terminates_loop {γ : Type} {body : β → Proc σ (β ⊕ γ)} {k : γ → Proc σ α}
    (P : β → σ → Prop)
    (hpass : ∀ b s, P b s → ∃ b' s' tr, Exec rt (body b) s s' (.inl b') tr ∧ tasks tr = 0 ∧ P b' s')
    {b : β} {s : σ} (h : P b s) (n : Nat) : ¬ Terminates rt (.loop b body k) s n := by
  refine not_terminates_of_recurs (fun c => ∃ b s, c = (.loop b body k, s, n) ∧ P b s) ?_ ⟨b, s, rfl, h⟩
  rintro _ ⟨b, s, rfl, hP⟩
  obtain ⟨b', s', tr, ⟨i, hrun⟩, htasks, hP'⟩ := hpass b s hP
  have hmoves : Relation.ReflTransGen (Move rt) (unroll b body k, s, n + tasks tr)
      (.loop b' body k, s', n) := hrun.moves_bind n
  rw [htasks, Nat.add_zero] at hmoves
  exact ⟨_, ⟨b', s', rfl, hP'⟩, .head' .loop hmoves⟩

end Proc

end DocBatch
