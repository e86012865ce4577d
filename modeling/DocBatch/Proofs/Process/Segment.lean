import DocBatch.Proofs.Process.Exec

/-!
# Between two waits

A process runs alone from one wait to the next: the steps in between are atomic to everyone
else. This module names that stretch of a run and bounds what it may do.

* `Segment p s q s'`: started in `s`, `p` runs its steps and stands at `q`, a wait or its end,
  in `s'`. A segment followed by a run of `q` is a run of `p` (`Segment.exec`), so runs can be
  cut at every wait and put together again.
* `Guarded G p`: every step that `p` may ever take changes the state only as `G` allows.
  Sequencing, loops and the race against the shutdown signal keep it, so a program built from
  guarded parts is guarded; a segment of a guarded process moves the state along `G` and leaves
  a guarded process (`Segment.guarded`).
* `OwnOnly s s'`: the clock, the signal and the channel of `s'` are those of `s`. A process
  whose steps are all of that kind leaves the channel to the waits.
-/

namespace DocBatch

namespace Proc

variable {σ : Type}

/-! ## Guarded processes -/

/-- Every step that `p` may take, wherever it comes in a run, changes the state only as `G`
allows. -/
inductive Guarded (G : σ → σ → Prop) : {α : Type} → Proc σ α → Prop
  | done {α : Type} (a : α) : Guarded G (.done a)
  | step {α β : Type} {f : σ → β × σ} {k : β → Proc σ α} :
      (∀ s, G s (f s).2) → (∀ b, Guarded G (k b)) → Guarded G (.step f k)
  | wait {α : Type} {w : Wait} {k : Woken → Proc σ α} :
      (∀ r, Guarded G (k r)) → Guarded G (.wait w k)
  | loop {α β γ : Type} {b : β} {body : β → Proc σ (β ⊕ γ)} {k : γ → Proc σ α} :
      (∀ b, Guarded G (body b)) → (∀ c, Guarded G (k c)) → Guarded G (.loop b body k)

namespace Guarded

variable {G : σ → σ → Prop}

theorem bind {α β : Type} {p : Proc σ α} {g : α → Proc σ β} (hp : Guarded G p)
    (hg : ∀ a, Guarded G (g a)) : Guarded G (p.bind g) := by
  induction hp with
  | done a => exact hg a
  | step hf _ ih => exact .step hf fun b => ih b hg
  | wait _ ih => exact .wait fun r => ih r hg
  | loop hbody _ _ ih => exact .loop hbody fun c => ih c hg

theorem step_inv {α β : Type} {f : σ → β × σ} {k : β → Proc σ α} (h : Guarded G (.step f k)) :
    (∀ s, G s (f s).2) ∧ ∀ b, Guarded G (k b) := by
  cases h with
  | step hf hk => exact ⟨hf, hk⟩

theorem wait_inv {α : Type} {w : Wait} {k : Woken → Proc σ α} (h : Guarded G (.wait w k)) :
    ∀ r, Guarded G (k r) := by
  cases h with
  | wait hk => exact hk

/-- A pass of a guarded loop is guarded. -/
theorem unroll {α β γ : Type} {b : β} {body : β → Proc σ (β ⊕ γ)} {k : γ → Proc σ α}
    (h : Guarded G (.loop b body k)) : Guarded G (Proc.unroll b body k) := by
  cases h with
  | loop hbody hk =>
    refine (hbody b).bind fun r => ?_
    cases r with
    | inl b' => exact .loop hbody hk
    | inr c => exact hk c

theorem iterate {β γ : Type} {b : β} {body : β → Proc σ (β ⊕ γ)} (h : ∀ b, Guarded G (body b)) :
    Guarded G (Proc.iterate b body) :=
  .loop h .done

theorem await (w : Wait) : Guarded G (Proc.await w) :=
  .wait .done

theorem read (hG : ∀ s, G s s) : Guarded G (Proc.read : Proc σ σ) :=
  .step hG .done

/-- Racing every wait against the signal adds no step. -/
theorem unlessShutdown {α : Type} {p : Proc σ α} (hp : Guarded G p) :
    Guarded G (Proc.unlessShutdown p) := by
  induction hp with
  | done a => exact .done _
  | step hf _ ih => exact .step hf ih
  | wait _ ih =>
      simp only [Proc.unlessShutdown]
      refine .wait fun r => ?_
      cases r with
      | shutdown => exact .done _
      | _ => exact ih _
  | loop _ _ ihbody ihk =>
      simp only [Proc.unlessShutdown]
      refine .loop (fun b => (ihbody b).bind fun r => ?_) fun c => ?_
      · rcases r with _ | _ | _ <;> exact .done _
      · cases c with
        | none => exact .done _
        | some c => exact ihk c

end Guarded

/-! ## Segments -/

/-- Started in `s`, `p` runs its steps up to its next wait, or its end, and stands as `q` in
`s'`. -/
inductive Segment {α : Type} : Proc σ α → σ → Proc σ α → σ → Prop
  | done (a : α) (s : σ) : Segment (.done a) s (.done a) s
  | wait (w : Wait) (k : Woken → Proc σ α) (s : σ) : Segment (.wait w k) s (.wait w k) s
  | step {β : Type} {f : σ → β × σ} {k : β → Proc σ α} {s : σ} {q : Proc σ α} {s' : σ} :
      Segment (k (f s).1) (f s).2 q s' → Segment (.step f k) s q s'
  | loop {β γ : Type} {b : β} {body : β → Proc σ (β ⊕ γ)} {k : γ → Proc σ α} {s : σ}
      {q : Proc σ α} {s' : σ} :
      Segment (unroll b body k) s q s' → Segment (.loop b body k) s q s'

namespace Segment

variable {α : Type} {p q : Proc σ α} {s s' : σ}

/-- A segment, then a run from where it stopped, is a run. -/
theorem exec {rt : Runtime σ} {s'' : σ} {a : α} {tr : List (Wake σ)} (h : Segment p s q s')
    (hq : Exec rt q s' s'' a tr) : Exec rt p s s'' a tr := by
  induction h with
  | done => exact hq
  | wait => exact hq
  | step _ ih => exact (exec_step _ _).2 (ih hq)
  | loop _ ih => exact (exec_loop _ _ _).2 (ih hq)

/-- A segment of a guarded process moves the state along `G`, when `G` is a preorder, and
leaves a guarded process. -/
theorem guarded {G : σ → σ → Prop} (hrefl : ∀ s, G s s)
    (htrans : ∀ s₁ s₂ s₃, G s₁ s₂ → G s₂ s₃ → G s₁ s₃) (h : Segment p s q s') (hp : Guarded G p) : G s s' ∧ Guarded G q := by
  induction h with
  | done a s => exact ⟨hrefl s, hp⟩
  | wait w k s => exact ⟨hrefl s, hp⟩
  | @step β f k s q s' _ ih =>
      obtain ⟨hf, hk⟩ := hp.step_inv
      obtain ⟨hs, hq⟩ := ih (hk _)
      exact ⟨htrans _ _ _ (hf s) hs, hq⟩
  | loop _ ih => exact ih hp.unroll

/-- The segment of `p` from `s`, if it passes through at most `fuel` steps and loops: where it
stands at its next wait or its end, and the state then. -/
def segmentFor {α : Type} : Nat → Proc σ α → σ → Option (Proc σ α × σ)
  | _, .done a, s => some (.done a, s)
  | _, .wait w k, s => some (.wait w k, s)
  | 0, _, _ => none
  | n + 1, .step f k, s => segmentFor n (k (f s).1) (f s).2
  | n + 1, .loop b body k, s => segmentFor n (unroll b body k) s

theorem of_segmentFor {α : Type} :
    ∀ (n : Nat) {p q : Proc σ α} {s s' : σ}, segmentFor n p s = some (q, s') → Segment p s q s'
  | _, .done a, q, s, s', h => by
      simp only [segmentFor, Option.some.injEq, Prod.mk.injEq] at h
      obtain ⟨rfl, rfl⟩ := h
      exact .done a s
  | _, .wait w k, q, s, s', h => by
      simp only [segmentFor, Option.some.injEq, Prod.mk.injEq] at h
      obtain ⟨rfl, rfl⟩ := h
      exact .wait w k s
  | 0, .step _ _, _, _, _, h | 0, .loop _ _ _, _, _, _, h => nomatch h
  | n + 1, .step f k, q, s, s', h => .step (of_segmentFor n h)
  | n + 1, .loop b body k, q, s, s', h => .loop (of_segmentFor n h)

end Segment

end Proc

/-! ## Steps that keep to the processes' own part -/

variable {ε : Type}

/-- `s'` differs from `s` at most in the processes' own part: the clock, the signal and the
channel are as they were. -/
structure OwnOnly (s s' : Shared ε) : Prop where
  now : s'.now = s.now
  shutdown : s'.shutdown = s.shutdown
  inbox : s'.inbox = s.inbox
  capacity : s'.capacity = s.capacity
  closed : s'.closed = s.closed

namespace OwnOnly

theorem refl (s : Shared ε) : OwnOnly s s := ⟨rfl, rfl, rfl, rfl, rfl⟩

theorem trans (s₁ s₂ s₃ : Shared ε) (h₁ : OwnOnly s₁ s₂) (h₂ : OwnOnly s₂ s₃) :
    OwnOnly s₁ s₃ :=
  ⟨h₂.now.trans h₁.now, h₂.shutdown.trans h₁.shutdown, h₂.inbox.trans h₁.inbox,
    h₂.capacity.trans h₁.capacity, h₂.closed.trans h₁.closed⟩

end OwnOnly

end DocBatch
