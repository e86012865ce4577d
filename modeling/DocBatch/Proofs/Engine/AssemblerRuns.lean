import DocBatch.Proofs.Engine.Source

/-!
# Runs of an attempt to admit

Each operation of the assembler, run against any runtime and any source, told apart by the
branch it takes. Outside the pulls and answers of the source, a run waits for nothing and
changes the shared state only in the effects of processing (`EffectsOnly`), so everything else
a run does happens in the runs of the source it contains.

`PassEnd` names the ways a pass of the pull loop can end once its pull has answered, and
`AttemptPath` the ways an attempt to admit can go. `pullOnce_exec` and `tryAdmit_exec` take a
run apart into them; the statements about assembly, answers and timing start from these and
never unfold the assembler again.
-/

namespace DocBatch

open Proc

namespace Assembler

variable {σ ω : Type} {rt : Runtime (Shared (Env σ ω))} {ctx : Context} {src : Source σ ω}
  {s s' : Shared (Env σ ω)} {tr : List (Wake (Shared (Env σ ω)))} {a a' : Assembler}

/-! ## The steps around the pulls -/

theorem closeFor_exec {reason : CloseReason} (h : Exec rt (a.closeFor reason) s s' a' tr) :
    a' = { a with batch := (a.batch.close reason).1 } ∧ tr = [] ∧ EffectsOnly s s' := by
  unfold closeFor at h
  rcases hc : a.batch.close reason with ⟨b, e⟩
  rw [hc] at h
  cases e with
  | none =>
      obtain ⟨rfl, rfl, rfl⟩ := (exec_done _).1 h
      exact ⟨rfl, rfl, .refl _⟩
  | some e =>
      simp only [bind_eq, pure_eq, exec_bind, exec_done] at h
      obtain ⟨s₁, u, tr₁, tr₂, he, ⟨rfl, rfl, rfl⟩, rfl⟩ := h
      obtain ⟨hs, rfl⟩ := Eng.emit_effectsOnly he
      exact ⟨rfl, rfl, hs⟩

theorem accept_exec {t : Task} {p : Payload} (h : Exec rt (a.accept t p) s s' a' tr) :
    a' = { a with batch := a.batch.accept s.now a.limits t (Document.ofPayload p) } ∧ tr = [] ∧
      EffectsOnly s s' := by
  simp only [accept, bind_eq, pure_eq, exec_bind, Act.exec_now, exec_done] at h
  obtain ⟨s₁, n, tr₁, tr₂, ⟨rfl, rfl, rfl⟩, ⟨s₂, u, tr₃, tr₄, he, ⟨rfl, rfl, rfl⟩, rfl⟩, rfl⟩ := h
  obtain ⟨hs, rfl⟩ := Eng.emit_effectsOnly he
  exact ⟨rfl, rfl, hs⟩

/-- A refusal is counted and answered through the source; whether the answer got through or
not, the assembler goes on with the refusal counted. -/
theorem refuse_exec {t : Task} {r : Refusal} (h : Exec rt (a.refuse src t r) s s' a' tr) :
    a' = { a with batch := { a.batch with refused := a.batch.refused + 1 } } ∧
      ∃ s₁ s₂ res, EffectsOnly s s₁ ∧ Exec rt (src.respond t r.toResponse) s₁ s₂ res tr ∧
        EffectsOnly s₂ s' := by
  simp only [refuse, bind_eq, pure_eq, exec_bind] at h
  obtain ⟨s₁, u, tr₁, tr₂, he, ⟨s₂, res, tr₃, tr₄, hres, h, rfl⟩, rfl⟩ := h
  obtain ⟨hs₁, rfl⟩ := Eng.emit_effectsOnly he
  rcases res with e | ⟨⟩
  · simp only [exec_bind, exec_done] at h
    obtain ⟨s₃, u, tr₅, tr₆, he', ⟨rfl, rfl, rfl⟩, rfl⟩ := h
    obtain ⟨hs₂, rfl⟩ := Eng.emit_effectsOnly he'
    exact ⟨rfl, s₁, s₂, _, hs₁, by simpa using hres, hs₂⟩
  · obtain ⟨rfl, rfl, rfl⟩ := (exec_done _).1 h
    exact ⟨rfl, s₁, s', _, hs₁, by simpa using hres, .refl _⟩

/-- A pull gives way to a shutdown signal that is already set, without asking the source. -/
theorem pullOrShutdown_exec {m : Nat} {r : Option (Except Error (Option Task))}
    (h : Exec rt (pullOrShutdown src m) s s' r tr) :
    (s.shutdown = true ∧ r = none ∧ s' = s ∧ tr = []) ∨
      (s.shutdown = false ∧ Exec rt (unlessShutdown (src.next m)) s s' r tr) := by
  simp only [pullOrShutdown, bind_eq, pure_eq, exec_bind, Act.exec_isShutdown] at h
  obtain ⟨s₁, b, tr₁, tr₂, ⟨rfl, rfl, rfl⟩, h, rfl⟩ := h
  split at h
  · rename_i hsd
    obtain ⟨rfl, rfl, rfl⟩ := (exec_done _).1 h
    exact .inl ⟨hsd, rfl, rfl, rfl⟩
  · rename_i hsd
    exact .inr ⟨by simpa using hsd, h⟩

/-! ## A pass of the pull loop -/

/-- How a pass of the pull loop ends once its pull answered `r` in the state `s₁`: the state
it ends in, its result, and the waits after the pull. -/
inductive PassEnd (ctx : Context) (src : Source σ ω) (rt : Runtime (Shared (Env σ ω)))
    (deadline : Nat) (a : Assembler) (s₁ : Shared (Env σ ω)) :
    Option (Except Error (Option Task)) → Shared (Env σ ω) → Assembler ⊕ (Admission × Assembler) →
      List (Wake (Shared (Env σ ω))) → Prop
  /-- The shutdown signal came: the batch closes. -/
  | interrupted {s' : Shared (Env σ ω)} : EffectsOnly s₁ s' →
      PassEnd ctx src rt deadline a s₁ none s'
        (.inr (.noMore, { a with batch := (a.batch.close .interrupted).1 })) []
  /-- The pull gave no task: the window is over. -/
  | elapsed {s' : Shared (Env σ ω)} : EffectsOnly s₁ s' →
      PassEnd ctx src rt deadline a s₁ (some (.ok none)) s'
        (.inr (.noMore, { a with batch := (a.batch.close .windowElapsed).1 })) []
  /-- The source failed: the batch closes. -/
  | failed {s' : Shared (Env σ ω)} {e : Error} : EffectsOnly s₁ s' →
      PassEnd ctx src rt deadline a s₁ (some (.error e)) s'
        (.inr (.noMore, { a with batch := (a.batch.close .sourceFailed).1 })) []
  /-- A task that passes its check is admitted, at the time the pull ended. -/
  | admitted {s' : Shared (Env σ ω)} {t : Task} {p : Payload} : t.check ctx.codec = .ok p →
      EffectsOnly s₁ s' →
      PassEnd ctx src rt deadline a s₁ (some (.ok (some t))) s'
        (.inr (.admitted, { a with batch := a.batch.accept s₁.now a.limits t (Document.ofPayload p) })) []
  /-- A refused task is answered and counted; the deadline has passed, so the batch closes. -/
  | refusedLate {s₂ s' : Shared (Env σ ω)} {t : Task} {rf : Refusal} {a₁ : Assembler}
      {tr : List (Wake (Shared (Env σ ω)))} : t.check ctx.codec = .error rf →
      Exec rt (a.refuse src t rf) s₁ s₂ a₁ tr → deadline ≤ s₂.now → EffectsOnly s₂ s' →
      PassEnd ctx src rt deadline a s₁ (some (.ok (some t))) s'
        (.inr (.noMore, { a₁ with batch := (a₁.batch.close .windowElapsed).1 })) tr
  /-- A refused task is answered and counted; the deadline has not passed, so the loop goes
  on. -/
  | refused {s₂ : Shared (Env σ ω)} {t : Task} {rf : Refusal} {a₁ : Assembler}
      {tr : List (Wake (Shared (Env σ ω)))} : t.check ctx.codec = .error rf →
      Exec rt (a.refuse src t rf) s₁ s₂ a₁ tr → s₂.now < deadline →
      PassEnd ctx src rt deadline a s₁ (some (.ok (some t))) s₂ (.inl a₁) tr

/-- A pass reads the clock, pulls until the deadline unless the shutdown signal comes, and ends
as `PassEnd` says. -/
theorem pullOnce_exec {deadline : Nat} {res : Assembler ⊕ (Admission × Assembler)}
    (h : Exec rt (pullOnce ctx src deadline a) s s' res tr) :
    ∃ s₁ r tr₁ tr₂, Exec rt (pullOrShutdown src (deadline - s.now)) s s₁ r tr₁ ∧
      PassEnd ctx src rt deadline a s₁ r s' res tr₂ ∧ tr = tr₁ ++ tr₂ := by
  simp only [pullOnce, bind_eq, exec_bind, Act.exec_now] at h
  obtain ⟨s₁, n, tr₁, tr₂, ⟨rfl, rfl, rfl⟩, ⟨s₂, r, tr₃, tr₄, hpull, h, rfl⟩, rfl⟩ := h
  refine ⟨s₂, r, tr₃, tr₄, hpull, ?_, rfl⟩
  rcases r with _ | (e | _ | t)
  · simp only [pure_eq, exec_bind, exec_done] at h
    obtain ⟨s₃, u, tr₅, tr₆, he, ⟨s₄, a₁, tr₇, tr₈, hc, ⟨rfl, rfl, rfl⟩, rfl⟩, rfl⟩ := h
    obtain ⟨hs₃, rfl⟩ := Eng.emit_effectsOnly he
    obtain ⟨rfl, rfl, hs₄⟩ := closeFor_exec hc
    exact .interrupted (hs₃.trans hs₄)
  · simp only [pure_eq, exec_bind, exec_done] at h
    obtain ⟨s₃, u, tr₅, tr₆, he, ⟨s₄, a₁, tr₇, tr₈, hc, ⟨rfl, rfl, rfl⟩, rfl⟩, rfl⟩ := h
    obtain ⟨hs₃, rfl⟩ := Eng.emit_effectsOnly he
    obtain ⟨rfl, rfl, hs₄⟩ := closeFor_exec hc
    exact .failed (hs₃.trans hs₄)
  · simp only [pure_eq, exec_bind, exec_done] at h
    obtain ⟨s₄, a₁, tr₇, tr₈, hc, ⟨rfl, rfl, rfl⟩, rfl⟩ := h
    obtain ⟨rfl, rfl, hs₄⟩ := closeFor_exec hc
    exact .elapsed hs₄
  · cases hc : t.check ctx.codec with
    | ok p =>
        simp only [hc, pure_eq, exec_bind, exec_done] at h
        obtain ⟨s₄, a₁, tr₇, tr₈, ha, ⟨rfl, rfl, rfl⟩, rfl⟩ := h
        obtain ⟨rfl, rfl, hs₄⟩ := accept_exec ha
        exact .admitted hc hs₄
    | error rf =>
        simp only [hc, pure_eq, exec_bind, Act.exec_now] at h
        obtain ⟨s₃, a₁, tr₅, tr₆, hr, ⟨s₄, n, tr₇, tr₈, ⟨rfl, rfl, rfl⟩, h, rfl⟩, rfl⟩ := h
        split at h
        · simp only [exec_bind, exec_done] at h
          obtain ⟨s₅, a₂, tr₉, tr₁₀, hc', ⟨rfl, rfl, rfl⟩, rfl⟩ := h
          obtain ⟨rfl, rfl, hs₅⟩ := closeFor_exec hc'
          simpa using PassEnd.refusedLate hc hr ‹_› hs₅
        · obtain ⟨rfl, rfl, rfl⟩ := (exec_done _).1 h
          simpa using PassEnd.refused hc hr (by omega)

/-! ## An attempt to admit -/

/-- How an attempt to admit goes from the state `s`: it closes a full batch, leaves a closed
one alone, closes on a shutdown signal that is already set, or runs the pull loop until the
end of the batch's window or, for an empty batch, its time limit from now. -/
inductive AttemptPath (ctx : Context) (src : Source σ ω) (rt : Runtime (Shared (Env σ ω)))
    (a : Assembler) (s : Shared (Env σ ω)) :
    Shared (Env σ ω) → Admission × Assembler → List (Wake (Shared (Env σ ω))) → Prop
  | full {s' : Shared (Env σ ω)} : a.limits.maxSize ≤ a.batch.size → EffectsOnly s s' →
      AttemptPath ctx src rt a s s' (.noMore, { a with batch := (a.batch.close .sizeLimit).1 }) []
  | closed : a.batch.size < a.limits.maxSize → a.batch.closed = true →
      AttemptPath ctx src rt a s s (.noMore, a) []
  | shutdown {s' : Shared (Env σ ω)} : a.batch.size < a.limits.maxSize →
      a.batch.closed = false → s.shutdown = true → EffectsOnly s s' →
      AttemptPath ctx src rt a s s' (.noMore, { a with batch := (a.batch.close .interrupted).1 }) []
  | pulls {s' : Shared (Env σ ω)} {r : Admission × Assembler} {tr : List (Wake (Shared (Env σ ω)))} :
      a.batch.size < a.limits.maxSize → a.batch.closed = false → s.shutdown = false →
      Exec rt (Proc.iterate a (pullOnce ctx src (a.batch.windowEnd.getD (s.now + a.limits.maxTimeMs))))
        s s' r tr →
      AttemptPath ctx src rt a s s' r tr

theorem tryAdmit_exec {r : Admission × Assembler} (h : Exec rt (a.tryAdmit ctx src) s s' r tr) :
    AttemptPath ctx src rt a s s' r tr := by
  unfold tryAdmit at h
  split at h
  · simp only [bind_eq, pure_eq, exec_bind, exec_done] at h
    obtain ⟨s₁, a₁, tr₁, tr₂, hc, ⟨rfl, rfl, rfl⟩, rfl⟩ := h
    obtain ⟨rfl, rfl, hs⟩ := closeFor_exec hc
    exact .full ‹_› hs
  have hroom : a.batch.size < a.limits.maxSize := by omega
  split at h
  · obtain ⟨rfl, rfl, rfl⟩ := (exec_done _).1 h
    exact .closed hroom ‹_›
  have hopen : a.batch.closed = false := by simpa using ‹¬a.batch.closed = true›
  simp only [bind_eq, exec_bind, Act.exec_isShutdown] at h
  obtain ⟨s₁, b, tr₁, tr₂, ⟨rfl, rfl, rfl⟩, h, rfl⟩ := h
  split at h
  · rename_i hsd
    simp only [pure_eq, exec_bind, exec_done] at h
    obtain ⟨s₂, a₁, tr₃, tr₄, hc, ⟨rfl, rfl, rfl⟩, rfl⟩ := h
    obtain ⟨rfl, rfl, hs⟩ := closeFor_exec hc
    exact .shutdown hroom hopen hsd hs
  rename_i hsd
  simp only [exec_bind, Act.exec_now] at h
  obtain ⟨s₂, n, tr₃, tr₄, ⟨rfl, rfl, rfl⟩, h, rfl⟩ := h
  exact .pulls hroom hopen (by simpa using hsd) h

end Assembler

end DocBatch
