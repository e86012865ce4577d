import DocBatch.Proofs.Engine.Modes

/-!
# The shutdown signal through a batch

A host stops for good once it has seen the shutdown signal, and it relies on two facts about a
batch run: the run never clears the signal, and it reports a batch as interrupted only when the
signal is set. Neither is up to the engine alone. The signal can change while a process waits,
so the runtime has to keep it once it is set, and give a wait way to the signal only when it is
set (`SignalRules`). Processing code could, as a process, do anything to the shared state, so
the processor has to keep the signal too (`Processor.KeepsSignal`); the single processor and the
default bulk program do.

`Batch.SignalKept` says what one piece of a run does to the signal and to the reason the batch
closed. Every operation of the assembler and the cursor keeps it (`Assembler.tryAdmit_signalKept`,
`Cursor.next_signalKept`), and a batch run with a processor that keeps the signal ends with the
signal set when it started so, and whenever its report says it was interrupted
(`runBatch_signal`).
-/

namespace DocBatch

open Proc

variable {σ ω : Type}

/-- The rules a runtime keeps for the shutdown signal. -/
structure SignalRules (rt : Runtime (Shared (Env σ ω))) : Prop where
  /-- Once set, the signal stays set, however a wait ends. -/
  sticky : ∀ {w s r s'}, rt w s r s' → s.shutdown = true → s'.shutdown = true
  /-- A wait gives way to the signal only when it is set. -/
  shutdown : ∀ {w s s'}, rt (.orShutdown w) s .shutdown s' → s'.shutdown = true

theorem Outside.signalRules (o : Outside) : SignalRules (o.runtime : Runtime (Shared (Env σ ω))) where
  sticky {w s r s'} h hs := by
    have hw := o.wake_shutdown w s hs
    rwa [show o.wake w s = (r, s') from h] at hw
  shutdown {w _ _} h := o.wake_orShutdown_shutdown w h

/-- From the batch `b` in `s` to the batch `b'` in `s'`, the signal was not cleared, and the
batch was closed as interrupted only with the signal set. -/
structure Batch.SignalKept (b b' : Batch) (s s' : Shared (Env σ ω)) : Prop where
  kept : s.shutdown = true → s'.shutdown = true
  interrupted : b'.closeReason = some .interrupted →
    b.closeReason = some .interrupted ∨ s'.shutdown = true

/-- Processing that keeps the signal: from every cursor, it never clears the signal, and it
closes the batch as interrupted only with the signal set. -/
def Processor.KeepsSignal (rt : Runtime (Shared (Env σ ω))) (ctx : Context) (src : Source σ ω)
    (p : Processor σ ω) : Prop :=
  ∀ c s s' r c' tr, Exec rt (Runner.processWith ctx src c p) s s' (r, c') tr →
    Batch.SignalKept c.batch c'.batch s s'

namespace Batch.SignalKept

variable {b₁ b₂ b₃ : Batch} {s₁ s₂ s₃ : Shared (Env σ ω)}

theorem refl (b : Batch) (s : Shared (Env σ ω)) : SignalKept b b s s :=
  ⟨id, .inl⟩

theorem trans (h₁ : SignalKept b₁ b₂ s₁ s₂) (h₂ : SignalKept b₂ b₃ s₂ s₃) :
    SignalKept b₁ b₃ s₁ s₃ where
  kept := h₂.kept ∘ h₁.kept
  interrupted := by
    intro h
    rcases h₂.interrupted h with h | h
    · rcases h₁.interrupted h with h | h
      · exact .inl h
      · exact .inr (h₂.kept h)
    · exact .inr h

/-- A step that keeps the close reason and the signal keeps both. -/
theorem of_eq (hb : b₂.closeReason = b₁.closeReason) (hs : s₂.shutdown = s₁.shutdown) :
    SignalKept b₁ b₂ s₁ s₂ :=
  ⟨fun h => hs.trans h, fun h => .inl (hb ▸ h)⟩

/-- Closing for a reason other than the signal, or with the signal set, keeps both. -/
theorem close {r : CloseReason} (hs : s₂.shutdown = s₁.shutdown)
    (hr : r = .interrupted → s₂.shutdown = true) : SignalKept b₁ (b₁.close r).1 s₁ s₂ where
  kept h := hs.trans h
  interrupted := by
    unfold Batch.close
    split
    · exact .inl
    · intro h
      exact .inr (hr (Option.some.inj h))

end Batch.SignalKept

section
variable {rt : Runtime (Shared (Env σ ω))} {ctx : Context} {s s' : Shared (Env σ ω)}
  {tr : List (Wake (Shared (Env σ ω)))}

/-- A pull from the channel keeps the signal, and gives way to it only when it is set. -/
theorem ChannelPull.signal (hrt : SignalRules rt) {m : Nat} {r : Option (Except Error (Option Task))}
    (h : ChannelPull rt s m r s' tr) :
    (s.shutdown = true → s'.shutdown = true) ∧ (r = none → s'.shutdown = true) := by
  cases h with
  | signalled hsd => exact ⟨id, fun _ => hsd⟩
  | interrupted _ hw => exact ⟨fun _ => hrt.shutdown hw, fun _ => hrt.shutdown hw⟩
  | task _ hw => exact ⟨hrt.sticky hw, fun h => nomatch h⟩
  | empty _ _ hw => exact ⟨hrt.sticky hw, fun h => nomatch h⟩

/-- A refusal on the channel leaves the signal as it is. -/
theorem Assembler.refuse_channel_shutdown {a a' : Assembler} {t : Task} {rf : Refusal}
    (h : Exec rt (a.refuse Source.channel t rf) s s' a' tr) :
    a'.batch.closeReason = a.batch.closeReason ∧ s'.shutdown = s.shutdown := by
  obtain ⟨rfl, s₁, s₂, res, hs₁, hr, hs₂⟩ := Assembler.refuse_exec h
  obtain ⟨rfl, hs, -⟩ := channel_respond_sends hr
  exact ⟨rfl, hs₂.shutdown.trans ((congrArg Shared.shutdown hs).trans hs₁.shutdown)⟩

/-- A pass of the pull loop on the channel keeps the signal. -/
theorem Assembler.pullOnce_signalKept (hrt : SignalRules rt) {a : Assembler} {deadline : Nat}
    {res : Assembler ⊕ (Admission × Assembler)}
    (h : Exec rt (a.pullOnce ctx Source.channel deadline) s s' res tr) :
    Batch.SignalKept a.batch (res.elim Assembler.batch fun r => r.2.batch) s s' := by
  obtain ⟨s₁, r, tr₁, tr₂, hpull, hend, rfl⟩ := Assembler.pullOnce_exec h
  obtain ⟨hkept, hnone⟩ := (Assembler.pullOrShutdown_channel hpull).signal hrt
  have hkp : Batch.SignalKept a.batch a.batch s s₁ := ⟨hkept, .inl⟩
  cases hend with
  | interrupted hs =>
      have hsd := hnone rfl
      exact hkp.trans (.close hs.shutdown fun _ => hs.shutdown.trans hsd)
  | elapsed hs => exact hkp.trans (.close hs.shutdown fun h => nomatch h)
  | failed hs => exact hkp.trans (.close hs.shutdown fun h => nomatch h)
  | admitted _ hs => exact hkp.trans (.of_eq rfl hs.shutdown)
  | refusedLate _ hrf _ hs =>
      obtain ⟨hb, hsd⟩ := Assembler.refuse_channel_shutdown hrf
      exact hkp.trans ((Batch.SignalKept.of_eq hb hsd).trans (.close hs.shutdown fun h => nomatch h))
  | refused _ hrf _ =>
      obtain ⟨hb, hsd⟩ := Assembler.refuse_channel_shutdown hrf
      exact hkp.trans (.of_eq hb hsd)

/-- An attempt to admit on the channel keeps the signal. -/
theorem Assembler.tryAdmit_signalKept (hrt : SignalRules rt) {a a' : Assembler} {adm : Admission}
    (h : Exec rt (a.tryAdmit ctx Source.channel) s s' (adm, a') tr) :
    Batch.SignalKept a.batch a'.batch s s' := by
  cases Assembler.tryAdmit_exec h with
  | full _ hs => exact .close hs.shutdown fun h => nomatch h
  | closed _ _ => exact .refl _ _
  | shutdown _ _ hsd hs => exact .close hs.shutdown fun _ => hs.shutdown.trans hsd
  | pulls _ _ _ h =>
      have hloop := Exec.loop_invariant
        (I := fun b s₂ _ => Batch.SignalKept a.batch b.batch s s₂)
        (J := fun r s₂ _ => Batch.SignalKept a.batch r.2.batch s s₂) ?_ [] (.refl _ _) h
      · obtain ⟨r, s₁, tr₁, tr₂, hJ, hdone, rfl⟩ := hloop
        obtain ⟨rfl, rfl, rfl⟩ := (exec_done _).1 hdone
        exact hJ
      intro b s₁ s₂ r tr pre hI hpass
      have hk := hI.trans (Assembler.pullOnce_signalKept hrt hpass)
      cases r <;> exact hk

namespace Cursor

variable {c c' : Cursor}

/-- Asking the channel's cursor for a document keeps the signal. -/
theorem next_signalKept (hrt : SignalRules rt) {i : Option Nat}
    (h : Exec rt (c.next ctx Source.channel) s s' (i, c') tr) : Batch.SignalKept c.batch c'.batch s s' := by
  rcases Cursor.next_exec h with ⟨rfl, -, ha⟩ | ⟨adm, ha⟩
  · exact .of_eq (by simp [Cursor.batch, ha]) rfl
  · exact Assembler.tryAdmit_signalKept hrt ha

/-- Processing a document keeps the signal. -/
theorem process_signalKept {w : Worker σ ω} {i : Nat} {r : Except TransientError Bool}
    (h : Exec rt (c.process w i) s s' (r, c') tr) : Batch.SignalKept c.batch c'.batch s s' := by
  obtain ⟨-, hs, rfl | ⟨d, rfl⟩⟩ := Cursor.process_exec h
  · exact .of_eq rfl hs.shutdown
  · exact .of_eq rfl hs.shutdown

end Cursor

/-- The single processor keeps the signal. -/
theorem Processor.single_keepsSignal (hrt : SignalRules rt) (w : Worker σ ω) :
    (Processor.single w).KeepsSignal rt ctx Source.channel := by
  intro c s s' r c' tr h
  simp only [Runner.processWith, bind_eq, exec_bind] at h
  obtain ⟨s₁, ⟨i, c₁⟩, tr₁, tr₂, hn, h, rfl⟩ := h
  have h₁ := Cursor.next_signalKept hrt hn
  rcases i with _ | i
  · obtain ⟨rfl, hres, rfl⟩ := (exec_done _).1 h
    cases hres
    exact h₁
  · simp only [exec_bind] at h
    obtain ⟨s₂, ⟨r₂, c₂⟩, tr₃, tr₄, hp, h, rfl⟩ := h
    obtain ⟨rfl, hres, rfl⟩ := (exec_done _).1 h
    cases hres
    exact h₁.trans (Cursor.process_signalKept hp)

/-- The default bulk program keeps the signal. -/
theorem Processor.bulkEach_keepsSignal (hrt : SignalRules rt) (w : Worker σ ω) :
    (Processor.bulkEach w).KeepsSignal rt ctx Source.channel := by
  intro c s s' r c' tr h
  simp only [Runner.processWith, Processor.bulkEach, Processor.eachDocument, bind_eq, exec_bind] at h
  obtain ⟨s₁, ⟨n, c₁⟩, tr₁, tr₂, hd, h, rfl⟩ := h
  obtain ⟨rfl, hres, rfl⟩ := (exec_done _).1 h
  cases hres
  simp only [Cursor.drain, Proc.iterate] at hd
  have hloop := Exec.loop_invariant
    (I := fun b s₂ _ => Batch.SignalKept c.batch b.2.batch s s₂)
    (J := fun b s₂ _ => Batch.SignalKept c.batch b.2.batch s s₂) ?_ [] (.refl _ _) hd
  · obtain ⟨⟨n', c₂⟩, s₃, tr₃, tr₄, hJ, hdone, rfl⟩ := hloop
    obtain ⟨rfl, hres, rfl⟩ := (exec_done _).1 hdone
    cases hres
    exact hJ
  rintro ⟨k, c₂⟩ s₂ s₃ res tr₅ pre hI hpass
  simp only [bind_eq, exec_bind] at hpass
  obtain ⟨s₄, ⟨i, c₃⟩, tr₆, tr₇, hn, hpass, rfl⟩ := hpass
  have h₃ := hI.trans (Cursor.next_signalKept hrt hn)
  rcases i with _ | i
  · obtain ⟨rfl, rfl, rfl⟩ := (exec_done _).1 hpass
    exact h₃
  · simp only [exec_bind] at hpass
    obtain ⟨s₅, ⟨r₅, c₅⟩, tr₈, tr₉, hp, hpass, rfl⟩ := hpass
    have h₅ := h₃.trans (Cursor.process_signalKept hp)
    rcases r₅ with e | _ <;>
    · obtain ⟨rfl, rfl, rfl⟩ := (exec_done _).1 hpass
      exact h₅

/-- A batch run on the channel, with a processor that keeps the signal, never clears the
signal, and ends with it set whenever its report says it was interrupted. -/
theorem runBatch_signal {p : Processor σ ω} (hp : p.KeepsSignal rt ctx Source.channel) {R : Report}
    (h : Exec rt (runBatch ctx Source.channel p) s s' R tr) :
    (s.shutdown = true → s'.shutdown = true) ∧ (R.interrupted = true → s'.shutdown = true) := by
  rw [runBatch_eq] at h
  obtain ⟨_, started, _, tr₀, hnow, h₁, rfl⟩ := (exec_bind _ _).1 h
  obtain ⟨rfl, rfl, rfl⟩ := Act.exec_now.1 hnow
  obtain ⟨s₁, u₁, tr₁, tr₂, ht₁, h₂, rfl⟩ := (exec_bind _ _).1 h₁
  obtain ⟨s₂, u₂, tr₃, tr₄, ht₂, h₃, rfl⟩ := (exec_bind _ _).1 h₂
  obtain ⟨s₃, ⟨res, c⟩, tr₅, tr₆, hproc, hf, rfl⟩ := (exec_bind _ _).1 h₃
  obtain ⟨hs₁, -⟩ := Eng.emit_effectsOnly ht₁
  obtain ⟨hs₂, -⟩ := Eng.emit_effectsOnly ht₂
  have hk := hp _ _ _ _ _ _ hproc
  obtain ⟨-, hs', rfl⟩ := Runner.finish_channel hf
  have hsd : s'.shutdown = s₃.shutdown := by
    have := congrArg Shared.shutdown hs'
    exact this
  refine ⟨fun h => hsd.trans (hk.kept (hs₂.shutdown.trans (hs₁.shutdown.trans h))), fun hi => ?_⟩
  have hreason : c.batch.closeReason = some .interrupted := by simpa using hi
  rcases hk.interrupted hreason with h | h
  · simp at h
  · exact hsd.trans h

end

end DocBatch
