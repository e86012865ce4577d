import DocBatch.Proofs.Engine.Answers

/-!
# When an attempt to admit returns

An attempt to admit waits on the channel until a deadline fixed when it starts: the end of the
batch's window when the batch has one, else the time limit from the moment the attempt starts
(`Assembler.deadline`). It reads the deadline once; refused tasks are answered and the pull
starts again with the same deadline.

## What the runtime is assumed to do

When a wait ends is up to the runtime. The statements here assume only the rules that a
runtime with time-outs keeps for a pull from the channel raced against the shutdown signal
(`TimeoutRules`): the clock does not go back; a pull ends by its deadline, or at once when it
starts after it, and then it can give only the task already queued (a zero time-out still
looks at the channel once); it gives up only at its deadline, finds the channel exhausted only
when no sender is left and nothing is queued, and gives way to the signal only when the signal
is set. Nothing is assumed of when tasks arrive or when the signal comes.

## What is proved

`tryAdmit_timely`: every attempt from the assembler `a`, started at time `t₀` with deadline
`D`, returns at once, without a pull, when the batch is full or closed or the signal is set;
and in every case (`Timely`)

* it returns, and takes every task it takes, no later than `max t₀ D`;
* it admits after the end of the window only when it started after it, and then only the task
  that was queued when it started, as the one task it pulls;
* refused tasks move neither the size nor the window; a refusal taken at or after `D` closes
  the batch for the window, and no pull follows it;
* it closes the batch for the window before `D` only on an exhausted channel, and as
  interrupted only when the signal is set.
-/

namespace DocBatch

open Proc

variable {σ ω : Type}

/-- The deadline of an attempt to admit that starts at `now`: the end of the batch's window,
or the time limit from now for a batch that has none. -/
def Assembler.deadline (a : Assembler) (now : Nat) : Nat :=
  a.batch.windowEnd.getD (now + a.limits.maxTimeMs)

/-- The rules a runtime with time-outs keeps for a pull from the channel raced against the
shutdown signal, from the state it starts in to the state it ends in. -/
structure TimeoutRules (rt : Runtime (Shared (Env σ ω))) : Prop where
  /-- The clock does not go back. -/
  monotone : ∀ {d s r s'}, rt (.orShutdown (.pull d)) s r s' → s.now ≤ s'.now
  /-- A pull ends by its deadline, or at once when it starts after it. -/
  ends_by : ∀ {d s r s'}, rt (.orShutdown (.pull d)) s r s' → s'.now ≤ max s.now d
  /-- A pull that starts at or after its deadline can give only the task already queued. -/
  expired : ∀ {d s t s'}, d ≤ s.now → rt (.orShutdown (.pull d)) s (.task t) s' →
    s.inbox.head? = some t
  /-- A pull gives up only at its deadline. -/
  elapsed : ∀ {d s s'}, rt (.orShutdown (.pull d)) s .elapsed s' → d ≤ s'.now
  /-- A pull finds the channel exhausted only when no sender is left and nothing is queued. -/
  closed : ∀ {d s s'}, rt (.orShutdown (.pull d)) s .closed s' → s'.closed = true ∧ s'.inbox = []
  /-- A pull gives way to the shutdown signal only when it is set. -/
  shutdown : ∀ {d s s'}, rt (.orShutdown (.pull d)) s .shutdown s' → s'.shutdown = true
  /-- Room made for a sender does not end a pull. -/
  not_sent : ∀ {d s s'}, ¬ rt (.orShutdown (.pull d)) s .sent s'

/-! ## A pull from the channel -/

/-- How a pull from the channel with at most `m` to wait, raced against the shutdown signal,
goes from `s`: the answer it gives, the state it ends in and its waits. -/
inductive ChannelPull (rt : Runtime (Shared (Env σ ω))) (s : Shared (Env σ ω)) (m : Nat) :
    Option (Except Error (Option Task)) → Shared (Env σ ω) → List (Wake (Shared (Env σ ω))) →
      Prop
  /-- The signal was set before the pull: it does not wait. -/
  | signalled : s.shutdown = true → ChannelPull rt s m none s []
  /-- The signal came while it waited. -/
  | interrupted {s' : Shared (Env σ ω)} : s.shutdown = false →
      rt (.orShutdown (.pull (s.now + m))) s .shutdown s' →
      ChannelPull rt s m none s' [⟨.orShutdown (.pull (s.now + m)), .shutdown, s'⟩]
  /-- A task came. -/
  | task {s' : Shared (Env σ ω)} {t : Task} : s.shutdown = false →
      rt (.orShutdown (.pull (s.now + m))) s (.task t) s' →
      ChannelPull rt s m (some (.ok (some t))) s' [⟨.orShutdown (.pull (s.now + m)), .task t, s'⟩]
  /-- The wait ended without a task. -/
  | empty {s' : Shared (Env σ ω)} {r : Woken} : s.shutdown = false →
      (r = .elapsed ∨ r = .closed ∨ r = .sent) → rt (.orShutdown (.pull (s.now + m))) s r s' →
      ChannelPull rt s m (some (.ok none)) s' [⟨.orShutdown (.pull (s.now + m)), r, s'⟩]

section
variable {rt : Runtime (Shared (Env σ ω))} {s s' : Shared (Env σ ω)} {m : Nat}
  {r : Option (Except Error (Option Task))} {tr : List (Wake (Shared (Env σ ω)))}

theorem Assembler.pullOrShutdown_channel (h : Exec rt (pullOrShutdown Source.channel m) s s' r tr) :
    ChannelPull rt s m r s' tr := by
  rcases Assembler.pullOrShutdown_exec h with ⟨hsd, rfl, rfl, rfl⟩ | ⟨hsd, h⟩
  · exact .signalled hsd
  rw [unlessShutdown_channel_next] at h
  simp only [exec_step, exec_wait] at h
  obtain ⟨w, s₁, tr', hw, hk, rfl⟩ := h
  cases w with
  | shutdown =>
      obtain ⟨rfl, rfl, rfl⟩ := (exec_done _).1 hk
      exact .interrupted hsd hw
  | task t =>
      obtain ⟨rfl, rfl, rfl⟩ := (exec_done _).1 hk
      exact .task hsd hw
  | elapsed =>
      obtain ⟨rfl, rfl, rfl⟩ := (exec_done _).1 hk
      exact .empty hsd (.inl rfl) hw
  | closed =>
      obtain ⟨rfl, rfl, rfl⟩ := (exec_done _).1 hk
      exact .empty hsd (.inr (.inl rfl)) hw
  | sent =>
      obtain ⟨rfl, rfl, rfl⟩ := (exec_done _).1 hk
      exact .empty hsd (.inr (.inr rfl)) hw

/-- A pull ends between the time it starts and its deadline. -/
theorem ChannelPull.now_le (hrt : TimeoutRules rt) (h : ChannelPull rt s m r s' tr) :
    s.now ≤ s'.now ∧ s'.now ≤ s.now + m := by
  cases h with
  | signalled _ => omega
  | interrupted _ hw | task _ hw | empty _ _ hw =>
      have h₁ := hrt.monotone hw
      have h₂ := hrt.ends_by hw
      omega

end

/-! ## The passes of the pull loop -/

/-- Before a pass of the pull loop of an attempt that started with `a` in `s`: the assembler
`b` in the state `s₁`, after the waits `pre`. Either nothing has happened yet, or the clock is
before the deadline; every task taken so far was refused before the deadline; and the batch
has the entries and the window it started with, and is open. -/
structure Pending (codec : Codec) (a : Assembler) (s : Shared (Env σ ω)) (b : Assembler)
    (s₁ : Shared (Env σ ω)) (pre : List (Wake (Shared (Env σ ω)))) : Prop where
  start : (pre = [] ∧ s₁ = s) ∨ s₁.now < a.deadline s.now
  refused : ∀ x ∈ taken pre, (∃ rf, x.1.check codec = .error rf) ∧ x.2 < a.deadline s.now
  limits : b.limits = a.limits
  entries : b.batch.entries = a.batch.entries
  windowEnd : b.batch.windowEnd = a.batch.windowEnd
  notClosed : b.batch.closed = false

/-- How the last pass of the pull loop, from the assembler `b` in `s₁` with the deadline `D`,
ends in `s₂` with the answer and the assembler it gives, having waited as `tr` records. -/
inductive LastPass (codec : Codec) (D : Nat) (b : Assembler) (s₁ : Shared (Env σ ω)) :
    Admission → Assembler → Shared (Env σ ω) → List (Wake (Shared (Env σ ω))) → Prop
  /-- The pull gave a task that passes its check, and it is admitted at the time it came; a
  pull that started after the deadline gave the task that was queued. -/
  | admitted {s₂ : Shared (Env σ ω)} {t : Task} {p : Payload} {tr : List (Wake (Shared (Env σ ω)))} :
      t.check codec = .ok p → s₁.now ≤ s₂.now → s₂.now ≤ max s₁.now D →
      (D ≤ s₁.now → s₁.inbox.head? = some t) → taken tr = [(t, s₂.now)] →
      LastPass codec D b s₁ .admitted
        { b with batch := b.batch.accept s₂.now b.limits t (Document.ofPayload p) } s₂ tr
  /-- The batch closes for `c`, after the refusal of a task that came at or after the
  deadline, if the pull gave one; for the window only at the deadline or on an exhausted
  channel, and as interrupted only when the signal is set. -/
  | close {s₂ : Shared (Env σ ω)} {b₁ : Assembler} {c : CloseReason}
      {tr : List (Wake (Shared (Env σ ω)))} :
      s₁.now ≤ s₂.now → s₂.now ≤ max s₁.now D →
      b₁.batch.entries = b.batch.entries → b₁.batch.windowEnd = b.batch.windowEnd →
      b₁.batch.closed = b.batch.closed →
      (c = .interrupted → s₂.shutdown = true) →
      (c = .windowElapsed → D ≤ s₂.now ∨ (s₂.closed = true ∧ s₂.inbox = [])) →
      (∀ x ∈ taken tr, (∃ rf, x.1.check codec = .error rf) ∧ D ≤ x.2 ∧ x.2 = s₂.now ∧
        c = .windowElapsed ∧ tr.getLast?.bind Wake.task? = some x) →
      LastPass codec D b s₁ .noMore { b₁ with batch := (b₁.batch.close c).1 } s₂ tr

section
variable {rt : Runtime (Shared (Env σ ω))} {ctx : Context} {codec : Codec} {a b : Assembler}
  {s s₁ s₂ : Shared (Env σ ω)} {pre tr : List (Wake (Shared (Env σ ω)))}

theorem Pending.init (h : a.batch.closed = false) : Pending codec a s a s [] :=
  ⟨.inl ⟨rfl, rfl⟩, by simp, rfl, rfl, rfl, h⟩

theorem Pending.now_le (h : Pending codec a s b s₁ pre) : s₁.now ≤ max s.now (a.deadline s.now) := by
  rcases h.start with ⟨-, rfl⟩ | hlt <;> omega

/-- A task taken by the attempt, once the waits `tr` follow: one that `tr` brought, or one
refused before the deadline. -/
theorem Pending.mem_taken (h : Pending codec a s b s₁ pre) {x : Task × Nat}
    (hx : x ∈ taken (pre ++ tr)) :
    x ∈ taken tr ∨ ((∃ rf, x.1.check codec = .error rf) ∧ x.2 < a.deadline s.now) := by
  rw [taken_append] at hx
  rcases List.mem_append.1 hx with hx | hx
  · exact .inr (h.refused x hx)
  · exact .inl hx

/-- A pass of the pull loop on the channel either refuses a task before the deadline and
leaves the loop pending, or is the last pass. -/
theorem pullOnce_channel (hrt : TimeoutRules rt) (hI : Pending ctx.codec a s b s₁ pre)
    {res : Assembler ⊕ (Admission × Assembler)}
    (h : Exec rt (Assembler.pullOnce ctx Source.channel (a.deadline s.now) b) s₁ s₂ res tr) :
    Sum.elim (fun b' => Pending ctx.codec a s b' s₂ (pre ++ tr))
      (fun r => LastPass ctx.codec (a.deadline s.now) b s₁ r.1 r.2 s₂ tr) res := by
  obtain ⟨s₃, r, tr₁, tr₂, hpull, hend, rfl⟩ := Assembler.pullOnce_exec h
  have hp := Assembler.pullOrShutdown_channel hpull
  obtain ⟨hge, hle⟩ := hp.now_le hrt
  cases hend with
  | interrupted hs =>
      have hsd : s₃.shutdown = true := by
        cases hp with
        | signalled hsd => exact hsd
        | interrupted _ hw => exact hrt.shutdown hw
      have hnil : taken tr₁ = [] := by cases hp <;> rfl
      have hn := hs.now
      refine .close (by omega) (by omega) rfl rfl rfl (fun _ => hs.shutdown ▸ hsd) (by simp) ?_
      simp [hnil]
  | elapsed hs =>
      cases hp with
      | empty _ hr hw =>
          have hn := hs.now
          rcases hr with rfl | rfl | rfl
          · refine .close (by omega) (by omega) rfl rfl rfl (by simp) (fun _ => .inl ?_)
              (by simp [Wake.task?])
            have := hrt.elapsed hw
            omega
          · refine .close (by omega) (by omega) rfl rfl rfl (by simp) (fun _ => .inr ?_)
              (by simp [Wake.task?])
            rw [hs.closed, hs.inbox]
            exact hrt.closed hw
          · exact absurd hw hrt.not_sent
  | failed hs => cases hp
  | admitted hc hs =>
      cases hp with
      | task _ hw =>
          have hn := hs.now
          rw [← hn]
          refine .admitted hc (by omega) (by omega) (fun hD => hrt.expired (by omega) hw) ?_
          simp [Wake.task?, hn]
  | refusedLate hc hr hD hs =>
      cases hp with
      | task _ hw =>
          obtain ⟨-, rfl, hn⟩ := Assembler.refuse_reaches hr
          obtain ⟨rfl, -⟩ := Assembler.refuse_exec hr
          have hn' := hs.now
          refine .close (by omega) (by omega) rfl rfl rfl (by simp) (fun _ => .inl (by omega)) ?_
          intro x hx
          obtain rfl : x = (_, s₃.now) := by simpa [Wake.task?] using hx
          exact ⟨⟨_, hc⟩, by omega, by omega, rfl, by simp [Wake.task?]⟩
  | refused hc hr hlt =>
      cases hp with
      | task _ hw =>
          obtain ⟨-, rfl, hn⟩ := Assembler.refuse_reaches hr
          obtain ⟨rfl, -⟩ := Assembler.refuse_exec hr
          refine ⟨.inr hlt, ?_, hI.limits, hI.entries, hI.windowEnd, hI.notClosed⟩
          intro x hx
          rcases hI.mem_taken hx with hx | hx
          · obtain rfl : x = (_, s₃.now) := by simpa [Wake.task?] using hx
            exact ⟨⟨_, hc⟩, by omega⟩
          · exact hx

end

/-! ## An attempt to admit, in time -/

/-- What the attempt to admit that started with `a` in `s` did by the time it returned `adm`
and `a'` in `s'`, having waited as `tr` records, measured against its deadline
`a.deadline s.now`. -/
structure Timely (codec : Codec) (a : Assembler) (s : Shared (Env σ ω)) (adm : Admission)
    (a' : Assembler) (s' : Shared (Env σ ω)) (tr : List (Wake (Shared (Env σ ω)))) : Prop where
  /-- It returns by the deadline, or at once when it starts after it. -/
  returns_by : s'.now ≤ max s.now (a.deadline s.now)
  /-- It takes every task by then, too. -/
  taken_by : ∀ x ∈ taken tr, x.2 ≤ max s.now (a.deadline s.now)
  /-- After the end of the window it admits only when it started after it, and then the task
  that was queued when it started, the one task it takes. -/
  late_admission : adm = .admitted → ∀ w, a.batch.windowEnd = some w → w < s'.now →
    w < s.now ∧ s'.now = s.now ∧ ∃ t d, s.inbox.head? = some t ∧ taken tr = [(t, s.now)] ∧
      a'.batch.entries = a.batch.entries ++ [⟨t, d⟩]
  /-- Only an admission makes the batch larger. -/
  size : a'.batch.size = a.batch.size + if adm = .admitted then 1 else 0
  /-- Only an admission opens the window, at the time it admits. -/
  window : a'.batch.windowEnd = a.batch.windowEnd ∨
    (a.batch.windowEnd = none ∧ adm = .admitted ∧
      a'.batch.windowEnd = some (s'.now + a.limits.maxTimeMs))
  /-- A refusal taken at or after the deadline closes the batch for the window, and no pull
  follows it. -/
  late_refusal : ∀ x ∈ taken tr, (∃ rf, x.1.check codec = .error rf) → a.deadline s.now ≤ x.2 →
    tr.getLast?.bind Wake.task? = some x ∧ adm = .noMore ∧ a'.batch.closed = true ∧
      a'.batch.closeReason = some .windowElapsed
  /-- Before the deadline it closes the batch for the window only on an exhausted channel. -/
  early_close : a.batch.closed = false → a'.batch.closed = true →
    a'.batch.closeReason = some .windowElapsed → s'.now < a.deadline s.now →
      s'.closed = true ∧ s'.inbox = []
  /-- It closes the batch as interrupted only when the signal is set. -/
  interrupted : a.batch.closed = false → a'.batch.closed = true →
    a'.batch.closeReason = some .interrupted → s'.shutdown = true

section
variable {rt : Runtime (Shared (Env σ ω))} {ctx : Context} {codec : Codec} {a a' b : Assembler}
  {adm : Admission} {s s' s₁ s₂ : Shared (Env σ ω)} {pre tr : List (Wake (Shared (Env σ ω)))}

/-- The last pass ends the attempt in time. -/
theorem Timely.of_last (hI : Pending codec a s b s₁ pre)
    (h : LastPass codec (a.deadline s.now) b s₁ adm a' s₂ tr) : Timely codec a s adm a' s₂ (pre ++ tr) := by
  have hstart := hI.now_le
  cases h with
  | @admitted _ t p _ hc hge hle hexp htaken =>
      have hnew : ∀ x ∈ taken tr, x = (t, s₂.now) := by simp [htaken]
      refine ⟨by omega, ?_, ?_, ?_, ?_, ?_, ?_, ?_⟩
      · intro x hx
        rcases hI.mem_taken hx with hx | ⟨-, hlt⟩
        · rw [hnew x hx]
          omega
        · omega
      · intro _ w hw hlt
        have hD : a.deadline s.now = w := by simp [Assembler.deadline, hw]
        rcases hI.start with ⟨rfl, hs⟩ | hbefore
        · subst s₁
          have hnow : s₂.now = s.now := by omega
          refine ⟨by omega, hnow, t, Document.ofPayload p, hexp (by omega), by simp [htaken, hnow], ?_⟩
          simp [Batch.accept, hI.entries]
        · omega
      · simp [Batch.size, Batch.accept, hI.entries]
      · cases hw : a.batch.windowEnd <;> simp [Batch.accept, hI.windowEnd, hI.limits, hw]
      · rintro x hx ⟨rf, hrf⟩ hD
        rcases hI.mem_taken hx with hx | ⟨-, hlt⟩
        · rw [hnew x hx] at hrf
          rw [hc] at hrf
          cases hrf
        · omega
      · intro _ hcl
        simp [Batch.accept, hI.notClosed] at hcl
      · intro _ hcl
        simp [Batch.accept, hI.notClosed] at hcl
  | @close _ b₁ c _ hge hle hentries hwindow hclosed hint hel hnew =>
      have hopen : b₁.batch.closed = false := hclosed.trans hI.notClosed
      refine ⟨by omega, ?_, by simp, ?_, .inl ?_, ?_, ?_, ?_⟩
      · intro x hx
        rcases hI.mem_taken hx with hx | ⟨-, hlt⟩
        · have := (hnew x hx).2.2.1
          omega
        · omega
      · simp [Batch.size, hopen, hentries, hI.entries]
      · simp [hopen, hwindow, hI.windowEnd]
      · intro x hx _ hD
        rcases hI.mem_taken hx with hx | ⟨-, hlt⟩
        · obtain ⟨-, -, -, rfl, hlast⟩ := hnew x hx
          refine ⟨?_, rfl, by simp [hopen], by simp [hopen]⟩
          rw [List.getLast?_append]
          cases hl : tr.getLast? with
          | none => simp [hl] at hlast
          | some w => simpa [hl] using hlast
        · omega
      · intro _ _ hr hlt
        obtain rfl : c = .windowElapsed := by simpa [hopen] using hr
        rcases hel rfl with hD | hex
        · omega
        · exact hex
      · intro _ _ hr
        obtain rfl : c = .interrupted := by simpa [hopen] using hr
        exact hint rfl

/-- An attempt that closes the batch without a pull returns at once. -/
theorem Timely.close_now {c : CloseReason} (hs : EffectsOnly s s') (hc : c ≠ .windowElapsed)
    (hsd : c = .interrupted → s.shutdown = true) :
    Timely codec a s .noMore { a with batch := (a.batch.close c).1 } s' [] := by
  refine ⟨by rw [hs.now]; omega, by simp, nofun, ?_, .inl ?_, by simp, ?_, ?_⟩
  · by_cases hcl : a.batch.closed <;> simp [hcl, Batch.size]
  · by_cases hcl : a.batch.closed <;> simp [hcl]
  · intro hopen _ hr
    obtain rfl : c = .windowElapsed := by simpa [hopen] using hr
    exact absurd rfl hc
  · intro hopen _ hr
    obtain rfl : c = .interrupted := by simpa [hopen] using hr
    rw [hs.shutdown]
    exact hsd rfl

/-- The pull loop of an attempt on an open batch returns in time. -/
theorem Assembler.pulls_timely (hrt : TimeoutRules rt) (hopen : a.batch.closed = false)
    {r : Admission × Assembler}
    (h : Exec rt (Proc.iterate a (Assembler.pullOnce ctx Source.channel (a.deadline s.now))) s s' r tr) :
    Timely ctx.codec a s r.1 r.2 s' tr := by
  have hloop := Exec.loop_invariant (I := fun b s₁ pre => Pending ctx.codec a s b s₁ pre)
    (J := fun r s₂ pre => Timely ctx.codec a s r.1 r.2 s₂ pre) ?_ [] (Pending.init hopen) h
  · obtain ⟨c, s₃, tr₁, tr₂, hJ, hdone, rfl⟩ := hloop
    obtain ⟨rfl, rfl, rfl⟩ := (exec_done _).1 hdone
    simpa using hJ
  intro b s₁ s₂ res trp pre hI hpass
  have hstep := pullOnce_channel hrt hI hpass
  cases res with
  | inl b' => exact hstep
  | inr r => exact Timely.of_last hI hstep

/-- Every attempt to admit from the channel, under the rules of time-outs, returns at once
without a pull when the batch is full or closed or the signal is set, and in every case
returns and admits in time, refuses without moving the deadline, and closes the batch only for
the reasons the time and the channel give. -/
theorem tryAdmit_timely (hrt : TimeoutRules rt)
    (h : Exec rt (a.tryAdmit ctx Source.channel) s s' (adm, a') tr) :
    ((a.limits.maxSize ≤ a.batch.size ∨ a.batch.closed = true ∨ s.shutdown = true) →
      tr = [] ∧ s'.now = s.now) ∧ Timely ctx.codec a s adm a' s' tr := by
  cases Assembler.tryAdmit_exec h with
  | full _ hs => exact ⟨fun _ => ⟨rfl, hs.now⟩, .close_now hs nofun nofun⟩
  | closed _ hclosed =>
      have hnow : Timely ctx.codec a s .noMore { a with batch := (a.batch.close .sizeLimit).1 } s [] :=
        .close_now (.refl s) nofun nofun
      simp only [Batch.close_fst, hclosed, if_true] at hnow
      exact ⟨fun _ => ⟨rfl, rfl⟩, hnow⟩
  | shutdown _ _ hsd hs => exact ⟨fun _ => ⟨rfl, hs.now⟩, .close_now hs nofun fun _ => hsd⟩
  | pulls hroom hopen hsd h =>
      refine ⟨fun hnow => ?_, Assembler.pulls_timely hrt hopen h⟩
      simp only [hopen, hsd, Bool.false_eq_true, or_false] at hnow
      omega

/-! ## A runtime that keeps the rules -/

/-- A runtime that answers a pull at once with the task at the head of the channel, and
otherwise lets the clock run to the pull's deadline. -/
def promptRuntime : Runtime (Shared (Env σ ω))
  | .orShutdown (.pull d), s, r, s' =>
    match s.inbox with
    | t :: rest => r = .task t ∧ s' = { s with inbox := rest }
    | [] => r = .elapsed ∧ s' = { s with now := max s.now d }
  | _, _, _, _ => False

section
variable {d : Nat} {s s' : Shared (Env σ ω)} {r : Woken}

theorem promptRuntime_pull :
    promptRuntime (.orShutdown (.pull d)) s r s' ↔
      (∃ t rest, s.inbox = t :: rest ∧ r = .task t ∧ s' = { s with inbox := rest }) ∨
        (s.inbox = [] ∧ r = .elapsed ∧ s' = { s with now := max s.now d }) := by
  cases hs : s.inbox <;> simp [promptRuntime, hs]

theorem promptRuntime_timeoutRules : TimeoutRules (promptRuntime : Runtime (Shared (Env σ ω))) where
  monotone h := by
    rcases promptRuntime_pull.1 h with ⟨t, rest, -, rfl, rfl⟩ | ⟨-, rfl, rfl⟩
    · exact Nat.le_refl _
    · exact Nat.le_max_left _ _
  ends_by h := by
    rcases promptRuntime_pull.1 h with ⟨t, rest, -, rfl, rfl⟩ | ⟨-, rfl, rfl⟩
    · exact Nat.le_max_left _ _
    · exact Nat.le_refl _
  expired _ h := by
    rcases promptRuntime_pull.1 h with ⟨t, rest, hs, ht, rfl⟩ | ⟨-, ht, rfl⟩
    · cases ht
      simp [hs]
    · cases ht
  elapsed h := by
    rcases promptRuntime_pull.1 h with ⟨t, rest, -, ht, rfl⟩ | ⟨-, -, rfl⟩
    · cases ht
    · exact Nat.le_max_right _ _
  closed h := by
    rcases promptRuntime_pull.1 h with ⟨t, rest, -, ht, -⟩ | ⟨-, ht, -⟩ <;> cases ht
  shutdown h := by
    rcases promptRuntime_pull.1 h with ⟨t, rest, -, ht, -⟩ | ⟨-, ht, -⟩ <;> cases ht
  not_sent h := by
    rcases promptRuntime_pull.1 h with ⟨t, rest, -, ht, -⟩ | ⟨-, ht, -⟩ <;> cases ht

end

/-- An attempt on an empty batch with a task queued that has no data: the task is refused
before the deadline, and the window elapses on the next pull. -/
theorem tryAdmit_timely_refused :
    ∃ (s' : Shared (Env Unit Unit)) (a' : Assembler) (tr : List (Wake (Shared (Env Unit Unit)))),
      TimeoutRules (promptRuntime : Runtime (Shared (Env Unit Unit))) ∧
        Exec promptRuntime (({ limits := ⟨1, 100⟩ } : Assembler).tryAdmit {} Source.channel)
          { inbox := [{ id := 7 }], rest := { fx := { store := (), own := () } } } s' (.noMore, a') tr ∧
        Timely ({} : Context).codec { limits := ⟨1, 100⟩ }
          { inbox := [{ id := 7 }], rest := { fx := { store := (), own := () } } } .noMore a' s' tr := by
  obtain ⟨s', a', tr, h⟩ : ∃ (s' : Shared (Env Unit Unit)) (a' : Assembler)
      (tr : List (Wake (Shared (Env Unit Unit)))),
      Exec promptRuntime (({ limits := ⟨1, 100⟩ } : Assembler).tryAdmit {} Source.channel)
        { inbox := [{ id := 7 }], rest := { fx := { store := (), own := () } } } s' (.noMore, a') tr := by
    simp only [Assembler.tryAdmit, Assembler.pullOnce, Assembler.pullOrShutdown, Assembler.refuse,
      Assembler.closeFor, unlessShutdown_channel_next, exec_channel_respond, promptRuntime,
      Proc.iterate, Proc.unroll, Task.check, Batch.close, Batch.size, taskFormat,
      pure_eq, bind_eq, exec_bind, exec_step, exec_wait, exec_done, exec_loop, Act.exec_now,
      Act.exec_isShutdown, Eng.exec_emit,
      List.length_nil, Nat.le_zero_eq, ↓reduceIte, Option.getD_none, ↓existsAndEq, List.isEmpty_iff,
      ite_not, exists_const, true_and, Prod.mk.injEq, Nat.lt_irrefl, reduceCtorEq]
  exact ⟨s', a', tr, promptRuntime_timeoutRules, h, (tryAdmit_timely promptRuntime_timeoutRules h).2⟩

end

end DocBatch
