import DocBatch.Proofs.Process.Termination
import DocBatch.Proofs.Engine.Modes
import DocBatch.Proofs.Engine.Cursor

/-!
# Attempts to admit and the default program end

An attempt to admit has no bound written into it: its pull loop goes on after every refused
task. It ends because a pass that goes on took a task from the channel, and a world that sends
finitely many tasks runs out of them; every other way a pull ends closes the batch or admits.
So an attempt on the channel terminates against every runtime, with any number of tasks still
to come (`Assembler.tryAdmit_terminates`): however the scheduler interleaves, whenever the
senders close the channel and whenever the shutdown signal comes.

A finished attempt waited only for pulls, at most one more than the tasks it took: each pass
pulls at most once, and every pass but the last took a task (`Assembler.tryAdmit_pulls`).

The default program asks the cursor for the next document once per pass. Every pass but the
last was handed a document, and the cursor hands out each admitted document once, and admits
no more than the size limit (`Cursor.Calls.size_le`); so a finished run asked at most the size
limit plus one times (`Cursor.drain_nextCalls`). On the channel it terminates as well, since
the worker's calls always return (`Cursor.drain_terminates`).

The main statement is `channel_calls_end`.
-/

namespace DocBatch

open Proc

variable {σ ω : Type}

/-- Whether a wait is a pull from the channel, raced against the shutdown signal or not. -/
def Wait.isPull : Wait → Bool
  | .pull _ => true
  | .orShutdown w => w.isPull
  | _ => false

/-- The tasks a run took are its waits that ended with a task. -/
theorem length_taken {ε : Type} (tr : List (Wake (Shared ε))) : (taken tr).length = tasks tr := by
  induction tr with
  | nil => rfl
  | cons w tr ih =>
      rcases w with ⟨wt, r, st⟩
      cases r <;> simp [Wake.task?, Woken.isTask, ih]

namespace Proc

variable {σ α : Type}

theorem Straight.loopFree {p : Proc σ α} (hp : Straight p) : LoopFree p := by
  induction hp with
  | done => exact .done
  | step _ ih => exact .step ih

/-- A process that never waits leaves no trace. -/
theorem Straight.trace_nil {rt : Runtime σ} {p : Proc σ α} (hp : Straight p) {s s' : σ} {a : α}
    {tr : List (Wake σ)} (h : Exec rt p s s' a tr) : tr = [] := by
  induction hp generalizing s with
  | done => exact ((exec_done _).1 h).2.2
  | step _ ih => exact ih _ ((exec_step _ _).1 h)

end Proc

theorem Act.straight_isShutdown : Straight (Act.isShutdown : Eng σ ω Bool) := .step fun _ => .done

theorem Eng.straight_work {α : Type} (w : Work σ ω α) : Straight (Eng.work w) := .step fun _ => .done

/-! ## An attempt to admit -/

namespace Assembler

variable {rt : Runtime (Shared (Env σ ω))} {ctx : Context} {s s' : Shared (Env σ ω)}
  {tr : List (Wake (Shared (Env σ ω)))} {a : Assembler} {deadline : Nat}

theorem straight_accept (t : Task) (p : Payload) (a : Assembler) :
    Straight (a.accept t p : Eng σ ω Assembler) :=
  .bind Act.straight_now fun _ => .bind (Eng.straight_emit _) fun _ => .done

theorem straight_refuse_channel (t : Task) (r : Refusal) (a : Assembler) :
    Straight (a.refuse Source.channel t r : Eng σ ω Assembler) := by
  simp only [refuse, bind_eq, pure_eq]
  refine .bind (Eng.straight_emit _) fun _ => .bind (Source.straight_channel_respond _ _) fun res => ?_
  cases res with
  | error e => exact .bind (Eng.straight_emit _) fun _ => .done
  | ok u =>
      cases u
      exact .done

/-- A pull on the channel waits once, unless the shutdown signal is already set. -/
theorem loopFree_pullOrShutdown (m : Nat) :
    LoopFree (pullOrShutdown (Source.channel : Source σ ω) m) := by
  simp only [pullOrShutdown, bind_eq, pure_eq]
  refine Act.straight_isShutdown.loopFree.bind fun b => ?_
  split
  · exact .done
  · rw [unlessShutdown_channel_next]
    exact .step fun _ => .wait fun r => by cases r <;> exact .done

theorem loopFree_pullOnce : LoopFree (pullOnce ctx (Source.channel : Source σ ω) deadline a) := by
  simp only [pullOnce, bind_eq, pure_eq]
  refine Act.straight_now.loopFree.bind fun _ => (loopFree_pullOrShutdown _).bind fun r => ?_
  refine Straight.loopFree ?_
  split
  · exact .bind (Eng.straight_emit _) fun _ => .bind (straight_closeFor _ _) fun _ => .done
  · exact .bind (straight_closeFor _ _) fun _ => .done
  · exact .bind (Eng.straight_emit _) fun _ => .bind (straight_closeFor _ _) fun _ => .done
  · split
    · exact .bind (straight_accept _ _ _) fun _ => .done
    · refine .bind (straight_refuse_channel _ _ _) fun a₁ => .bind Act.straight_now fun _ => ?_
      split
      · exact .bind (straight_closeFor _ _) fun _ => .done
      · exact .done

/-- A pass of the pull loop on the channel waits at most once, and only for a pull; a pass after
which the loop goes on waited exactly once, and a task ended the wait. -/
theorem pullOnce_channel_waits {res : Assembler ⊕ (Admission × Assembler)}
    (h : Exec rt (pullOnce ctx Source.channel deadline a) s s' res tr) :
    (∀ x ∈ tr, x.wait.isPull) ∧ tr.length ≤ 1 ∧ (res.isLeft → tr.length = 1 ∧ tasks tr = 1) := by
  obtain ⟨s₁, r, tr₁, tr₂, hpull, hend, rfl⟩ := pullOnce_exec h
  have htr₂ : tr₂ = [] := by
    cases hend with
    | refusedLate _ hr _ _ => exact (straight_refuse_channel _ _ _).trace_nil hr
    | refused _ hr _ => exact (straight_refuse_channel _ _ _).trace_nil hr
    | _ => rfl
  subst htr₂
  cases pullOrShutdown_channel hpull with
  | signalled _ => cases hend; simp
  | interrupted _ _ => cases hend; simp [Wait.isPull]
  | task _ _ => cases hend <;> simp [Wait.isPull, Woken.isTask]
  | empty _ _ _ => cases hend; simp [Wait.isPull]

/-- The pull loop of an attempt on the channel terminates with any number of tasks to come: a
pass that goes on took one of them. -/
theorem pullLoop_terminates (a : Assembler) (s : Shared (Env σ ω)) (n : Nat) :
    Terminates rt (Proc.iterate a (pullOnce ctx Source.channel deadline)) s n := by
  refine Terminates.loop (fun _ _ _ => True) (fun _ _ n => n)
    (fun _ s n _ => loopFree_pullOnce.terminates s n) ?_ (fun _ _ _ c s' _ m _ _ _ => .done c s' m)
    a s n trivial
  intro _ _ n _ _ _ m _ h hn
  have hone := ((pullOnce_channel_waits h).2.2 rfl).2
  exact ⟨trivial, by omega⟩

/-- An attempt to admit on the channel terminates against every runtime, with any number of
tasks to come. -/
theorem tryAdmit_terminates (ctx : Context) (a : Assembler) (s : Shared (Env σ ω)) (n : Nat) :
    Terminates rt (a.tryAdmit ctx Source.channel) s n := by
  unfold tryAdmit
  simp only [bind_eq, pure_eq]
  split
  · exact ((straight_closeFor _ _).bind fun _ => .done).loopFree.terminates s n
  split
  · exact .done _ s n
  refine Act.straight_isShutdown.loopFree.terminates s n |>.bind fun s₁ b _ m _ _ => ?_
  split
  · exact ((straight_closeFor _ _).bind fun _ => .done).loopFree.terminates s₁ m
  · exact Act.straight_now.loopFree.terminates s₁ m |>.bind fun s₂ _ _ k _ _ =>
      pullLoop_terminates a s₂ k

/-- A finished attempt on the channel waited only for pulls, one more at most than the tasks it
took. -/
theorem tryAdmit_pulls {r : Admission × Assembler}
    (h : Exec rt (a.tryAdmit ctx Source.channel) s s' r tr) :
    (∀ x ∈ tr, x.wait.isPull) ∧ tr.length ≤ (taken tr).length + 1 := by
  rw [length_taken]
  cases tryAdmit_exec h with
  | full _ _ => simp
  | closed _ _ => simp
  | shutdown _ _ _ _ => simp
  | pulls _ _ _ h =>
      have hloop := Exec.loop_invariant
        (I := fun _ _ pre => (∀ x ∈ pre, x.wait.isPull) ∧ pre.length = tasks pre)
        (J := fun _ _ pre => (∀ x ∈ pre, x.wait.isPull) ∧ pre.length ≤ tasks pre + 1) ?_ []
        (by simp) h
      · obtain ⟨r₁, s₃, tr₅, tr₆, hJ, hdone, rfl⟩ := hloop
        obtain ⟨-, -, rfl⟩ := (exec_done _).1 hdone
        simpa using hJ
      intro b s₃ s₄ r tr pre ⟨hpre, hlen⟩ h
      obtain ⟨htr, hle, hgo⟩ := pullOnce_channel_waits h
      have hall : ∀ x ∈ pre ++ tr, x.wait.isPull := by
        intro x hx
        rcases List.mem_append.1 hx with hx | hx
        · exact hpre x hx
        · exact htr x hx
      rcases r with b' | r
      · obtain ⟨h₁, h₂⟩ := hgo rfl
        refine ⟨hall, ?_⟩
        simp only [List.length_append, tasks_append]
        omega
      · refine ⟨hall, ?_⟩
        simp only [List.length_append, tasks_append]
        omega

end Assembler

/-! ## The default program -/

namespace Cursor

variable {rt : Runtime (Shared (Env σ ω))} {ctx : Context} {src : Source σ ω}
  {s s' : Shared (Env σ ω)} {tr : List (Wake (Shared (Env σ ω)))} {c c' : Cursor}

/-- Whether a call asked for the next document. -/
def Call.isNext : Call → Bool
  | .next _ => true
  | _ => false

/-- How many times the calls asked for the next document. -/
def nextCalls (log : List Call) : Nat := log.countP Call.isNext

@[simp] theorem Call.isNext_next (i : Option Nat) : (Call.next i).isNext = true := rfl

@[simp] theorem Call.isNext_process (i : Nat) (r : Except TransientError Bool) :
    (Call.process i r).isNext = false := rfl

@[simp] theorem nextCalls_nil : nextCalls [] = 0 := rfl

@[simp] theorem nextCalls_cons (x : Call) (log : List Call) :
    nextCalls (x :: log) = nextCalls log + if x.isNext then 1 else 0 :=
  List.countP_cons

@[simp] theorem nextCalls_append (log log' : List Call) :
    nextCalls (log ++ log') = nextCalls log + nextCalls log' :=
  List.countP_append

/-- A call for the next document moves the position past the document it hands out. -/
theorem next_position {i : Option Nat} (h : Exec rt (c.next ctx src) s s' (i, c') tr) :
    c'.position = if i.isSome then c.position + 1 else c.position := by
  rcases next_cases h with ⟨-, -, -, rfl, rfl⟩ | ⟨-, adm, -, hadm, hno⟩
  · simp
  · cases adm with
    | admitted =>
        obtain ⟨rfl, hpos⟩ := hadm rfl
        simp [hpos]
    | noMore =>
        obtain ⟨rfl, hpos⟩ := hno rfl
        simp [hpos]

theorem process_position {w : Worker σ ω} {i : Nat} {r : Except TransientError Bool}
    (h : Exec rt (c.process w i) s s' (r, c') tr) : c'.position = c.position := by
  rcases (process_exec h).2.2 with rfl | ⟨d, rfl⟩ <;> rfl

/-- Every call keeps the batch within the cursor's size limit. -/
theorem Calls.size_le (hsrc : src.Faithful rt) {c₀ : Cursor} {log : List Call}
    (h : Calls ctx src rt c₀ c tr log) (h₀ : c₀.batch.size ≤ c₀.assembler.limits.maxSize) :
    c.batch.size ≤ c.assembler.limits.maxSize := by
  induction h with
  | nil => exact h₀
  | next _ hn ih =>
      rcases next_cases hn with ⟨-, -, -, -, rfl⟩ | ⟨-, adm, ht, -, -⟩
      · exact ih
      · have hat := Assembler.tryAdmit_attempt hsrc ht
        rw [hat.limits_eq]
        exact hat.advance.size_le ih
  | process w _ hp ih =>
      rcases (process_exec hp).2.2 with rfl | ⟨d, rfl⟩
      · exact ih
      · simpa [Cursor.batch, Batch.setDocument, Batch.size] using ih
  | @close c₁ _ _ _ _ _ _ _ hc ih =>
      obtain ⟨-, rfl⟩ := close_cases hc
      show (c₁.batch.close .closedByWorker).1.entries.length ≤ _
      rw [← Batch.closeWith_some, Batch.closeWith_entries]
      exact ih

/-- A finished run of the default program from the cursor the runner makes asked for the next
document at most the size limit plus one times: once for each document it was handed, and once
more if it stopped because none came. -/
theorem drain_nextCalls (hsrc : src.Faithful rt) {limits : Limits} {w : Worker σ ω}
    {res : Except TransientError Nat}
    (h : Exec rt (({ assembler := { limits } } : Cursor).drain ctx src w) s s' (res, c') tr) :
    ∃ log, Calls ctx src rt { assembler := { limits } } c' tr log ∧
      nextCalls log ≤ limits.maxSize + 1 := by
  simp only [drain_eq, Proc.iterate] at h
  have hloop := Exec.loop_invariant
    (I := fun b _ pre => ∃ log, Calls ctx src rt { assembler := { limits } } b.2 pre log ∧
      nextCalls log = b.2.position)
    (J := fun r _ pre => ∃ log, Calls ctx src rt { assembler := { limits } } r.2 pre log ∧
      nextCalls log ≤ r.2.position + 1) ?_ [] ⟨[], .nil, rfl⟩ h
  · obtain ⟨⟨res₁, c₁⟩, s₁, tr₁, tr₂, ⟨log, hcalls, hle⟩, hdone, rfl⟩ := hloop
    obtain ⟨rfl, hres, rfl⟩ := (exec_done _).1 hdone
    cases hres
    have hw := Calls.walked hsrc hcalls
    have hsize := hcalls.size_le hsrc (Nat.zero_le _)
    rw [hw.limits_eq] at hsize
    refine ⟨log, by simpa using hcalls, ?_⟩
    rw [hw.position_eq] at hle
    omega
  rintro ⟨k, c₁⟩ s₁ s₂ r tr pre ⟨log, hcalls, hpos⟩ hpass
  obtain ⟨s₃, i, c₂, tr₁, tr₂, hn, rfl, hend⟩ := drainPass_cases hpass
  have h₂ := hcalls.next hn
  have hpos₂ := next_position hn
  rcases hend with ⟨rfl, rfl, rfl, rfl⟩ | ⟨i, r₄, c₄, rfl, hp, rfl⟩
  · refine ⟨_, by simpa using h₂, ?_⟩
    simp only [Option.isSome_none, Bool.false_eq_true, ↓reduceIte] at hpos₂
    simp [hpos, hpos₂]
  have h₄ := h₂.process w hp
  have hpos₄ := process_position hp
  simp only [Option.isSome_some, ↓reduceIte] at hpos₂
  rcases r₄ with e | _ <;>
  · refine ⟨_, by simpa [List.append_assoc] using h₄, ?_⟩
    simp [hpos, hpos₂, hpos₄]

theorem straight_process (w : Worker σ ω) (i : Nat) (c : Cursor) : Straight (c.process w i) := by
  unfold Cursor.process
  split
  · exact .done
  · refine .bind (Eng.straight_work _) fun r => ?_
    cases r <;> exact .done

/-- A call for the next document on the channel terminates: it is at most one attempt to
admit. -/
theorem next_terminates (ctx : Context) (c : Cursor) (s : Shared (Env σ ω)) (n : Nat) :
    Terminates rt (c.next ctx Source.channel) s n := by
  unfold Cursor.next
  simp only [bind_eq, pure_eq]
  split
  · refine Assembler.tryAdmit_terminates ctx c.assembler s n |>.bind fun s₁ r _ m _ _ => ?_
    rcases r with ⟨_ | _, a⟩ <;> exact .done _ s₁ m
  · exact .done _ s n

/-- The default program on the channel, from the cursor the runner makes, terminates against
every runtime, with any number of tasks to come: every pass that goes on was handed a
document, and at most the size limit are handed out. -/
theorem drain_terminates (ctx : Context) (w : Worker σ ω) (limits : Limits)
    (s : Shared (Env σ ω)) (n : Nat) :
    Terminates rt (({ assembler := { limits } } : Cursor).drain ctx Source.channel w) s n := by
  simp only [drain_eq, Proc.iterate]
  refine Terminates.loop
    (fun b _ _ => ∃ tr log, Calls ctx Source.channel rt { assembler := { limits } } b.2 tr log)
    (fun b _ _ => limits.maxSize - b.2.position) ?_ ?_ (fun _ _ _ r s' _ m _ _ _ => .done r s' m)
    _ s n ⟨[], [], .nil⟩
  · rintro ⟨k, c⟩ s n -
    simp only [drainPass, bind_eq]
    refine next_terminates ctx c s n |>.bind fun s₁ r _ m _ _ => ?_
    rcases r with ⟨_ | i, c₁⟩
    · exact .done _ s₁ m
    · exact ((straight_process w i c₁).bind fun r => by
        rcases r with ⟨_ | _, _⟩ <;> exact .done).loopFree.terminates s₁ m
  · rintro ⟨k, c⟩ s n ⟨k', c'⟩ s' tr m ⟨tr₀, log, hcalls⟩ hpass -
    obtain ⟨s₃, i, c₂, tr₁, tr₂, hn, rfl, hend⟩ := drainPass_cases hpass
    rcases hend with ⟨-, hres, -⟩ | ⟨i, r₄, c₄, rfl, hp, hres⟩
    · cases hres
    rcases r₄ with e | _
    · cases hres
    obtain ⟨-, rfl⟩ := Prod.mk.inj (Sum.inl.inj hres)
    have h₄ := (hcalls.next hn).process w hp
    have hw := Calls.walked (Source.channel_faithful rt) h₄
    have hsize := h₄.size_le (Source.channel_faithful rt) (Nat.zero_le _)
    rw [hw.limits_eq, ← hw.position_eq] at hsize
    have hpos : c'.position = c.position + 1 := by
      simpa [process_position hp] using next_position hn
    exact ⟨⟨_, _, h₄⟩, by simp only; omega⟩

end Cursor

/-- On the channel, against every runtime and with any finite number of tasks to come, an
attempt to admit and the default program both terminate; a finished attempt waited only for
pulls, at most one more than the tasks it took; and a finished run of the default program, from
the cursor the runner makes, asked for the next document at most the size limit plus one
times. -/
theorem channel_calls_end (rt : Runtime (Shared (Env σ ω))) (ctx : Context) (a : Assembler)
    (w : Worker σ ω) (limits : Limits) (s : Shared (Env σ ω)) (n : Nat) :
    Terminates rt (a.tryAdmit ctx Source.channel) s n ∧
      (∀ s' r tr, Exec rt (a.tryAdmit ctx Source.channel) s s' r tr →
        (∀ x ∈ tr, x.wait.isPull) ∧ tr.length ≤ (taken tr).length + 1) ∧
      Terminates rt (Processor.eachDocument ctx Source.channel w { assembler := { limits } }) s n ∧
      ∀ s' r c' tr, Exec rt (Processor.eachDocument ctx Source.channel w { assembler := { limits } })
          s s' (r, c') tr →
        ∃ log, Cursor.Calls ctx Source.channel rt { assembler := { limits } } c' tr log ∧
          Cursor.nextCalls log ≤ limits.maxSize + 1 := by
  refine ⟨Assembler.tryAdmit_terminates ctx a s n, fun _ _ _ h => Assembler.tryAdmit_pulls h, ?_, ?_⟩
  · simp only [Processor.eachDocument, bind_eq]
    exact Cursor.drain_terminates ctx w limits s n |>.bind fun s₁ r _ m _ _ => .done _ s₁ m
  · intro s' r c' tr h
    simp only [Processor.eachDocument, bind_eq, pure_eq, exec_bind, exec_done] at h
    obtain ⟨s₁, ⟨r₁, c₁⟩, tr₁, tr₂, hd, ⟨rfl, hres, rfl⟩, rfl⟩ := h
    cases hres
    simpa using Cursor.drain_nextCalls (Source.channel_faithful rt) hd

end DocBatch
