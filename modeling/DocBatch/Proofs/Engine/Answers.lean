import DocBatch.Proofs.Engine.Assembly

/-!
# Answering a batch

A batch run answers every task it took from the channel exactly once, and no other: each refused
task when it is taken, with its refusal; after processing, every admitted task in the order of
admission, all with a success carrying the JSON patch of the task's own document when
processing succeeded, all with a rejection carrying the failure's text when it failed. Its
report counts what was admitted and refused and says how the batch ended.

Whoever reads the answers may drop the response channel's receiver while the run waits. The
answers reach the channel up to that moment (`Reaches`): the refusals are given one by one as
tasks come, so a prefix of them gets through, while the answers after processing are given at
one moment and all get through or none does. The admitted tasks whose answers did not are the
run's response failures, in order, each with the error of the dropped receiver.

The answers are read off the response channel, so the statements assume that nothing else
answers tasks while the run waits, and that a dropped receiver stays dropped (`KeepsAnswers`). Processing code is anything that moves
through the batch only by the operations of the cursor (`CursorRun`): handing out documents,
closing the batch and editing documents it holds, with work of its own in between that takes
no task and answers none. Both processors of the engine do (`single_respects`,
`bulkEach_respects`).

The main statement is `runBatch_answers`.
-/

namespace DocBatch

open Proc

variable {σ ω : Type}

/-- While the engine waits, nobody else answers tasks: the response channel is as it was. And
the response channel's receiver, once dropped, stays dropped. -/
def KeepsAnswers (rt : Runtime (Shared (Env σ ω))) : Prop :=
  ∀ w s r s', rt w s r s' →
    s'.rest.delivered = s.rest.delivered ∧ (s'.rest.receiving = true → s.rest.receiving = true)

theorem Outside.keepsAnswers (o : Outside) : KeepsAnswers (o.runtime : Runtime (Shared (Env σ ω))) := by
  intro w s r s' h
  have hs' : s' = (o.wake w s).2 := by rw [show o.wake w s = (r, s') from h]
  rcases o.wake_rest w s with hr | ⟨-, hr⟩ <;> rw [hs', hr]
  · exact ⟨rfl, id⟩
  · exact ⟨rfl, fun h => nomatch h⟩

/-- The answers to the refused tasks among those taken, in the order they were taken. -/
def refusalAnswers (codec : Codec) (xs : List (Task × Nat)) : List Delivery :=
  xs.filterMap fun x => match x.1.check codec with
    | .error r => some ⟨x.1.id, x.1.correlationId, r.toResponse⟩
    | .ok _ => none

section
variable {codec : Codec}

@[simp] theorem refusalAnswers_nil : refusalAnswers codec [] = [] := rfl

@[simp] theorem refusalAnswers_append (xs ys : List (Task × Nat)) :
    refusalAnswers codec (xs ++ ys) = refusalAnswers codec xs ++ refusalAnswers codec ys :=
  List.filterMap_append

theorem refusalAnswers_refused {t : Task} {r : Refusal} (n : Nat) (h : t.check codec = .error r) :
    refusalAnswers codec [(t, n)] = [⟨t.id, t.correlationId, r.toResponse⟩] := by
  simp [refusalAnswers, h]

theorem refusalAnswers_accepted {t : Task} {p : Payload} (n : Nat) (h : t.check codec = .ok p) :
    refusalAnswers codec [(t, n)] = [] := by
  simp [refusalAnswers, h]

/-- Every consumed task is either refused, and answered with its refusal, or admitted. -/
theorem refusalAnswers_admitted_perm (xs : List (Task × Nat)) :
    ((refusalAnswers codec xs).map (fun d => (d.taskId, d.correlationId)) ++
        (Batch.admitted codec xs).map fun e => (e.task.id, e.task.correlationId)).Perm
      (xs.map fun x => (x.1.id, x.1.correlationId)) := by
  induction xs with
  | nil => simp
  | cons x xs ih =>
      obtain ⟨t, n⟩ := x
      rw [← List.singleton_append, refusalAnswers_append, Batch.admitted_append]
      cases hc : t.check codec with
      | error r =>
          simpa [refusalAnswers_refused n hc, Task.accepted?, hc] using ih
      | ok p =>
          simpa [refusalAnswers_accepted n hc, Task.accepted?, hc] using List.perm_middle.trans (ih.cons _)

end

/-! ## Answers reach the channel while its receiver is held -/

/-- The answers `A`, given one after another on the way from `s` to `s'`, reached the response
channel up to the moment its receiver was dropped: the first of them reached it, in order; all
of them when the receiver is still held in `s'`, and none when it was dropped already in `s`.
A receiver once dropped stays dropped. -/
structure Reaches (A : List Delivery) (s s' : Shared (Env σ ω)) : Prop where
  stays : s'.rest.receiving = true → s.rest.receiving = true
  reached : ∃ n ≤ A.length, s'.rest.delivered.toList = s.rest.delivered.toList ++ A.take n ∧
    (s'.rest.receiving = true → n = A.length) ∧ (s.rest.receiving = false → n = 0)

namespace Reaches

variable {A B : List Delivery} {s s₁ s' : Shared (Env σ ω)}

/-- Answers given at one moment reach the channel all or none, as the receiver is held or not. -/
theorem at_once (hr : s'.rest.receiving = s.rest.receiving)
    (hd : s'.rest.delivered.toList =
      s.rest.delivered.toList ++ if s.rest.receiving then A else []) : Reaches A s s' := by
  refine ⟨fun h => hr ▸ h, ?_⟩
  cases hheld : s.rest.receiving with
  | true => exact ⟨A.length, Nat.le_refl _, by simp [hd, hheld], fun _ => rfl, nofun⟩
  | false => exact ⟨0, Nat.zero_le _, by simp [hd, hheld], fun h => by simp_all, fun _ => rfl⟩

theorem of_effectsOnly (h : EffectsOnly s s') : Reaches [] s s' :=
  at_once h.receiving (by simp [h.delivered])

/-- A wait, in a runtime that keeps the answers, brings none. -/
theorem of_wait {rt : Runtime (Shared (Env σ ω))} (hrt : KeepsAnswers rt) {w : Wait} {r : Woken}
    (hw : rt w s r s') : Reaches [] s s' := by
  obtain ⟨hd, hr⟩ := hrt _ _ _ _ hw
  exact ⟨hr, 0, Nat.zero_le _, by simp [hd], fun _ => rfl, fun _ => rfl⟩

/-- Answers given in two stretches reached the channel as those of one stretch. -/
theorem trans (h₁ : Reaches A s s₁) (h₂ : Reaches B s₁ s') : Reaches (A ++ B) s s' := by
  obtain ⟨hs₁, n₁, hn₁, hd₁, hfull₁, hnone₁⟩ := h₁
  obtain ⟨hs₂, n₂, hn₂, hd₂, hfull₂, hnone₂⟩ := h₂
  refine ⟨fun h => hs₁ (hs₂ h), ?_⟩
  cases hheld : s₁.rest.receiving with
  | true =>
      obtain rfl := hfull₁ hheld
      refine ⟨A.length + n₂, by simp; omega, ?_, fun h => by simp [hfull₂ h], fun h => ?_⟩
      · simp [hd₂, hd₁, List.take_append, List.take_of_length_le (Nat.le_add_right A.length n₂)]
      · simp [h] at hs₁
        simp_all
  | false =>
      obtain rfl := hnone₂ hheld
      refine ⟨n₁, by simp; omega, ?_, fun h => by simp_all, hnone₁⟩
      simp [hd₂, hd₁, List.take_append, Nat.sub_eq_zero_of_le hn₁]

/-- Held to the end, the receiver took every answer. -/
theorem eq_append (h : Reaches A s s') (hheld : s'.rest.receiving = true) :
    s'.rest.delivered.toList = s.rest.delivered.toList ++ A := by
  obtain ⟨-, n, -, hd, hfull, -⟩ := h
  rw [hd, hfull hheld, List.take_length]

/-- Dropped from the start, the receiver took none. -/
theorem eq_of_dropped (h : Reaches A s s') (hdrop : s.rest.receiving = false) :
    s'.rest.delivered.toList = s.rest.delivered.toList := by
  obtain ⟨-, n, -, hd, -, hnone⟩ := h
  rw [hd, hnone hdrop, List.take_zero, List.append_nil]

end Reaches

/-! ## The channel answers at once -/

section
variable {rt : Runtime (Shared (Env σ ω))} {s s' : Shared (Env σ ω)}
  {tr : List (Wake (Shared (Env σ ω)))}

/-- An answer on the channel is taken by the receiver if it is held, and fails otherwise; it
moves neither the clock nor the receiver. -/
theorem channel_respond_out {t : Task} {resp : Response} {r : Except Error Unit}
    (h : Exec rt ((Source.channel : Source σ ω).respond t resp) s s' r tr) :
    tr = [] ∧ s'.now = s.now ∧ s'.rest.receiving = s.rest.receiving ∧
      s'.rest.delivered.toList = s.rest.delivered.toList ++
        (if s.rest.receiving then [⟨t.id, t.correlationId, resp⟩] else []) ∧
      r = if s.rest.receiving then .ok () else .error (receiverDropped t) := by
  obtain ⟨rfl, ⟨hheld, rfl, rfl⟩ | ⟨hheld, rfl, rfl⟩⟩ := channel_respond_exec h
  · simp [hheld]
  · simp [hheld]

theorem channel_pull_keeps (hrt : KeepsAnswers rt) {m : Nat}
    {r : Option (Except Error (Option Task))}
    (h : Exec rt (unlessShutdown ((Source.channel : Source σ ω).next m)) s s' r tr) :
    Reaches [] s s' := by
  rw [unlessShutdown_channel_next] at h
  simp only [exec_step, exec_wait] at h
  obtain ⟨r₀, s₁, tr', hw, hk, rfl⟩ := h
  have hs' : s' = s₁ := by
    cases r₀ <;> exact ((exec_done _).1 hk).1
  subst hs'
  exact .of_wait hrt hw

end

/-! ## An attempt to admit answers the tasks it refuses -/

namespace Assembler

variable {rt : Runtime (Shared (Env σ ω))} {ctx : Context} {s s' : Shared (Env σ ω)}
  {tr : List (Wake (Shared (Env σ ω)))} {a a' : Assembler}

theorem refuse_reaches {t : Task} {r : Refusal}
    (h : Exec rt (a.refuse Source.channel t r) s s' a' tr) :
    Reaches [⟨t.id, t.correlationId, r.toResponse⟩] s s' ∧ tr = [] ∧ s'.now = s.now := by
  obtain ⟨-, s₁, s₂, res, hs₁, hres, hs₂⟩ := refuse_exec h
  obtain ⟨rfl, hn, hr, hd, -⟩ := channel_respond_out hres
  refine ⟨?_, rfl, by rw [hs₂.now, hn, hs₁.now]⟩
  have := ((Reaches.of_effectsOnly hs₁).trans (Reaches.at_once hr hd)).trans (Reaches.of_effectsOnly hs₂)
  simpa using this

theorem pullOrShutdown_reaches (hrt : KeepsAnswers rt) {m : Nat}
    {r : Option (Except Error (Option Task))}
    (h : Exec rt (pullOrShutdown Source.channel m) s s' r tr) : Reaches [] s s' := by
  rcases pullOrShutdown_exec h with ⟨-, -, rfl, -⟩ | ⟨-, h⟩
  · exact .of_effectsOnly (.refl _)
  · exact channel_pull_keeps hrt h

/-- A pass answers the task it refuses, if any. -/
theorem pullOnce_reaches (hrt : KeepsAnswers rt) {deadline : Nat}
    {res : Assembler ⊕ (Admission × Assembler)}
    (h : Exec rt (pullOnce ctx Source.channel deadline a) s s' res tr) :
    Reaches (refusalAnswers ctx.codec (taken tr)) s s' := by
  obtain ⟨s₁, r, tr₁, tr₂, hpull, hend, rfl⟩ := pullOnce_exec h
  have h₁ := pullOrShutdown_reaches hrt hpull
  have ht₁ := pullOrShutdown_taken (Source.channel_faithful rt) hpull
  cases hend with
  | interrupted hs => simpa [ht₁, pulled] using h₁.trans (.of_effectsOnly hs)
  | elapsed hs => simpa [ht₁, pulled] using h₁.trans (.of_effectsOnly hs)
  | failed hs => simpa [ht₁, pulled] using h₁.trans (.of_effectsOnly hs)
  | admitted hc hs =>
      simpa [ht₁, pulled, refusalAnswers_accepted _ hc] using h₁.trans (.of_effectsOnly hs)
  | refusedLate hc hr _ hs =>
      obtain ⟨h₂, rfl, -⟩ := refuse_reaches hr
      simpa [ht₁, pulled, refusalAnswers_refused _ hc] using (h₁.trans h₂).trans (.of_effectsOnly hs)
  | refused hc hr _ =>
      obtain ⟨h₂, rfl, -⟩ := refuse_reaches hr
      simpa [ht₁, pulled, refusalAnswers_refused _ hc] using h₁.trans h₂

/-- An attempt to admit answers exactly the tasks it refuses, in the order it took them, as
far as the receiver takes them. -/
theorem tryAdmit_reaches (hrt : KeepsAnswers rt) {r : Admission × Assembler}
    (h : Exec rt (a.tryAdmit ctx Source.channel) s s' r tr) :
    Reaches (refusalAnswers ctx.codec (taken tr)) s s' := by
  cases tryAdmit_exec h with
  | full _ hs => simpa using Reaches.of_effectsOnly hs
  | closed _ _ => simpa using Reaches.of_effectsOnly (.refl s)
  | shutdown _ _ _ hs => simpa using Reaches.of_effectsOnly hs
  | pulls _ _ _ h =>
      have hloop := Exec.loop_invariant
        (I := fun _ s₁ pre => Reaches (refusalAnswers ctx.codec (taken pre)) s s₁)
        (J := fun _ s₁ pre => Reaches (refusalAnswers ctx.codec (taken pre)) s s₁) ?_ []
        (by simpa using Reaches.of_effectsOnly (.refl s)) h
      · obtain ⟨c, s₃, tr₁, tr₂, hJ, hdone, rfl⟩ := hloop
        obtain ⟨rfl, -, rfl⟩ := (exec_done _).1 hdone
        simpa using hJ
      intro b s₁ s₂ res tr pre hI hpass
      have hd := hI.trans (pullOnce_reaches hrt hpass)
      cases res <;> simpa using hd

end Assembler

/-! ## Processing code on the cursor -/

namespace Cursor

variable {rt : Runtime (Shared (Env σ ω))} {ctx : Context} {src : Source σ ω}
  {s s' : Shared (Env σ ω)} {tr : List (Wake (Shared (Env σ ω)))} {c c' : Cursor}

/-- Asking for the next document either hands out one already admitted, or tries to admit
one more. -/
theorem next_exec {i : Option Nat} (h : Exec rt (c.next ctx src) s s' (i, c') tr) :
    (s' = s ∧ tr = [] ∧ c'.assembler = c.assembler) ∨
      ∃ adm, Exec rt (c.assembler.tryAdmit ctx src) s s' (adm, c'.assembler) tr := by
  unfold Cursor.next at h
  split at h
  · simp only [bind_eq, exec_bind] at h
    obtain ⟨s₁, ⟨adm, a⟩, tr₁, tr₂, ht, h, rfl⟩ := h
    cases adm <;>
    · obtain ⟨rfl, hres, rfl⟩ := (exec_done _).1 h
      cases hres
      exact .inr ⟨_, by simpa using ht⟩
  · obtain ⟨rfl, hres, rfl⟩ := (exec_done _).1 h
    cases hres
    exact .inl ⟨rfl, rfl, rfl⟩

theorem close_exec (h : Exec rt c.close s s' c' tr) :
    ∃ a, Exec rt (c.assembler.closeFor .closedByWorker) s s' a tr ∧ c'.assembler = a := by
  simp only [Cursor.close, bind_eq, pure_eq, exec_bind, exec_done] at h
  obtain ⟨s₁, a, tr₁, tr₂, hc, ⟨rfl, rfl, rfl⟩, rfl⟩ := h
  exact ⟨a, by simpa using hc, rfl⟩

/-- Processing a document runs the worker on it and, if the worker succeeds, puts the new
document in its place. -/
theorem process_exec {w : Worker σ ω} {i : Nat} {r : Except TransientError Bool}
    (h : Exec rt (c.process w i) s s' (r, c') tr) :
    tr = [] ∧ EffectsOnly s s' ∧
      (c' = c ∨ ∃ d, c' = { c with assembler := { c.assembler with batch := c.batch.setDocument i d } }) := by
  unfold Cursor.process at h
  split at h
  · obtain ⟨rfl, hres, rfl⟩ := (exec_done _).1 h
    cases hres
    exact ⟨rfl, .refl _, .inl rfl⟩
  · simp only [bind_eq, exec_bind] at h
    obtain ⟨s₁, ⟨d, res⟩, tr₁, tr₂, hw, h, rfl⟩ := h
    obtain ⟨hs, rfl⟩ := Eng.work_effectsOnly hw
    obtain ⟨rfl, hres, rfl⟩ := (exec_done _).1 h
    cases hres
    exact ⟨rfl, hs, .inr ⟨d, rfl⟩⟩

end Cursor

/-- The runs of processing code on a cursor, from `c` in the state `s`: the cursor moves only
by its own operations, and in between the code works on its own, taking no task and answering
none. -/
inductive CursorRun (ctx : Context) (src : Source σ ω) (rt : Runtime (Shared (Env σ ω)))
    (c : Cursor) (s : Shared (Env σ ω)) :
    Cursor → Shared (Env σ ω) → List (Wake (Shared (Env σ ω))) → Prop
  | nil : CursorRun ctx src rt c s c s []
  /-- The code asks for the next document. -/
  | next {c₁ c₂ : Cursor} {s₁ s₂ : Shared (Env σ ω)} {tr tr' : List (Wake (Shared (Env σ ω)))}
      {i : Option Nat} :
      CursorRun ctx src rt c s c₁ s₁ tr → Exec rt (c₁.next ctx src) s₁ s₂ (i, c₂) tr' →
        CursorRun ctx src rt c s c₂ s₂ (tr ++ tr')
  /-- The code closes the batch. -/
  | close {c₁ c₂ : Cursor} {s₁ s₂ : Shared (Env σ ω)} {tr tr' : List (Wake (Shared (Env σ ω)))} :
      CursorRun ctx src rt c s c₁ s₁ tr → Exec rt c₁.close s₁ s₂ c₂ tr' →
        CursorRun ctx src rt c s c₂ s₂ (tr ++ tr')
  /-- The code puts a new document in place of an admitted one. -/
  | edit {c₁ : Cursor} {s₁ : Shared (Env σ ω)} {tr : List (Wake (Shared (Env σ ω)))}
      (i : Nat) (d : Document) :
      CursorRun ctx src rt c s c₁ s₁ tr →
        CursorRun ctx src rt c s { c₁ with assembler := { c₁.assembler with batch := c₁.batch.setDocument i d } } s₁ tr
  /-- The code works on its own: it takes no task and answers none. -/
  | work {c₁ : Cursor} {s₁ s₂ : Shared (Env σ ω)} {tr tr' : List (Wake (Shared (Env σ ω)))} :
      CursorRun ctx src rt c s c₁ s₁ tr → taken tr' = [] → Reaches [] s₁ s₂ →
        CursorRun ctx src rt c s c₁ s₂ (tr ++ tr')

/-- A processor respects the cursor when every run of its processing is a run of the cursor. -/
def Processor.Respects (rt : Runtime (Shared (Env σ ω))) (ctx : Context) (src : Source σ ω)
    (p : Processor σ ω) : Prop :=
  ∀ c s s' r c' tr, Exec rt (Runner.processWith ctx src c p) s s' (r, c') tr →
    CursorRun ctx src rt c s c' s' tr

namespace CursorRun

variable {rt : Runtime (Shared (Env σ ω))} {ctx : Context} {src : Source σ ω}
  {c c₁ c₂ : Cursor} {s s₁ s₂ : Shared (Env σ ω)} {tr tr' : List (Wake (Shared (Env σ ω)))}

/-- Processing one document is a step of the cursor. -/
theorem process {w : Worker σ ω} {i : Nat} {r : Except TransientError Bool}
    (h : CursorRun ctx src rt c s c₁ s₁ tr) (hp : Exec rt (c₁.process w i) s₁ s₂ (r, c₂) tr') :
    CursorRun ctx src rt c s c₂ s₂ (tr ++ tr') := by
  obtain ⟨rfl, hs, rfl | ⟨d, rfl⟩⟩ := Cursor.process_exec hp
  · exact h.work rfl (.of_effectsOnly hs)
  · have hnil : taken ([] : List (Wake (Shared (Env σ ω)))) = [] := rfl
    simpa using (h.work hnil (.of_effectsOnly hs)).edit i d

end CursorRun

theorem Processor.single_respects (rt : Runtime (Shared (Env σ ω))) (ctx : Context)
    (src : Source σ ω) (w : Worker σ ω) : (Processor.single w).Respects rt ctx src := by
  intro c s s' r c' tr h
  simp only [Runner.processWith, bind_eq, exec_bind] at h
  obtain ⟨s₁, ⟨i, c₁⟩, tr₁, tr₂, hn, h, rfl⟩ := h
  have h₁ : CursorRun ctx src rt c s c₁ s₁ tr₁ := by simpa using CursorRun.nil.next hn
  rcases i with _ | i
  · obtain ⟨rfl, hres, rfl⟩ := (exec_done _).1 h
    cases hres
    simpa using h₁
  · simp only [exec_bind] at h
    obtain ⟨s₂, ⟨r₂, c₂⟩, tr₃, tr₄, hp, h, rfl⟩ := h
    obtain ⟨rfl, hres, rfl⟩ := (exec_done _).1 h
    cases hres
    simpa using h₁.process hp

theorem Processor.bulkEach_respects (rt : Runtime (Shared (Env σ ω))) (ctx : Context)
    (src : Source σ ω) (w : Worker σ ω) : (Processor.bulkEach w).Respects rt ctx src := by
  intro c s s' r c' tr h
  simp only [Runner.processWith, Processor.bulkEach, Processor.eachDocument, bind_eq, exec_bind] at h
  obtain ⟨s₁, ⟨n, c₁⟩, tr₁, tr₂, hd, h, rfl⟩ := h
  obtain ⟨rfl, hres, rfl⟩ := (exec_done _).1 h
  cases hres
  simp only [Cursor.drain, Proc.iterate] at hd
  have hloop := Exec.loop_invariant
    (I := fun b s₂ pre => CursorRun ctx src rt c s b.2 s₂ pre)
    (J := fun b s₂ pre => CursorRun ctx src rt c s b.2 s₂ pre) ?_ [] .nil hd
  · obtain ⟨⟨n', c₂⟩, s₃, tr₃, tr₄, hJ, hdone, rfl⟩ := hloop
    obtain ⟨rfl, hres, rfl⟩ := (exec_done _).1 hdone
    cases hres
    simpa using hJ
  rintro ⟨k, c₂⟩ s₂ s₃ res tr₅ pre hI hpass
  simp only [bind_eq, exec_bind] at hpass
  obtain ⟨s₄, ⟨i, c₃⟩, tr₆, tr₇, hn, hpass, rfl⟩ := hpass
  have h₃ := hI.next hn
  rcases i with _ | i
  · obtain ⟨rfl, rfl, rfl⟩ := (exec_done _).1 hpass
    simpa using h₃
  · simp only [exec_bind] at hpass
    obtain ⟨s₅, ⟨r₅, c₅⟩, tr₈, tr₉, hp, hpass, rfl⟩ := hpass
    have h₅ := h₃.process hp
    rcases r₅ with e | _ <;>
    · obtain ⟨rfl, rfl, rfl⟩ := (exec_done _).1 hpass
      simpa [List.append_assoc] using h₅

/-! ## What processing leaves of the batch -/

/-- Editing a document keeps the task it belongs to. -/
theorem Batch.tasks_setDocument (i : Nat) (d : Document) (b : Batch) :
    (b.setDocument i d).entries.map (·.task) = b.entries.map (·.task) := by
  simp only [Batch.setDocument]
  generalize b.entries = es
  induction es generalizing i with
  | nil => simp
  | cons e es ih =>
      cases i with
      | zero => simp
      | succ i => simp [ih]

namespace CursorRun

variable {rt : Runtime (Shared (Env σ ω))} {ctx : Context}
  {c c' : Cursor} {s s' : Shared (Env σ ω)} {tr : List (Wake (Shared (Env σ ω)))}

/-- Processing code on the channel's cursor admits the tasks it takes that pass their check, in
the order it takes them; counts the others; and answers exactly those, in the same order, as
far as the receiver takes them. -/
theorem answers (hrt : KeepsAnswers rt) (h : CursorRun ctx Source.channel rt c s c' s' tr) :
    c'.batch.entries.map (·.task) =
        c.batch.entries.map (·.task) ++ (Batch.admitted ctx.codec (taken tr)).map (·.task) ∧
      c'.batch.refused = c.batch.refused + Batch.refusals ctx.codec (taken tr) ∧
      Reaches (refusalAnswers ctx.codec (taken tr)) s s' := by
  simp only [Cursor.batch]
  induction h with
  | nil => exact ⟨by simp, by simp, by simpa using Reaches.of_effectsOnly (.refl _)⟩
  | next _ hn ih =>
      obtain ⟨ht, hr, hd⟩ := ih
      rcases Cursor.next_exec hn with ⟨rfl, rfl, hc⟩ | ⟨adm, ha⟩
      · exact ⟨by simp [hc, ht], by simp [hc, hr], by simpa using hd⟩
      · obtain ⟨ht', hr'⟩ := (Assembler.tryAdmit_attempt (Source.channel_faithful rt) ha).advance.tasks
        have hd' := Assembler.tryAdmit_reaches hrt ha
        refine ⟨?_, ?_, ?_⟩
        · simp [ht', ht]
        · simp [hr', hr, Nat.add_assoc]
        · simpa using hd.trans hd'
  | close _ hc ih =>
      obtain ⟨ht, hr, hd⟩ := ih
      obtain ⟨a, hca, rfl⟩ := Cursor.close_exec hc
      obtain ⟨ht', hr'⟩ := (Assembler.closeFor_advance ctx.codec hca).2.tasks
      obtain ⟨-, rfl, hs⟩ := Assembler.closeFor_exec hca
      refine ⟨?_, ?_, ?_⟩
      · simp [ht', ht]
      · simp [hr', hr]
      · simpa using hd.trans (.of_effectsOnly hs)
  | edit i d _ ih =>
      obtain ⟨ht, hr, hd⟩ := ih
      exact ⟨by rw [Batch.tasks_setDocument]; exact ht, hr, hd⟩
  | work _ ht₀ hd₀ ih =>
      obtain ⟨ht, hr, hd⟩ := ih
      exact ⟨by simp [ht, ht₀], by simp [hr, ht₀], by simpa [ht₀] using hd.trans hd₀⟩

end CursorRun

/-! ## The answers after processing -/

/-- The answer an admitted task gets after processing: a success carrying the JSON form of its
document's patch when processing succeeded, a rejection carrying the failure's text when it
failed. -/
def Entry.answer : Except TransientError Unit → Entry → Delivery
  | .ok _, e => ⟨e.task.id, e.task.correlationId, .success (Utf8.encode e.document.toPatch.toJson.render)⟩
  | .error err, e => ⟨e.task.id, e.task.correlationId, .rejected err.display⟩

@[simp] theorem Entry.answer_taskId (res : Except TransientError Unit) (e : Entry) :
    (e.answer res).taskId = e.task.id := by
  cases res <;> rfl

@[simp] theorem Entry.answer_correlationId (res : Except TransientError Unit) (e : Entry) :
    (e.answer res).correlationId = e.task.correlationId := by
  cases res <;> rfl

/-- The failure reported for an admitted task whose answer found the response channel's
receiver dropped. -/
def Entry.undelivered (e : Entry) : ResponseFailure := ⟨e.task.id, receiverDropped e.task⟩

namespace Runner

variable {rt : Runtime (Shared (Env σ ω))} {ctx : Context}

theorem transition_effectsOnly {source target : String} {s s' : Shared (Env σ ω)} {u : Unit}
    {tr : List (Wake (Shared (Env σ ω)))} (h : Exec rt (transition source target) s s' u tr) :
    EffectsOnly s s' ∧ tr = [] :=
  Eng.emit_effectsOnly h

/-- Recording an answer that failed logs it and gives its failure. -/
theorem failed_exec {t : Task} {e : Error} {s s' : Shared (Env σ ω)} {f : ResponseFailure}
    {tr : List (Wake (Shared (Env σ ω)))} (h : Exec rt (failed t e) s s' f tr) :
    EffectsOnly s s' ∧ f = ⟨t.id, e⟩ ∧ tr = [] := by
  simp only [failed, bind_eq, pure_eq, exec_bind, exec_done] at h
  obtain ⟨s₁, u, tr₁, tr₂, he, ⟨rfl, rfl, rfl⟩, rfl⟩ := h
  obtain ⟨hs, rfl⟩ := Eng.emit_effectsOnly he
  exact ⟨hs, rfl, by simp⟩

/-- One answer of the fan-out on the channel, then the rest: the answer reaches the receiver
if it is held, and is recorded as undelivered if not. -/
theorem answerThen_exec {t : Task} {resp : Response}
    {rest : Eng σ ω (List ResponseFailure)} {P : Shared (Env σ ω) → Shared (Env σ ω) → List ResponseFailure → List (Wake (Shared (Env σ ω))) → Prop}
    (hrest : ∀ {s s' fs tr}, Exec rt rest s s' fs tr → P s s' fs tr)
    {s s' : Shared (Env σ ω)} {fs : List ResponseFailure} {tr : List (Wake (Shared (Env σ ω)))}
    (h : Exec rt (Proc.bind ((Source.channel : Source σ ω).respond t resp) fun r =>
      match r with
      | .ok () => (done []).bind fun here => Proc.bind rest fun more => done (here ++ more)
      | .error err => Proc.bind (failed t err) fun f =>
          (done [f]).bind fun here => Proc.bind rest fun more => done (here ++ more)) s s' fs tr) :
    ∃ s₁ fs', Reaches [⟨t.id, t.correlationId, resp⟩] s s₁ ∧ s₁.rest.receiving = s.rest.receiving ∧
      P s₁ s' fs' tr ∧ fs = (if s.rest.receiving then [] else [⟨t.id, receiverDropped t⟩]) ++ fs' := by
  obtain ⟨s₁, r, tr₁, tr₂, hr, h, rfl⟩ := (exec_bind _ _).1 h
  obtain ⟨rfl, -, hr₁, hd₁, hres⟩ := channel_respond_out hr
  have hreach := Reaches.at_once hr₁ hd₁
  cases hheld : s.rest.receiving with
  | true =>
      rw [hheld, if_pos rfl] at hres
      subst hres
      simp only [Proc.bind, exec_bind, exec_done] at h
      obtain ⟨s₂, more, tr₃, tr₄, hmore, ⟨rfl, hfs, rfl⟩, rfl⟩ := h
      exact ⟨s₁, more, hreach, hr₁.trans hheld, by simpa using hrest hmore, by simp [hfs]⟩
  | false =>
      rw [hheld, if_neg Bool.false_ne_true] at hres
      subst hres
      simp only [Proc.bind, exec_bind, exec_done] at h
      obtain ⟨s₂, f, tr₃, tr₄, hf, ⟨s₃, more, tr₅, tr₆, hmore, ⟨rfl, hfs, rfl⟩, rfl⟩, rfl⟩ := h
      obtain ⟨hs₂, rfl, rfl⟩ := failed_exec hf
      refine ⟨s₂, more, ?_, by rw [hs₂.receiving, hr₁, hheld], by simpa using hrest hmore, by simp [hfs]⟩
      simpa using hreach.trans (.of_effectsOnly hs₂)

/-- On the channel with the JSON codec, the successes reach the response channel, in order, if
its receiver is held, and are all recorded as undelivered if not. -/
theorem respondSuccess_exec (hjson : ctx.codec = Codec.json) :
    ∀ {es : List Entry} {s s' : Shared (Env σ ω)} {fs : List ResponseFailure}
      {tr : List (Wake (Shared (Env σ ω)))},
      Exec rt (respondSuccess ctx Source.channel es) s s' fs tr →
        tr = [] ∧ s'.rest.receiving = s.rest.receiving ∧
          Reaches (es.map (Entry.answer (.ok ()))) s s' ∧
          fs = if s.rest.receiving then [] else es.map Entry.undelivered
  | [], s, s', fs, tr, h => by
      obtain ⟨rfl, rfl, rfl⟩ := (exec_done _).1 h
      exact ⟨rfl, rfl, by simpa using Reaches.of_effectsOnly (.refl _), by simp⟩
  | e :: es, s, s', fs, tr, h => by
      simp only [respondSuccess, hjson, Codec.json, bind_eq, pure_eq] at h
      obtain ⟨s₁, fs', h₁, hr₁, ⟨rfl, hr₂, h₂, rfl⟩, rfl⟩ :=
        answerThen_exec (fun h => respondSuccess_exec hjson h) h
      refine ⟨rfl, hr₂.trans hr₁, by simpa [Entry.answer] using h₁.trans h₂, ?_⟩
      rw [hr₁]
      cases s.rest.receiving <;> simp [Entry.undelivered]

/-- On the channel, the rejections reach the response channel, in order, if its receiver is
held, and are all recorded as undelivered if not. -/
theorem respondRejected_exec {reason : String} :
    ∀ {es : List Entry} {s s' : Shared (Env σ ω)} {fs : List ResponseFailure}
      {tr : List (Wake (Shared (Env σ ω)))},
      Exec rt (respondRejected Source.channel reason es) s s' fs tr →
        tr = [] ∧ s'.rest.receiving = s.rest.receiving ∧
          Reaches (es.map fun e => ⟨e.task.id, e.task.correlationId, .rejected reason⟩) s s' ∧
          fs = if s.rest.receiving then [] else es.map Entry.undelivered
  | [], s, s', fs, tr, h => by
      obtain ⟨rfl, rfl, rfl⟩ := (exec_done _).1 h
      exact ⟨rfl, rfl, by simpa using Reaches.of_effectsOnly (.refl _), by simp⟩
  | e :: es, s, s', fs, tr, h => by
      simp only [respondRejected, bind_eq, pure_eq] at h
      obtain ⟨s₁, fs', h₁, hr₁, ⟨rfl, hr₂, h₂, rfl⟩, rfl⟩ :=
        answerThen_exec (fun h => respondRejected_exec h) h
      refine ⟨rfl, hr₂.trans hr₁, by simpa using h₁.trans h₂, ?_⟩
      rw [hr₁]
      cases s.rest.receiving <;> simp [Entry.undelivered]

end Runner

/-! ## A batch run -/

/-- How a run answers the admitted tasks once processing returned: all with successes when it
succeeded; when it failed, all with rejections, after logging the failure. -/
inductive FanOut (ctx : Context) (src : Source σ ω) (rt : Runtime (Shared (Env σ ω)))
    (entries : List Entry) (s : Shared (Env σ ω)) :
    Except TransientError Unit → Outcome → List ResponseFailure → Shared (Env σ ω) →
      List (Wake (Shared (Env σ ω))) → Prop
  /-- Processing succeeded: every admitted task is answered with its patch. -/
  | succeeded {s₁ s' : Shared (Env σ ω)} {fs : List ResponseFailure}
      {tr : List (Wake (Shared (Env σ ω)))} :
      Exec rt (Runner.respondSuccess ctx src entries) s s₁ fs tr → EffectsOnly s₁ s' →
        FanOut ctx src rt entries s (.ok ()) .succeeded fs s' tr
  /-- Processing failed: every admitted task is rejected with the failure's text. -/
  | rejected {e : TransientError} {s₁ s₂ s' : Shared (Env σ ω)} {fs : List ResponseFailure}
      {tr : List (Wake (Shared (Env σ ω)))} :
      EffectsOnly s s₁ → Exec rt (Runner.respondRejected src e.display entries) s₁ s₂ fs tr →
        EffectsOnly s₂ s' → FanOut ctx src rt entries s (.error e) .rejected fs s' tr

section
variable {rt : Runtime (Shared (Env σ ω))} {ctx : Context} {src : Source σ ω}
  {p : Processor σ ω} {s s' : Shared (Env σ ω)} {R : Report} {tr : List (Wake (Shared (Env σ ω)))}

/-- The end of a run: it reads the clock, logs if it has to, and returns what it computed
from the time. -/
theorem exec_now_logIf {α : Type} {c : Nat → Bool} {e : Nat → Event} {f : Nat → α} {a : α}
    (h : Exec rt (do
      let n ← Act.now
      if c n then Eng.emit (e n)
      pure (f n)) s s' a tr) :
    EffectsOnly s s' ∧ tr = [] ∧ a = f s.now := by
  simp only [bind_eq, exec_bind, Act.exec_now] at h
  obtain ⟨_, _, _, tr₁, ⟨rfl, rfl, rfl⟩, h, rfl⟩ := h
  split at h
  · obtain ⟨s₁, u, tr₂, tr₃, he, hret, rfl⟩ := (exec_bind _ _).1 h
    obtain ⟨rfl, rfl, rfl⟩ := (exec_done _).1 hret
    obtain ⟨hs, rfl⟩ := Eng.emit_effectsOnly he
    exact ⟨hs, rfl, rfl⟩
  · obtain ⟨rfl, rfl, rfl⟩ := (exec_done _).1 h
    exact ⟨.refl _, rfl, rfl⟩

/-- A batch run hands a fresh cursor to the processor, answers the admitted tasks by the
outcome of processing, and reports on the batch it was left with. -/
theorem runBatch_exec (h : Exec rt (runBatch ctx src p) s s' R tr) :
    ∃ s₀ s₁ res c outcome fs tr₁ tr₂, EffectsOnly s s₀ ∧
      Exec rt (Runner.processWith ctx src { assembler := { limits := Runner.limits ctx.settings p } } p)
        s₀ s₁ (res, c) tr₁ ∧
      FanOut ctx src rt c.batch.entries s₁ res outcome fs s' tr₂ ∧ tr = tr₁ ++ tr₂ ∧
      R = { size := c.batch.size, refused := c.batch.refused, outcome := outcome,
            closeReason := c.batch.closeReason,
            interrupted := c.batch.closeReason == some .interrupted, failures := fs,
            durationMs := s'.now - s.now } := by
  obtain ⟨_, _, _, tr₁, hnow, h₁, rfl⟩ := (exec_bind _ _).1 h
  obtain ⟨rfl, rfl, rfl⟩ := Act.exec_now.1 hnow
  obtain ⟨s₁, u₁, tr₂, tr₃, ht₁, h₂, rfl⟩ := (exec_bind _ _).1 h₁
  obtain ⟨s₂, u₂, tr₄, tr₅, ht₂, h₃, rfl⟩ := (exec_bind _ _).1 h₂
  obtain ⟨s₃, ⟨res, c⟩, tr₆, tr₇, hp, h₄, rfl⟩ := (exec_bind _ _).1 h₃
  obtain ⟨hs₁, rfl⟩ := Runner.transition_effectsOnly ht₁
  obtain ⟨hs₂, rfl⟩ := Runner.transition_effectsOnly ht₂
  cases res with
  | ok u =>
      obtain ⟨s₄, fs, tr₈, tr₉, hsucc, h₅, rfl⟩ := (exec_bind _ _).1 h₄
      obtain ⟨s₅, u₃, tr₁₀, tr₁₁, ht₃, h₆, rfl⟩ := (exec_bind _ _).1 h₅
      obtain ⟨_, _, _, tr₁₂, hpure, h₇, rfl⟩ := (exec_bind _ _).1 h₆
      obtain ⟨rfl, rfl, rfl⟩ := (exec_done _).1 hpure
      obtain ⟨hs₃, rfl⟩ := Runner.transition_effectsOnly ht₃
      obtain ⟨hs₄, rfl, rfl⟩ := exec_now_logIf h₇
      refine ⟨_, _, _, _, _, _, _, _, hs₁.trans hs₂, hp, .succeeded hsucc (hs₃.trans hs₄), by simp, ?_⟩
      simp [hs₄.now]
  | error err =>
      obtain ⟨s₄, u₃, tr₈, tr₉, he, h₅, rfl⟩ := (exec_bind _ _).1 h₄
      obtain ⟨s₅, fs, tr₁₀, tr₁₁, hrej, h₆, rfl⟩ := (exec_bind _ _).1 h₅
      obtain ⟨s₆, u₄, tr₁₂, tr₁₃, ht₃, h₇, rfl⟩ := (exec_bind _ _).1 h₆
      obtain ⟨_, _, _, tr₁₄, hpure, h₈, rfl⟩ := (exec_bind _ _).1 h₇
      obtain ⟨rfl, rfl, rfl⟩ := (exec_done _).1 hpure
      obtain ⟨hs₃, rfl⟩ := Eng.emit_effectsOnly he
      obtain ⟨hs₄, rfl⟩ := Runner.transition_effectsOnly ht₃
      obtain ⟨hs₅, rfl, rfl⟩ := exec_now_logIf h₈
      refine ⟨_, _, _, _, _, _, _, _, hs₁.trans hs₂, hp, .rejected hs₃ hrej (hs₄.trans hs₅), by simp, ?_⟩
      simp [hs₅.now]


/-- On the channel with the JSON codec, the answers after processing come at one moment: the
outcome is the branch processing took, nothing is taken, the receiver stays as it was, and the
answers reach the response channel all together if its receiver is held, or are all reported
undelivered if not. -/
theorem FanOut.channel (hjson : ctx.codec = Codec.json) {es : List Entry}
    {res : Except TransientError Unit} {outcome : Outcome} {fs : List ResponseFailure}
    (h : FanOut ctx Source.channel rt es s res outcome fs s' tr) :
    outcome = (if res.isOk then .succeeded else .rejected) ∧ tr = [] ∧
      s'.rest.receiving = s.rest.receiving ∧ Reaches (es.map (Entry.answer res)) s s' ∧
      fs = if s.rest.receiving then [] else es.map Entry.undelivered := by
  cases h with
  | succeeded hsucc hs =>
      obtain ⟨rfl, hr, hd, rfl⟩ := Runner.respondSuccess_exec hjson hsucc
      exact ⟨rfl, rfl, hs.receiving.trans hr, by simpa using hd.trans (.of_effectsOnly hs), rfl⟩
  | rejected hs₁ hrej hs₂ =>
      obtain ⟨rfl, hr, hd, rfl⟩ := Runner.respondRejected_exec hrej
      refine ⟨rfl, rfl, by rw [hs₂.receiving, hr, hs₁.receiving], ?_, by rw [hs₁.receiving]⟩
      have hall := ((Reaches.of_effectsOnly hs₁).trans hd).trans (.of_effectsOnly hs₂)
      rw [List.nil_append, List.append_nil] at hall
      exact hall

@[simp] theorem Cursor.batch_fresh (limits : Limits) :
    ({ assembler := { limits } } : Cursor).batch = {} := rfl

/-- What a batch run did with the tasks `xs` it took, given what processing returned and the
cursor it left; the run started in `s`, processing ended in `s₁` and the run in `s'`. -/
structure Answered (codec : Codec) (xs : List (Task × Nat)) (res : Except TransientError Unit)
    (c : Cursor) (s s₁ s' : Shared (Env σ ω)) (R : Report) : Prop where
  /-- The batch holds the tasks that passed their check, in the order they were taken. -/
  admitted : c.batch.entries.map (·.task) = (Batch.admitted codec xs).map (·.task)
  /-- Every task taken is answered exactly once, and no other task is: each refused one as it
  is taken, then every admitted one, in order, all by the same outcome of processing. -/
  once : ((refusalAnswers codec xs ++ c.batch.entries.map (Entry.answer res)).map
      fun d => (d.taskId, d.correlationId)).Perm (xs.map fun x => (x.1.id, x.1.correlationId))
  /-- The refusals reach the response channel as far as its receiver takes them. -/
  refusals : Reaches (refusalAnswers codec xs) s s₁
  /-- The answers to the admitted tasks come at one moment, after processing: all of them reach
  the response channel if its receiver is still held, none if not. -/
  fanOut : s'.rest.receiving = s₁.rest.receiving ∧ Reaches (c.batch.entries.map (Entry.answer res)) s₁ s'
  /-- Each admitted task whose answer did not reach the channel is reported, in order, with the
  error of the dropped receiver. -/
  failures : R.failures = if s'.rest.receiving then [] else c.batch.entries.map Entry.undelivered
  size : R.size = (Batch.admitted codec xs).length
  refused : R.refused = Batch.refusals codec xs
  outcome : R.outcome = if res.isOk then .succeeded else .rejected
  closeReason : R.closeReason = c.batch.closeReason
  interrupted : R.interrupted = true ↔ R.closeReason = some .interrupted

/-- A batch run on the channel with the JSON codec, whatever the processor does through its
cursor and whatever the runtime brings, answers every task it takes exactly once and no other:
each refused task with its refusal when it is taken, then every admitted task in the order of
admission, all with successes carrying their own documents' patches or all with the rejection
processing failed with. The answers reach the response channel until its receiver is dropped;
the admitted ones that do not are the run's response failures. Its report counts what was
admitted and refused. -/
theorem runBatch_answers (hrt : KeepsAnswers rt) (hjson : ctx.codec = Codec.json)
    (hp : p.Respects rt ctx Source.channel) (h : Exec rt (runBatch ctx Source.channel p) s s' R tr) :
    ∃ s₀ s₁ res c, EffectsOnly s s₀ ∧
      Exec rt (Runner.processWith ctx Source.channel
        { assembler := { limits := Runner.limits ctx.settings p } } p) s₀ s₁ (res, c) tr ∧
      Answered ctx.codec (taken tr) res c s s₁ s' R := by
  obtain ⟨s₀, s₁, res, c, outcome, fs, tr₁, tr₂, hs₀, hproc, hfan, rfl, rfl⟩ := runBatch_exec h
  obtain ⟨hout, rfl, hrecv, hreach, rfl⟩ := hfan.channel hjson
  obtain ⟨ht, hr, hd₁⟩ := (hp _ _ _ _ _ _ hproc).answers hrt
  simp only [Cursor.batch_fresh, List.map_nil, List.nil_append, Nat.zero_add] at ht hr
  rw [List.append_nil]
  have hkeys : (c.batch.entries.map (Entry.answer res)).map (fun d => (d.taskId, d.correlationId)) =
      (Batch.admitted ctx.codec (taken tr₁)).map fun e => (e.task.id, e.task.correlationId) := by
    have := congrArg (List.map fun t : Task => (t.id, t.correlationId)) ht
    simpa [Function.comp_def] using this
  refine ⟨s₀, s₁, res, c, hs₀, by simpa using hproc, ?_⟩
  exact {
    admitted := ht
    once := by simpa [hkeys] using refusalAnswers_admitted_perm (taken tr₁)
    refusals := by simpa using (Reaches.of_effectsOnly hs₀).trans hd₁
    fanOut := ⟨hrecv, hreach⟩
    failures := by rw [hrecv]
    size := by simpa [Batch.size] using congrArg List.length ht
    refused := hr
    outcome := hout
    closeReason := rfl
    interrupted := by simp }

end


/-- The echo worker leaves every document as it is and succeeds. -/
def Worker.echo : Worker σ ω := ⟨fun d => pure (d, .ok ())⟩

/-- The run of a bulk batch with the echo worker, in a world that drops the receiver of the
response channel while the batch window runs: a task with no data is refused and its refusal
reaches the channel; a task with a document is admitted, and when the window is over its
success finds the receiver dropped. -/
theorem runBatch_dropped_receiver_run :
    ∃ (s' : Shared (Env Unit Unit)) (R : Report) (tr : List (Wake (Shared (Env Unit Unit)))),
      Exec (Outside.runtime ⟨5000, some 1000⟩) (runBatch {} Source.channel (Processor.bulkEach Worker.echo))
        (Outside.start [{ id := 1 }, Task.blank 2]) s' R tr ∧
      R.size = 1 ∧ R.refused = 1 ∧ R.failures.map (fun f => f.taskId) = [2] ∧
      s'.rest.delivered.toList.map (fun d => d.taskId) = [1] := by
  obtain ⟨s', R, tr, h, hfacts⟩ := exec_of_runFor_any (show
    (runFor (Outside.wake ⟨5000, some 1000⟩) 1000
      (runBatch {} Source.channel (Processor.bulkEach (Worker.echo : Worker Unit Unit)))
        (Outside.start [{ id := 1 }, Task.blank 2])).any
      (fun x => x.2.1.size == 1 && x.2.1.refused == 1 && x.2.1.failures.map (fun f => f.taskId) == [2] &&
        x.1.rest.delivered.toList.map (fun d => d.taskId) == [1]) = true by decide +kernel)
  simp only [Bool.and_eq_true, beq_iff_eq] at hfacts
  obtain ⟨⟨⟨hsize, hrefused⟩, hfailures⟩, hdelivered⟩ := hfacts
  exact ⟨s', R, tr, h, hsize, hrefused, hfailures, hdelivered⟩

/-- In the run above, the refusal reaches the channel and the admitted task's success is the
run's one response failure, as the batch's answers say. -/
theorem runBatch_answers_receiver_dropped :
    ∃ (s' : Shared (Env Unit Unit)) (R : Report) (tr : List (Wake (Shared (Env Unit Unit)))),
      KeepsAnswers (Outside.runtime ⟨5000, some 1000⟩ : Runtime (Shared (Env Unit Unit))) ∧
      Exec (Outside.runtime ⟨5000, some 1000⟩) (runBatch {} Source.channel (Processor.bulkEach Worker.echo))
        (Outside.start [{ id := 1 }, Task.blank 2]) s' R tr ∧
      (∃ s₁ res c, Answered Codec.json (taken tr) res c (Outside.start [{ id := 1 }, Task.blank 2]) s₁ s' R) ∧
      R.size = 1 ∧ R.refused = 1 ∧ R.failures.map (fun f => f.taskId) = [2] ∧
      s'.rest.delivered.toList.map (fun d => d.taskId) = [1] := by
  obtain ⟨s', R, tr, h, hfacts⟩ := runBatch_dropped_receiver_run
  obtain ⟨-, s₁, res, c, -, -, hans⟩ :=
    runBatch_answers (Outside.keepsAnswers _) rfl (Processor.bulkEach_respects _ _ _ _) h
  exact ⟨s', R, tr, Outside.keepsAnswers _, h, ⟨s₁, res, c, hans⟩, hfacts⟩

end DocBatch
