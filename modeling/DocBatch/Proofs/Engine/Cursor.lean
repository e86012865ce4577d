import DocBatch.Proofs.Engine.Answers

/-!
# Walking a batch with the cursor

Processing code sees a batch through a cursor: it asks for the next document, works on the
document at a position, and may close the batch. The cursor's position and the number of
documents admitted are two counters; they stay equal because a call for the next document
hands out the position at once while it is below the number admitted, and only at the end
makes one attempt to admit (lazy admission).

`Calls` is any sequence of such calls, with other processes running in between. From the
cursor the runner makes, every such sequence leaves it `Walked`: at the end of the batch,
having handed out every admitted document once and in order, and closed once no document came.
A walked cursor `AdmitsLazily`: the next call for a document takes at most one admitted task
and nothing after it. The default program that works on documents one by one is such a
sequence, so when its work fails the batch holds exactly the documents handed out and no
later task was taken (`drain_error`).

The main statement is `Cursor.hands_out_admitted_lazily`.
-/

namespace DocBatch

open Proc

variable {σ ω : Type}

namespace Assembler

variable {rt : Runtime (Shared (Env σ ω))} {ctx : Context} {src : Source σ ω}
  {s s' : Shared (Env σ ω)} {tr : List (Wake (Shared (Env σ ω)))} {a a' : Assembler}

/-- An attempt that admits stops at the admission: the last task it took is the one admitted. -/
theorem tryAdmit_admitted_last (hsrc : src.Faithful rt)
    (h : Exec rt (a.tryAdmit ctx src) s s' (.admitted, a') tr) :
    ∃ xs x, taken tr = xs ++ [x] ∧ (x.1.accepted? ctx.codec).isSome := by
  cases tryAdmit_exec h with
  | pulls _ _ _ h =>
    have hloop := Exec.loop_invariant (I := fun _ _ _ => True)
      (J := fun r _ pre => r.1 = .admitted →
        ∃ xs x, taken pre = xs ++ [x] ∧ (x.1.accepted? ctx.codec).isSome) ?_ [] trivial h
    · obtain ⟨⟨adm₁, a₁⟩, s₃, tr₅, tr₆, hJ, hdone, rfl⟩ := hloop
      obtain ⟨-, hres, rfl⟩ := (exec_done _).1 hdone
      cases hres
      simpa using hJ rfl
    intro b s₃ s₄ r tr pre _ h
    rcases pullOnce_batch hsrc h with ⟨x, b', rfl, -⟩ | ⟨x, b', rfl, hx, he, -⟩ |
      ⟨reason, b', rfl, -⟩
    · trivial
    · intro _
      exact ⟨taken pre, x, by rw [taken_append, hx], he⟩
    · intro hno
      cases hno

end Assembler

namespace Cursor

variable {rt : Runtime (Shared (Env σ ω))} {ctx : Context} {src : Source σ ω}
  {s s' : Shared (Env σ ω)} {tr : List (Wake (Shared (Env σ ω)))} {c c' : Cursor}

/-- Asking for the next document: before the end of the batch the next admitted one is handed
out at once; at the end one attempt to admit is made, and a document is handed out exactly
when it admits one. -/
theorem next_cases {i : Option Nat} (h : Exec rt (c.next ctx src) s s' (i, c') tr) :
    (c.position < c.batch.size ∧ s' = s ∧ tr = [] ∧ i = some c.position ∧
      c' = { c with position := c.position + 1 }) ∨
    (c.batch.size ≤ c.position ∧ ∃ adm, Exec rt (c.assembler.tryAdmit ctx src) s s' (adm, c'.assembler) tr ∧
      (adm = .admitted → i = some c.position ∧ c'.position = c.position + 1) ∧
      (adm = .noMore → i = none ∧ c'.position = c.position)) := by
  unfold Cursor.next at h
  split at h
  · rename_i hend
    simp only [bind_eq, exec_bind] at h
    obtain ⟨s₁, ⟨adm, a⟩, tr₁, tr₂, ht, h, rfl⟩ := h
    refine .inr ⟨hend, adm, ?_⟩
    cases adm
    · obtain ⟨rfl, hres, rfl⟩ := (exec_done _).1 h
      cases hres
      exact ⟨by simpa using ht, fun _ => ⟨rfl, rfl⟩, fun hno => by cases hno⟩
    · obtain ⟨rfl, hres, rfl⟩ := (exec_done _).1 h
      cases hres
      exact ⟨by simpa using ht, fun hadm => (by cases hadm), fun _ => ⟨rfl, rfl⟩⟩
  · rename_i hend
    obtain ⟨rfl, hres, rfl⟩ := (exec_done _).1 h
    cases hres
    exact .inl ⟨by omega, rfl, rfl, rfl, rfl⟩

/-- Closing takes nothing and closes the batch, keeping the position. -/
theorem close_cases (h : Exec rt c.close s s' c' tr) :
    tr = [] ∧ c' = { c with assembler := { c.assembler with batch := (c.batch.close .closedByWorker).1 } } := by
  simp only [Cursor.close, bind_eq, pure_eq, exec_bind, exec_done] at h
  obtain ⟨s₁, a, tr₁, tr₂, hc, ⟨rfl, rfl, rfl⟩, rfl⟩ := h
  obtain ⟨rfl, rfl, -⟩ := Assembler.closeFor_exec hc
  exact ⟨rfl, rfl⟩

/-- Working on a position answers `ok false` exactly when nothing was admitted there. -/
theorem process_ok_false_iff {w : Worker σ ω} {i : Nat} {r : Except TransientError Bool}
    (h : Exec rt (c.process w i) s s' (r, c') tr) : r = .ok false ↔ c.batch.size ≤ i := by
  unfold Cursor.process at h
  split at h
  · rename_i hnone
    obtain ⟨-, hres, -⟩ := (exec_done _).1 h
    cases hres
    simpa [Batch.size] using hnone
  · rename_i e he
    have hi : i < c.batch.size := (List.getElem?_eq_some_iff.1 he).1
    simp only [bind_eq, exec_bind] at h
    obtain ⟨s₁, ⟨d, res⟩, tr₁, tr₂, -, h, rfl⟩ := h
    obtain ⟨-, hres, -⟩ := (exec_done _).1 h
    cases hres
    cases res <;> simpa [Except.map] using hi

/-! ## Calls of processing code -/

/-- A call of processing code on the cursor, with what it answered. -/
inductive Call where
  /-- Asking for the next document: its position, or none when no more come. -/
  | next (answer : Option Nat)
  /-- Working on the admitted document at a position. -/
  | process (i : Nat) (answer : Except TransientError Bool)
  /-- Closing the batch. -/
  | close

/-- The position a call handed out, if it handed one out. -/
def Call.handedOut? : Call → Option Nat
  | .next i => i
  | _ => none

/-- The positions the calls handed out, in order. -/
def handedOut (log : List Call) : List Nat := log.filterMap Call.handedOut?

@[simp] theorem handedOut_nil : handedOut [] = [] := rfl

@[simp] theorem handedOut_append (log log' : List Call) :
    handedOut (log ++ log') = handedOut log ++ handedOut log' :=
  List.filterMap_append

@[simp] theorem handedOut_cons (x : Call) (log : List Call) :
    handedOut (x :: log) = x.handedOut?.toList ++ handedOut log := by
  cases h : x.handedOut? <;> simp [handedOut, h]

@[simp] theorem Call.handedOut?_next (i : Option Nat) : (Call.next i).handedOut? = i := rfl

@[simp] theorem Call.handedOut?_process (i : Nat) (r : Except TransientError Bool) :
    (Call.process i r).handedOut? = none := rfl

@[simp] theorem Call.handedOut?_close : Call.close.handedOut? = none := rfl

/-- The sequences of calls of processing code from the cursor `c`, with the trace of their
waits and the log of the calls. Each call may start in any state: other processes run in
between. -/
inductive Calls (ctx : Context) (src : Source σ ω) (rt : Runtime (Shared (Env σ ω))) (c : Cursor) :
    Cursor → List (Wake (Shared (Env σ ω))) → List Call → Prop
  | nil : Calls ctx src rt c c [] []
  | next {c₁ c₂ : Cursor} {s s' : Shared (Env σ ω)} {tr tr' : List (Wake (Shared (Env σ ω)))}
      {log : List Call} {i : Option Nat} :
      Calls ctx src rt c c₁ tr log → Exec rt (c₁.next ctx src) s s' (i, c₂) tr' →
        Calls ctx src rt c c₂ (tr ++ tr') (log ++ [.next i])
  | process {c₁ c₂ : Cursor} {s s' : Shared (Env σ ω)} {tr tr' : List (Wake (Shared (Env σ ω)))}
      {log : List Call} (w : Worker σ ω) {i : Nat} {r : Except TransientError Bool} :
      Calls ctx src rt c c₁ tr log → Exec rt (c₁.process w i) s s' (r, c₂) tr' →
        Calls ctx src rt c c₂ (tr ++ tr') (log ++ [.process i r])
  | close {c₁ c₂ : Cursor} {s s' : Shared (Env σ ω)} {tr tr' : List (Wake (Shared (Env σ ω)))}
      {log : List Call} :
      Calls ctx src rt c c₁ tr log → Exec rt c₁.close s s' c₂ tr' →
        Calls ctx src rt c c₂ (tr ++ tr') (log ++ [.close])

/-- What calls leave of the cursor the runner makes over an empty batch with the limits
`limits`, the calls having taken the tasks of the trace `tr` and made the log `log`. -/
structure Walked (codec : Codec) (limits : Limits) (c : Cursor)
    (tr : List (Wake (Shared (Env σ ω)))) (log : List Call) : Prop where
  /-- The cursor stands at the end of what was admitted. -/
  position_eq : c.position = c.batch.size
  /-- Every admitted document was handed out once, in the order of admission. -/
  handedOut_eq : handedOut log = List.range c.batch.size
  /-- The batch holds the tasks taken that passed their check, in the order they came. -/
  tasks_eq : c.batch.entries.map (·.task) = (Batch.admitted codec (taken tr)).map (·.task)
  /-- It counts those that did not. -/
  refused_eq : c.batch.refused = Batch.refusals codec (taken tr)
  limits_eq : c.assembler.limits = limits
  /-- Once no document came, the batch is closed. -/
  closed_of_none : Call.next none ∈ log → c.batch.closed = true

namespace Walked

variable {codec : Codec} {limits : Limits} {log : List Call} {tr' : List (Wake (Shared (Env σ ω)))}

theorem fresh : Walked codec limits ({ assembler := { limits } } : Cursor)
    ([] : List (Wake (Shared (Env σ ω)))) [] where
  position_eq := rfl
  handedOut_eq := rfl
  tasks_eq := rfl
  refused_eq := rfl
  limits_eq := rfl
  closed_of_none := by simp

theorem next (hsrc : src.Faithful rt) (hw : Walked ctx.codec limits c tr log) {i : Option Nat}
    (h : Exec rt (c.next ctx src) s s' (i, c') tr') :
    Walked ctx.codec limits c' (tr ++ tr') (log ++ [.next i]) := by
  rcases next_cases h with ⟨hlt, -⟩ | ⟨-, adm, ht, hadm, hno⟩
  · exact absurd hw.position_eq (by omega)
  have hat := Assembler.tryAdmit_attempt hsrc ht
  obtain ⟨htasks, hrefused⟩ : c'.batch.entries.map (·.task) =
        c.batch.entries.map (·.task) ++ (Batch.admitted ctx.codec (taken tr')).map (·.task) ∧
      c'.batch.refused = c.batch.refused + Batch.refusals ctx.codec (taken tr') :=
    hat.advance.tasks
  have htasks' : c'.batch.entries.map (·.task) =
      (Batch.admitted ctx.codec (taken (tr ++ tr'))).map (·.task) := by
    rw [htasks, hw.tasks_eq, taken_append, Batch.admitted_append, List.map_append]
  have hrefused' : c'.batch.refused = Batch.refusals ctx.codec (taken (tr ++ tr')) := by
    rw [hrefused, hw.refused_eq, taken_append, Batch.refusals_append]
  have hlimits : c'.assembler.limits = limits := hat.limits_eq.trans hw.limits_eq
  have hfrozen : c.batch.closed = true → c'.batch = c.batch := hat.advance.grows.frozen
  have hkept : c.batch.closed = true → c'.batch.closed = true := fun hc => by
    rw [hfrozen hc, hc]
  cases adm with
  | admitted =>
    obtain ⟨rfl, hpos⟩ := hadm rfl
    obtain ⟨e, he⟩ := hat.admits.admitted_iff.1 rfl
    have hsize : c'.batch.size = c.batch.size + 1 := by
      simp [Cursor.batch, Batch.size, he]
    refine ⟨by rw [hpos, hsize, hw.position_eq], ?_, htasks', hrefused', hlimits, ?_⟩
    · simp [hw.handedOut_eq, hsize, List.range_succ, hw.position_eq]
    · intro hmem
      exact hkept (hw.closed_of_none (by simpa using hmem))
  | noMore =>
    obtain ⟨rfl, hpos⟩ := hno rfl
    obtain ⟨hclosed, hentries⟩ := hat.admits.noMore rfl
    have hsize : c'.batch.size = c.batch.size := by
      simp [Cursor.batch, Batch.size, hentries]
    refine ⟨by rw [hpos, hsize, hw.position_eq], ?_, htasks', hrefused', hlimits, fun _ => hclosed⟩
    simp [hw.handedOut_eq, hsize]

theorem process (hw : Walked codec limits c tr log) {w : Worker σ ω} {i : Nat}
    {r : Except TransientError Bool} (h : Exec rt (c.process w i) s s' (r, c') tr') :
    Walked codec limits c' (tr ++ tr') (log ++ [.process i r]) := by
  obtain ⟨rfl, -, hc'⟩ := process_exec h
  obtain ⟨hpos, hsize, htasks, hrefused, hlimits, hclosed⟩ :
      c'.position = c.position ∧ c'.batch.size = c.batch.size ∧
      c'.batch.entries.map (·.task) = c.batch.entries.map (·.task) ∧
      c'.batch.refused = c.batch.refused ∧ c'.assembler.limits = c.assembler.limits ∧
      c'.batch.closed = c.batch.closed := by
    rcases hc' with rfl | ⟨d, rfl⟩
    · exact ⟨rfl, rfl, rfl, rfl, rfl, rfl⟩
    · exact ⟨rfl, by simp [Cursor.batch, Batch.setDocument, Batch.size],
        Batch.tasks_setDocument i d _, rfl, rfl, rfl⟩
  refine ⟨by rw [hpos, hsize, hw.position_eq], by simp [hw.handedOut_eq, hsize], ?_, ?_,
    hlimits.trans hw.limits_eq, ?_⟩
  · rw [htasks, hw.tasks_eq, List.append_nil]
  · rw [hrefused, hw.refused_eq, List.append_nil]
  · intro hmem
    rw [hclosed]
    exact hw.closed_of_none (by simpa using hmem)

theorem close (hw : Walked codec limits c tr log) (h : Exec rt c.close s s' c' tr') :
    Walked codec limits c' (tr ++ tr') (log ++ [.close]) := by
  obtain ⟨rfl, rfl⟩ := close_cases h
  have hentries : (c.batch.close .closedByWorker).1.entries = c.batch.entries := by
    rw [← Batch.closeWith_some, Batch.closeWith_entries]
  have hrefused : (c.batch.close .closedByWorker).1.refused = c.batch.refused := by
    rw [← Batch.closeWith_some, Batch.closeWith_refused]
  have hsize : (c.batch.close .closedByWorker).1.size = c.batch.size := by
    rw [Batch.size, hentries, Batch.size]
  refine ⟨hsize ▸ hw.position_eq, ?_, ?_, ?_, hw.limits_eq, fun _ => Batch.close_fst_closed _ _⟩
  · have hout : handedOut (log ++ [.close]) = handedOut log := by simp
    rw [hout, hw.handedOut_eq]
    exact congrArg List.range hsize.symm
  · show (c.batch.close .closedByWorker).1.entries.map (·.task) = _
    rw [hentries, hw.tasks_eq, List.append_nil]
  · show (c.batch.close .closedByWorker).1.refused = _
    rw [hrefused, hw.refused_eq, List.append_nil]

end Walked

/-- Every sequence of calls from the cursor the runner makes leaves it walked. -/
theorem Calls.walked (hsrc : src.Faithful rt) {limits : Limits} {log : List Call}
    (h : Calls ctx src rt { assembler := { limits } } c tr log) :
    Walked ctx.codec limits c tr log := by
  induction h with
  | nil => exact Walked.fresh
  | next _ hn ih => exact ih.next hsrc hn
  | process w _ hp ih => exact ih.process hp
  | close _ hc ih => exact ih.close hc

/-- What one more call does on a cursor standing at the end of its batch: a call for the next
document is one attempt to admit, which admits at most one task, takes nothing after the one
it admits and nothing at all from a closed batch, and hands out the next position exactly
when it admits; working on a document and closing take nothing, and working on a position
finds a document exactly below the number admitted. -/
structure AdmitsLazily (ctx : Context) (src : Source σ ω) (rt : Runtime (Shared (Env σ ω)))
    (c : Cursor) : Prop where
  next_answer : ∀ s s' i c' tr, Exec rt (c.next ctx src) s s' (i, c') tr →
    i = some c.batch.size ∨ (i = none ∧ c'.batch.closed = true)
  next_admits_one : ∀ s s' i c' tr, Exec rt (c.next ctx src) s s' (i, c') tr →
    (Batch.admitted ctx.codec (taken tr)).length ≤ 1
  next_stops : ∀ s s' i c' tr, Exec rt (c.next ctx src) s s' (i, c') tr → i.isSome →
    ∃ xs x, taken tr = xs ++ [x] ∧ (x.1.accepted? ctx.codec).isSome
  next_closed : ∀ s s' i c' tr, Exec rt (c.next ctx src) s s' (i, c') tr →
    c.batch.closed = true → i = none ∧ taken tr = []
  process : ∀ (w : Worker σ ω) i s s' r c' tr, Exec rt (c.process w i) s s' (r, c') tr →
    tr = [] ∧ (r = .ok false ↔ c.batch.size ≤ i)
  close : ∀ s s' c' tr, Exec rt c.close s s' c' tr → tr = [] ∧ c'.batch.closed = true

/-- A call for the next document from the end of the batch, with what its attempt did. -/
theorem next_attempt (hsrc : src.Faithful rt) (hend : c.position = c.batch.size) {i : Option Nat}
    (h : Exec rt (c.next ctx src) s s' (i, c') tr) :
    ∃ adm, Exec rt (c.assembler.tryAdmit ctx src) s s' (adm, c'.assembler) tr ∧
      Assembler.Attempt ctx.codec c.assembler c'.assembler adm (taken tr) ∧
      (adm = .admitted → i = some c.batch.size) ∧ (adm = .noMore → i = none) := by
  rcases next_cases h with ⟨hlt, -⟩ | ⟨-, adm, ht, hadm, hno⟩
  · exact absurd hend (by omega)
  refine ⟨adm, ht, Assembler.tryAdmit_attempt hsrc ht, fun h => ?_, fun h => (hno h).1⟩
  rw [(hadm h).1, hend]

theorem Walked.admitsLazily (hsrc : src.Faithful rt) {limits : Limits} {log : List Call}
    (hw : Walked ctx.codec limits c tr log) : AdmitsLazily ctx src rt c where
  next_answer := by
    intro s s' i c' tr h
    obtain ⟨adm, -, hat, hadm, hno⟩ := next_attempt hsrc hw.position_eq h
    cases adm with
    | admitted => exact .inl (hadm rfl)
    | noMore => exact .inr ⟨hno rfl, (hat.admits.noMore rfl).1⟩
  next_admits_one := by
    intro s s' i c' tr h
    obtain ⟨adm, -, hat, -⟩ := next_attempt hsrc hw.position_eq h
    exact hat.advance.admits_one
  next_stops := by
    intro s s' i c' tr h hi
    obtain ⟨adm, ht, -, -, hno⟩ := next_attempt hsrc hw.position_eq h
    cases adm with
    | admitted => exact Assembler.tryAdmit_admitted_last hsrc ht
    | noMore => simp [hno rfl] at hi
  next_closed := by
    intro s s' i c' tr h hc
    obtain ⟨adm, -, hat, -, hno⟩ := next_attempt hsrc hw.position_eq h
    have hnil : taken tr = [] := hat.advance.closed_takes_nothing hc
    cases adm with
    | admitted => exact absurd Batch.admitted_nil (hnil ▸ hat.admitted_iff.1 rfl)
    | noMore => exact ⟨hno rfl, hnil⟩
  process := by
    intro w i s s' r c' tr h
    exact ⟨(process_exec h).1, process_ok_false_iff h⟩
  close := by
    intro s s' c' tr h
    obtain ⟨rfl, rfl⟩ := close_cases h
    exact ⟨rfl, Batch.close_fst_closed _ _⟩

/-! ## The default program -/

/-- One pass of the default program: ask for the next document; end well when none comes,
else work on it, and go on when the work succeeds. -/
def drainPass (ctx : Context) (src : Source σ ω) (w : Worker σ ω) :
    Nat × Cursor → Eng σ ω ((Nat × Cursor) ⊕ (Except TransientError Nat × Cursor)) :=
  fun (n, c) => do
    match ← c.next ctx src with
    | (none, c) => return .inr (.ok n, c)
    | (some i, c) =>
      match ← c.process w i with
      | (.ok _, c) => return .inl (n + 1, c)
      | (.error e, c) => return .inr (.error e, c)

theorem drain_eq (ctx : Context) (src : Source σ ω) (w : Worker σ ω) (c : Cursor) :
    c.drain ctx src w = Proc.iterate (0, c) (drainPass ctx src w) := rfl

/-- What one pass can do: it asks once for the next document; when none comes it ends the
program well, else it works on that document, and goes on exactly when the work succeeds. -/
theorem drainPass_cases {w : Worker σ ω} {k : Nat}
    {r : (Nat × Cursor) ⊕ (Except TransientError Nat × Cursor)}
    (h : Exec rt (drainPass ctx src w (k, c)) s s' r tr) :
    ∃ s₁ i c₁ tr₁ tr₂, Exec rt (c.next ctx src) s s₁ (i, c₁) tr₁ ∧ tr = tr₁ ++ tr₂ ∧
      ((i = none ∧ r = .inr (.ok k, c₁) ∧ s' = s₁ ∧ tr₂ = []) ∨
        ∃ j res c₂, i = some j ∧ Exec rt (c₁.process w j) s₁ s' (res, c₂) tr₂ ∧
          r = match res with
            | .ok _ => .inl (k + 1, c₂)
            | .error e => .inr (.error e, c₂)) := by
  simp only [drainPass, bind_eq, exec_bind] at h
  obtain ⟨s₁, ⟨i, c₁⟩, tr₁, tr₂, hn, hpass, rfl⟩ := h
  refine ⟨s₁, i, c₁, tr₁, tr₂, hn, rfl, ?_⟩
  rcases i with _ | j
  · obtain ⟨rfl, rfl, rfl⟩ := (exec_done _).1 hpass
    exact .inl ⟨rfl, rfl, rfl, rfl⟩
  · simp only [exec_bind] at hpass
    obtain ⟨s₂, ⟨res, c₂⟩, tr₃, tr₄, hp, hpass, rfl⟩ := hpass
    refine .inr ⟨j, res, c₂, rfl, ?_⟩
    rcases res with e | _ <;>
    · obtain ⟨rfl, rfl, rfl⟩ := (exec_done _).1 hpass
      exact ⟨by simpa using hp, rfl⟩

/-- The default program, run from the cursor the runner makes, is a sequence of calls: a call
for the next document, then work on it, until none comes or the work fails. A failure is the
last call, made on the document the call before handed out, and no task was taken after that
document was admitted. -/
theorem drain_calls (hsrc : src.Faithful rt) {limits : Limits} {w : Worker σ ω}
    {res : Except TransientError Nat}
    (h : Exec rt (({ assembler := { limits } } : Cursor).drain ctx src w) s s' (res, c') tr) :
    ∃ log, Calls ctx src rt { assembler := { limits } } c' tr log ∧
      ∀ e, res = .error e → ∃ log₀ i, log = log₀ ++ [.next (some i), .process i (.error e)] ∧
        ∃ xs x, taken tr = xs ++ [x] ∧ (x.1.accepted? ctx.codec).isSome := by
  simp only [drain_eq, Proc.iterate] at h
  have hloop := Exec.loop_invariant
    (I := fun b _ pre => ∃ log, Calls ctx src rt { assembler := { limits } } b.2 pre log)
    (J := fun r _ pre => ∃ log, Calls ctx src rt { assembler := { limits } } r.2 pre log ∧
      ∀ e, r.1 = .error e → ∃ log₀ i, log = log₀ ++ [.next (some i), .process i (.error e)] ∧
        ∃ xs x, taken pre = xs ++ [x] ∧ (x.1.accepted? ctx.codec).isSome) ?_ [] ⟨[], .nil⟩ h
  · obtain ⟨⟨res₁, c₁⟩, s₁, tr₁, tr₂, hJ, hdone, rfl⟩ := hloop
    obtain ⟨rfl, hres, rfl⟩ := (exec_done _).1 hdone
    cases hres
    simpa using hJ
  rintro ⟨k, c₁⟩ s₁ s₂ r tr pre ⟨log, hcalls⟩ hpass
  obtain ⟨s₃, i, c₂, tr₁, tr₂, hn, rfl, hend⟩ := drainPass_cases hpass
  have h₂ := hcalls.next hn
  rcases hend with ⟨rfl, rfl, rfl, rfl⟩ | ⟨i, r₄, c₄, rfl, hp, rfl⟩
  · exact ⟨_, by simpa using h₂, fun e he => by cases he⟩
  have h₄ := h₂.process w hp
  rcases r₄ with e | _
  · refine ⟨_, by simpa [List.append_assoc] using h₄, fun e' he => ?_⟩
    cases he
    obtain ⟨xs, x, hx, hacc⟩ :=
      ((Calls.walked hsrc hcalls).admitsLazily hsrc).next_stops _ _ _ _ _ hn rfl
    refine ⟨log, i, by simp, taken pre ++ xs, x, ?_, hacc⟩
    simp [hx, (process_exec hp).1]
  · exact ⟨_, by simpa [List.append_assoc] using h₄⟩

/-- When the default program fails, the batch holds exactly the documents handed out, the
failure was on the last of them, and nothing was taken after it was admitted. -/
theorem drain_error (hsrc : src.Faithful rt) {limits : Limits} {w : Worker σ ω}
    {e : TransientError}
    (h : Exec rt (({ assembler := { limits } } : Cursor).drain ctx src w) s s' (.error e, c') tr) :
    0 < c'.batch.size ∧
      (∃ log, Calls ctx src rt { assembler := { limits } } c' tr
        (log ++ [.next (some (c'.batch.size - 1)), .process (c'.batch.size - 1) (.error e)])) ∧
      ∃ xs x, taken tr = xs ++ [x] ∧ (x.1.accepted? ctx.codec).isSome := by
  obtain ⟨log, hcalls, herr⟩ := drain_calls hsrc h
  obtain ⟨log₀, i, rfl, hstop⟩ := herr e rfl
  have hw := Calls.walked hsrc hcalls
  have hout : handedOut log₀ ++ [i] = List.range c'.batch.size := by
    simpa using hw.handedOut_eq
  have hlen : c'.batch.size = (handedOut log₀).length + 1 := by
    simpa using (congrArg List.length hout).symm
  have hi : i = c'.batch.size - 1 := by
    rw [hlen, List.range_succ] at hout
    have hlast := (List.append_inj' hout rfl).2
    simp only [List.cons.injEq, and_true] at hlast
    omega
  exact ⟨by omega, ⟨log₀, hi ▸ hcalls⟩, hstop⟩

/-- Calls of processing code on the cursor the runner makes keep it at the end of the batch:
every admitted document is handed out once, in the order of admission, each call for the next
document is one lazy attempt to admit, and a failing default program stops on the last
document it was handed, having taken nothing after admitting it. -/
theorem hands_out_admitted_lazily (hsrc : src.Faithful rt) (limits : Limits) {log : List Call}
    (h : Calls ctx src rt { assembler := { limits } } c tr log) :
    Walked ctx.codec limits c tr log ∧ AdmitsLazily ctx src rt c ∧
      ∀ (w : Worker σ ω) s s' e c₁ tr₁,
        Exec rt (({ assembler := { limits } } : Cursor).drain ctx src w) s s' (.error e, c₁) tr₁ →
        0 < c₁.batch.size ∧
          (∃ log₁, Calls ctx src rt { assembler := { limits } } c₁ tr₁
            (log₁ ++ [.next (some (c₁.batch.size - 1)), .process (c₁.batch.size - 1) (.error e)])) ∧
          ∃ xs x, taken tr₁ = xs ++ [x] ∧ (x.1.accepted? ctx.codec).isSome := by
  have hw := Calls.walked hsrc h
  exact ⟨hw, hw.admitsLazily hsrc, fun _ _ _ _ _ _ hd => drain_error hsrc hd⟩

/-- On the channel, in a world that stops at 5 s, with batches of at most two documents and four
tasks queued, the first without data: the first call for a document refuses that task and
admits the second, which the worker processes; the next call admits the third, and the last
finds the batch full and gives none, closing it. The fourth task is never taken. -/
theorem hands_out_admitted_lazily_four_tasks :
    ∃ (c : Cursor) (tr : List (Wake (Shared (Env Unit Unit)))) (log : List Call),
      Calls {} Source.channel (Outside.runtime ⟨5000, none⟩) { assembler := { limits := ⟨2, 100⟩ } }
        c tr log ∧
      (taken tr).map (fun x => x.1.id) = [1, 2, 3] ∧ c.position = 2 ∧ c.batch.closed = true ∧
      Walked Codec.json ⟨2, 100⟩ c tr log ∧
      AdmitsLazily {} (Source.channel : Source Unit Unit) (Outside.runtime ⟨5000, none⟩) c ∧
      ∀ (w : Worker Unit Unit) (s s' : Shared (Env Unit Unit)) e c₁ tr₁,
        Exec (Outside.runtime ⟨5000, none⟩)
          (({ assembler := { limits := ⟨2, 100⟩ } } : Cursor).drain {} Source.channel w) s s' (.error e, c₁) tr₁ →
        0 < c₁.batch.size ∧
          (∃ log₁, Calls {} Source.channel (Outside.runtime ⟨5000, none⟩) { assembler := { limits := ⟨2, 100⟩ } }
            c₁ tr₁ (log₁ ++ [.next (some (c₁.batch.size - 1)), .process (c₁.batch.size - 1) (.error e)])) ∧
          ∃ xs x, taken tr₁ = xs ++ [x] ∧ (x.1.accepted? Codec.json).isSome := by
  obtain ⟨s', ⟨i₁, r₂, i₃, c⟩, tr, h, hfacts⟩ := exec_of_runFor_any (show
    (runFor (Outside.wake ⟨5000, none⟩) 1000
      (Proc.bind (({ assembler := { limits := ⟨2, 100⟩ } } : Cursor).next {} (Source.channel : Source Unit Unit))
        fun r₁ => Proc.bind (r₁.2.process Worker.echo 0) fun r₂ =>
          Proc.bind (r₂.2.next {} Source.channel) fun r₃ =>
            Proc.bind (r₃.2.next {} Source.channel) fun r₄ => .done (r₁.1, r₂.1, r₃.1, r₄))
      (Outside.start [{ id := 1 }, Task.blank 2, Task.blank 3, Task.blank 4])).any
      (fun x => x.2.1.1 == some 0 && x.2.1.2.1.toOption == some true && x.2.1.2.2.1 == some 1 &&
        x.2.1.2.2.2.1 == none && (taken x.2.2).map (fun x => x.1.id) == [1, 2, 3] &&
        x.2.1.2.2.2.2.position == 2 && x.2.1.2.2.2.2.batch.closed) = true
    by decide +kernel)
  simp only [Bool.and_eq_true, beq_iff_eq] at hfacts
  obtain ⟨⟨⟨⟨⟨⟨-, -⟩, -⟩, -⟩, htaken⟩, hpos⟩, hclosed⟩ := hfacts
  obtain ⟨s₁, r₁, trA, trA', hA, hAfter, rfl⟩ := (exec_bind _ _).1 h
  obtain ⟨s₂, r₂', trB, trB', hB, hBAfter, rfl⟩ := (exec_bind _ _).1 hAfter
  obtain ⟨s₃, r₃, trC, trC', hC, hCAfter, rfl⟩ := (exec_bind _ _).1 hBAfter
  obtain ⟨s₄, r₄, trD, trD', hD, hDAfter, rfl⟩ := (exec_bind _ _).1 hCAfter
  obtain ⟨rfl, hres, rfl⟩ := (exec_done _).1 hDAfter
  simp only [Prod.mk.injEq] at hres
  obtain ⟨-, -, -, rfl⟩ := hres
  have hcalls : Calls {} Source.channel (Outside.runtime ⟨5000, none⟩)
      { assembler := { limits := ⟨2, 100⟩ } } c.2 ([] ++ trA ++ trB ++ trC ++ trD)
      ([] ++ [.next r₁.1] ++ [.process 0 r₂'.1] ++ [.next r₃.1] ++ [.next c.1]) :=
    .next (.next (.process Worker.echo (.next .nil hA) hB) hC) hD
  exact ⟨c.2, _, _, hcalls, by simpa using htaken, hpos, hclosed,
    hands_out_admitted_lazily (Source.channel_faithful _) ⟨2, 100⟩ hcalls⟩

end Cursor

end DocBatch
