import DocBatch.Proofs.Engine.AssemblerRuns

/-!
# Batch assembly

A batch is what the tasks it consumed make of it. Reading the consumed tasks off the trace of a
run (`taken`), every batch that a sequence of attempts to admit (`tryAdmit`) and closes
(`closeFor`) can reach, from an empty one and against any runtime and any faithful source,
holds exactly the consumed tasks that passed their check, in the order they came; counts
exactly those that did not; opens its window at the first admission, for the batch's time
limit; never holds more than its size limit; and is closed exactly when it has a reason.

The argument has three layers.

* `Batch.consume` says what taking one task does to a batch, and `Batch.consumeAll_eq` what
  taking a list of them does, as one equation.
* `Batch.Advance` says what one call may do: take tasks, admitting at most one and only into
  an open batch with room, and perhaps close. `Batch.Assembled` (the batch is what its history
  makes it) and `Batch.Grows` (what a later state keeps of an earlier one) follow from it.
* `tryAdmit_attempt` and `closeFor_advance` show that every run of a call does no more than
  `Advance` allows; `Calls.run` composes them over any sequence of calls.

The main statement is `assembly_invariants`.
-/

namespace DocBatch

open Proc

/-- The entry a task becomes in a batch, when it passes its check. -/
def Task.accepted? (codec : Codec) (t : Task) : Option Entry :=
  match t.check codec with
  | .ok p => some ⟨t, Document.ofPayload p⟩
  | .error _ => none

/-- A task whose data is the empty JSON object: it passes its check, with a document of
nothing. -/
def Task.blank (id : Int) : Task := { id, data := Utf8.encode "\x7b\x7d" }

@[simp] theorem Task.check_blank (id : Int) : (Task.blank id).check Codec.json = .ok {} := rfl

@[simp] theorem Task.check_noData (id : Int) :
    ({ id } : Task).check Codec.json = .error (.invalid "task has no data") := rfl

namespace Batch

/-! ## A batch as the tasks it consumed make it -/

section
variable (codec : Codec) (limits : Limits)

/-- The entries that consumed tasks give, in the order they came. -/
def admitted (xs : List (Task × Nat)) : List Entry :=
  xs.filterMap fun x => x.1.accepted? codec

/-- How many consumed tasks were refused. -/
def refusals (xs : List (Task × Nat)) : Nat :=
  xs.countP fun x => (x.1.accepted? codec).isNone

/-- When the first consumed task that passed its check came. -/
def firstAdmission? (xs : List (Task × Nat)) : Option Nat :=
  (xs.find? fun x => (x.1.accepted? codec).isSome).map (·.2)

/-- A batch takes a consumed task: one that passes its check is admitted at the time it came,
one that does not is counted as refused. -/
def consume (b : Batch) (x : Task × Nat) : Batch :=
  match x.1.check codec with
  | .ok p => b.accept x.2 limits x.1 (Document.ofPayload p)
  | .error _ => { b with refused := b.refused + 1 }

/-- A batch takes consumed tasks in turn. -/
def consumeAll (b : Batch) (xs : List (Task × Nat)) : Batch :=
  xs.foldl (consume codec limits) b

end

/-- Closes a batch for a reason, when there is one. -/
def closeWith : Option CloseReason → Batch → Batch
  | none, b => b
  | some r, b => (b.close r).1

section
variable {codec : Codec} {limits : Limits}

@[simp] theorem admitted_nil : admitted codec [] = [] := rfl

@[simp] theorem admitted_append (xs ys : List (Task × Nat)) :
    admitted codec (xs ++ ys) = admitted codec xs ++ admitted codec ys :=
  List.filterMap_append

@[simp] theorem admitted_singleton (x : Task × Nat) :
    admitted codec [x] = (x.1.accepted? codec).toList := by
  cases h : x.1.accepted? codec <;> simp [admitted, h]

@[simp] theorem refusals_nil : refusals codec [] = 0 := rfl

@[simp] theorem refusals_append (xs ys : List (Task × Nat)) :
    refusals codec (xs ++ ys) = refusals codec xs + refusals codec ys :=
  List.countP_append

@[simp] theorem firstAdmission?_nil : firstAdmission? codec [] = none := rfl

theorem firstAdmission?_append (xs ys : List (Task × Nat)) :
    firstAdmission? codec (xs ++ ys) = (firstAdmission? codec xs).or (firstAdmission? codec ys) := by
  simp only [firstAdmission?, List.find?_append, Option.map_or]

/-- A window is open exactly when a task was admitted. -/
theorem firstAdmission?_isSome_iff (xs : List (Task × Nat)) :
    (firstAdmission? codec xs).isSome ↔ admitted codec xs ≠ [] := by
  simp [firstAdmission?, admitted, List.filterMap_eq_nil_iff,
    Option.isSome_iff_ne_none]

@[simp] theorem close_fst (r : CloseReason) (b : Batch) :
    (b.close r).1 = if b.closed then b else { b with closed := true, closeReason := some r } := by
  unfold close
  split <;> rfl

/-- Taking one task, as an update of the batch's record. -/
theorem consume_eq (b : Batch) (x : Task × Nat) :
    b.consume codec limits x =
      { b with entries := b.entries ++ admitted codec [x],
               refused := b.refused + refusals codec [x],
               windowEnd := b.windowEnd.or ((firstAdmission? codec [x]).map (· + limits.maxTimeMs)) } := by
  unfold consume
  cases hc : x.1.check codec with
  | ok p =>
      have he : x.1.accepted? codec = some ⟨x.1, Document.ofPayload p⟩ := by simp [Task.accepted?, hc]
      cases hw : b.windowEnd <;>
        simp [accept, admitted, refusals, firstAdmission?, he, hw]
  | error r =>
      have he : x.1.accepted? codec = none := by simp [Task.accepted?, hc]
      simp [admitted, refusals, firstAdmission?, he]

/-- Taking tasks in turn appends the admitted ones, counts the refused ones and opens the
window at the first admission, unless it is open already. -/
theorem consumeAll_eq (b : Batch) (xs : List (Task × Nat)) :
    b.consumeAll codec limits xs =
      { b with entries := b.entries ++ admitted codec xs,
               refused := b.refused + refusals codec xs,
               windowEnd := b.windowEnd.or ((firstAdmission? codec xs).map (· + limits.maxTimeMs)) } := by
  induction xs generalizing b with
  | nil => simp [consumeAll]
  | cons x xs ih =>
      have hx : x :: xs = [x] ++ xs := rfl
      simp only [consumeAll, List.foldl_cons] at ih ⊢
      rw [ih, consume_eq, hx, admitted_append, refusals_append, firstAdmission?_append,
        Option.map_or]
      simp [List.append_assoc, Nat.add_assoc, Option.or_assoc]

theorem consumeAll_append (b : Batch) (xs ys : List (Task × Nat)) :
    b.consumeAll codec limits (xs ++ ys) = (b.consumeAll codec limits xs).consumeAll codec limits ys := by
  simp [consumeAll, List.foldl_append]

@[simp] theorem consumeAll_nil (b : Batch) : b.consumeAll codec limits [] = b := rfl

theorem consumeAll_singleton (b : Batch) (x : Task × Nat) :
    b.consumeAll codec limits [x] = b.consume codec limits x := rfl

@[simp] theorem closeWith_entries (c : Option CloseReason) (b : Batch) :
    (closeWith c b).entries = b.entries := by
  cases c <;> simp [closeWith, apply_ite Batch.entries]

@[simp] theorem closeWith_refused (c : Option CloseReason) (b : Batch) :
    (closeWith c b).refused = b.refused := by
  cases c <;> simp [closeWith, apply_ite Batch.refused]

@[simp] theorem closeWith_windowEnd (c : Option CloseReason) (b : Batch) :
    (closeWith c b).windowEnd = b.windowEnd := by
  cases c <;> simp [closeWith, apply_ite Batch.windowEnd]

@[simp] theorem closeWith_none (b : Batch) : closeWith none b = b := rfl

@[simp] theorem closeWith_some (r : CloseReason) (b : Batch) : closeWith (some r) b = (b.close r).1 :=
  rfl

theorem close_fst_closed (r : CloseReason) (b : Batch) : (b.close r).1.closed = true := by
  by_cases hc : b.closed <;> simp [hc]

theorem closeWith_of_closed (c : Option CloseReason) {b : Batch} (h : b.closed = true) :
    closeWith c b = b := by
  cases c <;> simp [closeWith, h]

/-- Closing keeps a batch closed exactly when it has a reason. -/
theorem closeWith_closed_iff (c : Option CloseReason) {b : Batch}
    (h : b.closed = true ↔ b.closeReason.isSome) :
    (closeWith c b).closed = true ↔ (closeWith c b).closeReason.isSome := by
  cases c with
  | none => exact h
  | some r =>
      by_cases hc : b.closed
      · simpa [closeWith, hc] using h.1 hc
      · simp [closeWith, hc]

end

/-! ## What one call may do

A call takes tasks from the source, admitting at most one and only into an open batch with
room, and may close the batch at the end. -/

section
variable (codec : Codec) (limits : Limits)

/-- What one call may do to a batch while it takes the tasks `xs`. -/
structure Advance (b b' : Batch) (xs : List (Task × Nat)) : Prop where
  closes : ∃ c, b' = closeWith c (b.consumeAll codec limits xs)
  closed_takes_nothing : b.closed = true → xs = []
  admits_one : (admitted codec xs).length ≤ 1
  room : admitted codec xs ≠ [] → b.size < limits.maxSize

/-- A batch is what the tasks `xs` it consumed make of it. -/
structure Assembled (xs : List (Task × Nat)) (b : Batch) : Prop where
  /-- It never holds more than its size limit. -/
  size_le : b.size ≤ limits.maxSize
  /-- It is closed exactly when it has a reason. -/
  closed_iff : b.closed = true ↔ b.closeReason.isSome
  /-- It holds the consumed tasks that passed their check, in the order they came. -/
  entries_eq : b.entries = admitted codec xs
  /-- It counts the consumed tasks that did not. -/
  refused_eq : b.refused = refusals codec xs
  /-- Its window ends the time limit after its first admission. -/
  windowEnd_eq : b.windowEnd = (firstAdmission? codec xs).map (· + limits.maxTimeMs)
  /-- Its window is open exactly when it holds a task. -/
  windowEnd_isSome : b.windowEnd.isSome ↔ b.entries ≠ []

end

/-- What a later state of a batch keeps of an earlier one. -/
structure Grows (b b' : Batch) : Prop where
  /-- Entries are only appended. -/
  appendOnly : b.entries <+: b'.entries
  /-- A closed batch changes no more. -/
  frozen : b.closed = true → b' = b
  /-- An open window keeps its end. -/
  windowEnd_kept : b.windowEnd.isSome → b'.windowEnd = b.windowEnd

/-- What an attempt to admit did: one more entry exactly when it says so, and a closed batch
with the same entries when it says no more come. -/
structure Admits (adm : Admission) (b b' : Batch) : Prop where
  admitted_iff : adm = .admitted ↔ ∃ e, b'.entries = b.entries ++ [e]
  noMore : adm = .noMore → b'.closed = true ∧ b'.entries = b.entries

section
variable {codec : Codec} {limits : Limits}

theorem Assembled.empty : Assembled codec limits [] {} where
  size_le := Nat.zero_le _
  closed_iff := by simp
  entries_eq := rfl
  refused_eq := rfl
  windowEnd_eq := rfl
  windowEnd_isSome := by simp

/-- One call keeps a batch within its size limit: it admits at most one task, and only below
the limit. -/
theorem Advance.size_le {b b' : Batch} {ys : List (Task × Nat)} (h : Advance codec limits b b' ys)
    (hb : b.size ≤ limits.maxSize) : b'.size ≤ limits.maxSize := by
  obtain ⟨c, rfl⟩ := h.closes
  have hsize : (closeWith c (b.consumeAll codec limits ys)).size =
      b.size + (admitted codec ys).length := by
    simp [size, consumeAll_eq]
  rw [hsize]
  by_cases hys : admitted codec ys = []
  · simpa [hys] using hb
  · have := h.room hys
    have := h.admits_one
    omega

/-- One call keeps a batch what its history makes it. -/
theorem Assembled.advance {xs ys : List (Task × Nat)} {b b' : Batch}
    (hb : Assembled codec limits xs b) (h : Advance codec limits b b' ys) :
    Assembled codec limits (xs ++ ys) b' := by
  obtain ⟨c, rfl⟩ := h.closes
  have hentries : (closeWith c (b.consumeAll codec limits ys)).entries = admitted codec (xs ++ ys) := by
    simp [consumeAll_eq, hb.entries_eq]
  have hwindow : (closeWith c (b.consumeAll codec limits ys)).windowEnd =
      (firstAdmission? codec (xs ++ ys)).map (· + limits.maxTimeMs) := by
    simp [consumeAll_eq, hb.windowEnd_eq, firstAdmission?_append, Option.map_or]
  refine ⟨h.size_le hb.size_le, ?_, hentries, ?_, hwindow, ?_⟩
  · apply closeWith_closed_iff
    simpa [consumeAll_eq] using hb.closed_iff
  · simp [consumeAll_eq, hb.refused_eq]
  · rw [hentries, hwindow, Option.isSome_map, firstAdmission?_isSome_iff]

theorem Grows.refl (b : Batch) : Grows b b :=
  ⟨List.prefix_refl _, fun _ => rfl, fun _ => rfl⟩

theorem Grows.trans {b₁ b₂ b₃ : Batch} (h₁ : Grows b₁ b₂) (h₂ : Grows b₂ b₃) : Grows b₁ b₃ where
  appendOnly := h₁.appendOnly.trans h₂.appendOnly
  frozen := by
    intro hc
    have h12 := h₁.frozen hc
    rw [← h12] at hc
    rw [h₂.frozen hc, h12]
  windowEnd_kept := by
    intro hw
    have h12 := h₁.windowEnd_kept hw
    rw [← h12] at hw
    rw [h₂.windowEnd_kept hw, h12]

/-- One call appends the tasks it admitted and counts those it refused. -/
theorem Advance.tasks {b b' : Batch} {xs : List (Task × Nat)} (h : Advance codec limits b b' xs) :
    b'.entries.map (·.task) = b.entries.map (·.task) ++ (admitted codec xs).map (·.task) ∧
      b'.refused = b.refused + refusals codec xs := by
  obtain ⟨c, rfl⟩ := h.closes
  simp [consumeAll_eq]

theorem Advance.grows {b b' : Batch} {xs : List (Task × Nat)} (h : Advance codec limits b b' xs) :
    Grows b b' where
  appendOnly := by
    obtain ⟨c, rfl⟩ := h.closes
    simp [consumeAll_eq]
  frozen := by
    intro hc
    obtain ⟨c, rfl⟩ := h.closes
    rw [h.closed_takes_nothing hc, consumeAll_nil, closeWith_of_closed c hc]
  windowEnd_kept := by
    intro hw
    obtain ⟨c, rfl⟩ := h.closes
    obtain ⟨w, hw'⟩ := Option.isSome_iff_exists.1 hw
    simp [consumeAll_eq, hw']

end

end Batch

/-! ## What a faithful source leaves in the trace -/

namespace Assembler

variable {σ ω : Type} {rt : Runtime (Shared (Env σ ω))} {ctx : Context} {src : Source σ ω}
  {s s' : Shared (Env σ ω)} {tr : List (Wake (Shared (Env σ ω)))} {a a' : Assembler}

theorem refuse_taken (hsrc : src.Faithful rt) {t : Task} {r : Refusal}
    (h : Exec rt (a.refuse src t r) s s' a' tr) : taken tr = [] := by
  obtain ⟨-, s₁, s₂, res, -, hres, -⟩ := refuse_exec h
  exact hsrc.respond hres

theorem pullOrShutdown_taken (hsrc : src.Faithful rt) {m : Nat}
    {r : Option (Except Error (Option Task))} (h : Exec rt (pullOrShutdown src m) s s' r tr) :
    taken tr = ((pulled r).map fun t => (t, s'.now)).toList := by
  rcases pullOrShutdown_exec h with ⟨-, rfl, rfl, rfl⟩ | ⟨-, h⟩
  · rfl
  · exact hsrc.next h

/-- A pass of the pull loop either refuses one task and goes on, admits one, or closes the
batch having admitted none. -/
theorem pullOnce_batch (hsrc : src.Faithful rt) {deadline : Nat}
    {res : Assembler ⊕ (Admission × Assembler)} (h : Exec rt (pullOnce ctx src deadline a) s s' res tr) :
    (∃ x a', res = .inl a' ∧ taken tr = [x] ∧ x.1.accepted? ctx.codec = none ∧ a'.limits = a.limits ∧
        a'.batch = a.batch.consume ctx.codec a.limits x) ∨
    (∃ x a', res = .inr (.admitted, a') ∧ taken tr = [x] ∧ (x.1.accepted? ctx.codec).isSome ∧
        a'.limits = a.limits ∧ a'.batch = a.batch.consume ctx.codec a.limits x) ∨
    (∃ reason a', res = .inr (.noMore, a') ∧ Batch.admitted ctx.codec (taken tr) = [] ∧
        a'.limits = a.limits ∧
        a'.batch = Batch.closeWith (some reason) (a.batch.consumeAll ctx.codec a.limits (taken tr))) := by
  obtain ⟨s₁, r, tr₁, tr₂, hpull, hend, rfl⟩ := pullOnce_exec h
  have hpull' := pullOrShutdown_taken hsrc hpull
  cases hend with
  | interrupted _ =>
      exact .inr (.inr ⟨.interrupted, _, rfl, by simp [hpull', pulled], rfl, by simp [hpull', pulled]⟩)
  | elapsed _ =>
      exact .inr (.inr ⟨.windowElapsed, _, rfl, by simp [hpull', pulled], rfl, by simp [hpull', pulled]⟩)
  | failed _ =>
      exact .inr (.inr ⟨.sourceFailed, _, rfl, by simp [hpull', pulled], rfl, by simp [hpull', pulled]⟩)
  | @admitted s' t p hc _ =>
      have he : t.accepted? ctx.codec = some ⟨t, Document.ofPayload p⟩ := by simp [Task.accepted?, hc]
      refine .inr (.inl ⟨(t, s₁.now), _, rfl, by simpa [pulled] using hpull', by simp [he], rfl, ?_⟩)
      simp [Batch.consume, hc]
  | @refusedLate s₂ s' t rf a₁ tr₂ hc hr _ _ =>
      have he : t.accepted? ctx.codec = none := by simp [Task.accepted?, hc]
      obtain ⟨rfl, -⟩ := refuse_exec hr
      have hx : taken tr₁ = [(t, s₁.now)] := by simpa [pulled] using hpull'
      refine .inr (.inr ⟨.windowElapsed, _, rfl, ?_, rfl, ?_⟩)
      · simp [hx, refuse_taken hsrc hr, he]
      · simp [hx, refuse_taken hsrc hr, Batch.consumeAll_singleton, Batch.consume, hc]
  | @refused s₂ t rf a₁ tr₂ hc hr _ =>
      have he : t.accepted? ctx.codec = none := by simp [Task.accepted?, hc]
      obtain ⟨rfl, -⟩ := refuse_exec hr
      have hx : taken tr₁ = [(t, s₁.now)] := by simpa [pulled] using hpull'
      refine .inl ⟨(t, s₁.now), _, rfl, by simp [hx, refuse_taken hsrc hr], he, rfl, ?_⟩
      simp [Batch.consume, hc]

/-! ## One call

Every run of a call does what `Advance` allows, whatever the runtime does while it waits. -/

/-- What an attempt to admit did to an assembler, given the tasks it took. -/
structure Attempt (codec : Codec) (a a' : Assembler) (adm : Admission) (xs : List (Task × Nat)) :
    Prop where
  limits_eq : a'.limits = a.limits
  advance : Batch.Advance codec a.limits a.batch a'.batch xs
  admitted_iff : adm = .admitted ↔ Batch.admitted codec xs ≠ []
  closed : adm = .noMore → a'.batch.closed = true

/-- An attempt that closes the batch without pulling. -/
theorem Attempt.close (codec : Codec) (a : Assembler) (r : CloseReason) :
    Attempt codec a { a with batch := (a.batch.close r).1 } .noMore [] where
  limits_eq := rfl
  advance := ⟨⟨some r, rfl⟩, fun _ => rfl, by simp, by simp⟩
  admitted_iff := by simp
  closed := fun _ => Batch.close_fst_closed r a.batch

/-- The answer of an attempt agrees with what it did to the entries. -/
theorem Attempt.admits {codec : Codec} {adm : Admission} {xs : List (Task × Nat)}
    (h : Attempt codec a a' adm xs) : Batch.Admits adm a.batch a'.batch := by
  obtain ⟨c, hb⟩ := h.advance.closes
  have hentries : a'.batch.entries = a.batch.entries ++ Batch.admitted codec xs := by
    rw [hb]
    simp [Batch.consumeAll_eq]
  constructor
  · rw [h.admitted_iff, hentries]
    constructor
    · intro hne
      have hlen := h.advance.admits_one
      match hadm : Batch.admitted codec xs, hne with
      | [e], _ => exact ⟨e, rfl⟩
      | _ :: _ :: _, _ => simp [hadm] at hlen
    · rintro ⟨e, he⟩
      rw [List.append_cancel_left he]
      exact List.cons_ne_nil e []
  · intro hno
    refine ⟨h.closed hno, ?_⟩
    have hnil : Batch.admitted codec xs = [] := by
      by_contra hne
      have hadm := h.admitted_iff.2 hne
      rw [hno] at hadm
      cases hadm
    simp [hentries, hnil]

/-- Every run of an attempt to admit does what an attempt may do, with the tasks it took. -/
theorem tryAdmit_attempt (hsrc : src.Faithful rt) {adm : Admission}
    (h : Exec rt (a.tryAdmit ctx src) s s' (adm, a') tr) : Attempt ctx.codec a a' adm (taken tr) := by
  cases tryAdmit_exec h with
  | full _ _ => simpa using Attempt.close ctx.codec a .sizeLimit
  | closed _ hclosed =>
      exact ⟨rfl, ⟨⟨none, rfl⟩, fun _ => rfl, by simp, by simp⟩, by simp, fun _ => hclosed⟩
  | shutdown _ _ _ _ => simpa using Attempt.close ctx.codec a .interrupted
  | pulls hroom hopen _ h =>
      have hloop := Exec.loop_invariant
        (I := fun b _ pre => b.limits = a.limits ∧
          b.batch = a.batch.consumeAll ctx.codec a.limits (taken pre) ∧
          Batch.admitted ctx.codec (taken pre) = [])
        (J := fun r _ pre => Attempt ctx.codec a r.2 r.1 (taken pre)) ?_ [] ⟨rfl, rfl, rfl⟩ h
      · obtain ⟨⟨adm₁, a₁⟩, s₃, tr₅, tr₆, hJ, hdone, rfl⟩ := hloop
        obtain ⟨-, hres, rfl⟩ := (exec_done _).1 hdone
        cases hres
        simpa using hJ
      intro b s₃ s₄ r tr pre ⟨hl, hb, hadm⟩ h
      rcases pullOnce_batch hsrc h with ⟨x, b', rfl, hx, he, hl', hb'⟩ |
        ⟨x, b', rfl, hx, he, hl', hb'⟩ | ⟨reason, b', rfl, hx, hl', hb'⟩
      · refine ⟨hl'.trans hl, ?_, ?_⟩
        · rw [hb', hb, hl, taken_append, hx, Batch.consumeAll_append, Batch.consumeAll_singleton]
        · simp [hadm, hx, he]
      · obtain ⟨e, he⟩ := Option.isSome_iff_exists.1 he
        refine ⟨hl'.trans hl, ⟨⟨none, ?_⟩, ?_, ?_, fun _ => hroom⟩, ?_, ?_⟩
        · rw [Batch.closeWith_none, hb', hb, hl, taken_append, hx, Batch.consumeAll_append,
            Batch.consumeAll_singleton]
        · simp [hopen]
        · simp [hadm, hx, he]
        · simp [hadm, hx, he]
        · intro hno
          cases hno
      · refine ⟨hl'.trans hl, ⟨⟨some reason, ?_⟩, ?_, ?_, fun _ => hroom⟩, ?_, ?_⟩
        · rw [hb', hb, hl, taken_append, Batch.consumeAll_append]
        · simp [hopen]
        · simp [hadm, hx]
        · simp [hadm, hx]
        · intro _
          rw [hb', Batch.closeWith_some]
          exact Batch.close_fst_closed _ _

/-- A close takes nothing and closes the batch, unless it is closed already. -/
theorem closeFor_advance (codec : Codec) {reason : CloseReason}
    (h : Exec rt (a.closeFor reason) s s' a' tr) :
    a'.limits = a.limits ∧ Batch.Advance codec a.limits a.batch a'.batch (taken tr) := by
  obtain ⟨rfl, rfl, -⟩ := closeFor_exec h
  exact ⟨rfl, ⟨some reason, rfl⟩, fun _ => rfl, by simp, by simp⟩

/-! ## Any sequence of calls -/

/-- The assemblers that a sequence of attempts to admit and closes, in any order, leads to from
`a`, with the trace of their waits. Each call may start in any state: other processes run
between calls. -/
inductive Calls (ctx : Context) (src : Source σ ω) (rt : Runtime (Shared (Env σ ω))) :
    Assembler → Assembler → List (Wake (Shared (Env σ ω))) → Prop
  | nil (a : Assembler) : Calls ctx src rt a a []
  | attempt {a a₁ a₂ : Assembler} {tr tr' : List (Wake (Shared (Env σ ω)))}
      {s s' : Shared (Env σ ω)} {adm : Admission} :
      Calls ctx src rt a a₁ tr → Exec rt (a₁.tryAdmit ctx src) s s' (adm, a₂) tr' →
        Calls ctx src rt a a₂ (tr ++ tr')
  | close {a a₁ a₂ : Assembler} {tr tr' : List (Wake (Shared (Env σ ω)))}
      {s s' : Shared (Env σ ω)} (reason : CloseReason) :
      Calls ctx src rt a a₁ tr → Exec rt (a₁.closeFor reason) s s' a₂ tr' →
        Calls ctx src rt a a₂ (tr ++ tr')

/-- Over any sequence of calls the limits stay, the batch grows, and a batch that is what its
history makes it stays so, its history extended by the tasks the calls took. -/
theorem Calls.run (hsrc : src.Faithful rt) (h : Calls ctx src rt a a' tr) :
    a'.limits = a.limits ∧ Batch.Grows a.batch a'.batch ∧
      ∀ xs, Batch.Assembled ctx.codec a.limits xs a.batch →
        Batch.Assembled ctx.codec a.limits (xs ++ taken tr) a'.batch := by
  induction h with
  | nil => exact ⟨rfl, .refl _, by simp⟩
  | attempt _ hexec ih =>
      obtain ⟨hl, hg, hA⟩ := ih
      have hat := tryAdmit_attempt hsrc hexec
      have hadv := hat.advance
      rw [hl] at hadv
      refine ⟨hat.limits_eq.trans hl, hg.trans hadv.grows, fun xs hxs => ?_⟩
      rw [taken_append, ← List.append_assoc]
      exact (hA xs hxs).advance hadv
  | close reason _ hexec ih =>
      obtain ⟨hl, hg, hA⟩ := ih
      obtain ⟨hl', hadv⟩ := closeFor_advance ctx.codec hexec
      rw [hl] at hadv
      refine ⟨hl'.trans hl, hg.trans hadv.grows, fun xs hxs => ?_⟩
      rw [taken_append, ← List.append_assoc]
      exact (hA xs hxs).advance hadv

/-- Every batch reached from an empty one by attempts to admit and closes, against any runtime
and any faithful source, is what the tasks it consumed make of it; every later state keeps its
entries as a prefix, and its reason, entries and window once it is closed or open; and every
further attempt answers `admitted` exactly when it appended one entry, and otherwise leaves a
closed batch with the same entries. -/
theorem assembly_invariants (hsrc : src.Faithful rt) (limits : Limits) {a₁ a₂ : Assembler}
    {tr₁ tr₂ : List (Wake (Shared (Env σ ω)))}
    (h₁ : Calls ctx src rt { limits } a₁ tr₁) (h₂ : Calls ctx src rt a₁ a₂ tr₂) :
    Batch.Assembled ctx.codec limits (taken tr₁) a₁.batch ∧ Batch.Grows a₁.batch a₂.batch ∧
      ∀ s s' adm a₃ tr₃, Exec rt (a₂.tryAdmit ctx src) s s' (adm, a₃) tr₃ →
        Batch.Admits adm a₂.batch a₃.batch := by
  obtain ⟨-, -, hA⟩ := Calls.run hsrc h₁
  obtain ⟨-, hG, -⟩ := Calls.run hsrc h₂
  refine ⟨by simpa using hA [] Batch.Assembled.empty, hG, ?_⟩
  intro s s' adm a₃ tr₃ h
  exact (tryAdmit_attempt hsrc h).admits

/-- On the channel, in a world that stops at 5 s, with batches of at most two documents: the
first attempt refuses a task without data and admits the next, the second admits a third, and
the worker then closes the batch. The batch is what the three tasks make of it, the close keeps
its entries, and a further attempt leaves it closed. -/
theorem assembly_invariants_three_tasks :
    ∃ (a₁ a₂ : Assembler) (tr₁ tr₂ : List (Wake (Shared (Env Unit Unit)))),
      Calls {} Source.channel (Outside.runtime ⟨5000, none⟩) { limits := ⟨2, 100⟩ } a₁ tr₁ ∧
      Calls {} Source.channel (Outside.runtime ⟨5000, none⟩) a₁ a₂ tr₂ ∧
      a₁.batch.entries.length = 2 ∧ a₁.batch.refused = 1 ∧
      a₂.batch.closeReason = some .closedByWorker ∧
      Batch.Assembled Codec.json ⟨2, 100⟩ (taken tr₁) a₁.batch ∧ Batch.Grows a₁.batch a₂.batch ∧
      ∀ (s s' : Shared (Env Unit Unit)) adm a₃ tr₃, Exec (Outside.runtime ⟨5000, none⟩)
          (a₂.tryAdmit {} Source.channel) s s' (adm, a₃) tr₃ →
        Batch.Admits adm a₂.batch a₃.batch := by
  obtain ⟨s', ⟨a₁, a₂⟩, tr, h, hfacts⟩ := exec_of_runFor_any (show
    (runFor (Outside.wake ⟨5000, none⟩) 1000
      (Proc.bind (({ limits := ⟨2, 100⟩ } : Assembler).tryAdmit {} (Source.channel : Source Unit Unit))
        fun r₁ => Proc.bind (r₁.2.tryAdmit {} Source.channel) fun r₂ =>
          Proc.bind (r₂.2.closeFor .closedByWorker) fun a₂ => .done (r₂.2, a₂))
      (Outside.start [{ id := 1 }, Task.blank 2, Task.blank 3])).any
      (fun x => x.2.1.1.batch.entries.length == 2 && x.2.1.1.batch.refused == 1 &&
        x.2.1.2.batch.closeReason == some .closedByWorker) = true
    by decide +kernel)
  simp only [Bool.and_eq_true, beq_iff_eq] at hfacts
  obtain ⟨⟨hlen, hrefused⟩, hreason⟩ := hfacts
  obtain ⟨s₁, r₁, trA, tr', hA, hAfter, rfl⟩ := (exec_bind _ _).1 h
  obtain ⟨s₂, r₂, trB, tr'', hB, hBAfter, rfl⟩ := (exec_bind _ _).1 hAfter
  obtain ⟨s₃, c, trC, trD, hC, hCAfter, rfl⟩ := (exec_bind _ _).1 hBAfter
  obtain ⟨rfl, hres, rfl⟩ := (exec_done _).1 hCAfter
  obtain ⟨rfl, rfl⟩ := Prod.mk.inj hres
  have h₁ : Calls {} Source.channel (Outside.runtime ⟨5000, none⟩) { limits := ⟨2, 100⟩ } r₂.2
      ([] ++ trA ++ trB) :=
    .attempt (.attempt (.nil _) hA) hB
  have h₂ : Calls {} Source.channel (Outside.runtime ⟨5000, none⟩) r₂.2 a₂ ([] ++ trC) :=
    .close .closedByWorker (.nil _) hC
  exact ⟨r₂.2, a₂, _, _, h₁, h₂, hlen, hrefused, hreason,
    assembly_invariants (Source.channel_faithful _) ⟨2, 100⟩ h₁ h₂⟩

end Assembler

end DocBatch
