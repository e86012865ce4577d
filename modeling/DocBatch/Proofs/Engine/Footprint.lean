import DocBatch.Proofs.Process.Segment
import DocBatch.Engine.Host

/-!
# What the engine's steps touch

The engine reads the clock and the signal, logs, works on the value store and answers tasks,
all through the processes' own part of the state; it takes tasks from the channel only by
waiting, and never touches the receiver of the response channel (`EngOnly`). This module shows
it of the whole host, function by function: each is `Guarded EngOnly`, built by `Guarded.bind`
and the loop and race rules from the guarded parts it calls.
A source and a processor are taken as parameters with that property (`Source.OwnSteps`,
`Processor.OwnSteps`), and the channel and the two processors the engine offers are shown to
have it.

So a host, run among others, changes the channel only at its waits (`runHost_ownSteps`):
between two of its waits it can neither take a task nor put one back.
-/

namespace DocBatch

open Proc

variable {σ ω : Type}

/-- `s'` differs from `s` at most in what the engine's own steps change: the log, the value
store, the processing code's own state and the answers. The clock, the signal, the channel and
the response channel's receiver are as they were. -/
structure EngOnly (s s' : Shared (Env σ ω)) : Prop extends OwnOnly s s' where
  receiving : s'.rest.receiving = s.rest.receiving

namespace EngOnly

theorem refl (s : Shared (Env σ ω)) : EngOnly s s := ⟨OwnOnly.refl s, rfl⟩

theorem trans (s₁ s₂ s₃ : Shared (Env σ ω)) (h₁ : EngOnly s₁ s₂) (h₂ : EngOnly s₂ s₃) :
    EngOnly s₁ s₃ :=
  ⟨OwnOnly.trans _ _ _ h₁.toOwnOnly h₂.toOwnOnly, h₂.receiving.trans h₁.receiving⟩

end EngOnly

/-- A segment of a process whose steps keep to the engine's part leaves the clock, the signal,
the channel and the receiver as they were. -/
theorem Proc.Segment.engOnly {α : Type} {p q : Eng σ ω α} {s s' : Shared (Env σ ω)}
    (h : Proc.Segment p s q s') (hp : Guarded EngOnly p) : EngOnly s s' ∧ Guarded EngOnly q :=
  h.guarded EngOnly.refl EngOnly.trans hp

theorem Act.now_engOnly : Guarded EngOnly (Act.now : Eng σ ω Nat) :=
  (Guarded.read EngOnly.refl).bind fun _ => .done _

theorem Act.isShutdown_engOnly : Guarded EngOnly (Act.isShutdown : Eng σ ω Bool) :=
  (Guarded.read EngOnly.refl).bind fun _ => .done _

theorem Act.own_engOnly : Guarded EngOnly (Act.own : Eng σ ω (Env σ ω)) :=
  (Guarded.read EngOnly.refl).bind fun _ => .done _

theorem Eng.work_engOnly {α : Type} (w : Work σ ω α) : Guarded EngOnly (Eng.work w) :=
  .step (fun _ => ⟨⟨rfl, rfl, rfl, rfl, rfl⟩, rfl⟩) .done

theorem Eng.emit_engOnly (e : Event) : Guarded EngOnly (Eng.emit e : Eng σ ω Unit) :=
  Eng.work_engOnly _

theorem Eng.deliver_engOnly (d : Delivery) : Guarded EngOnly (Eng.deliver d : Eng σ ω Unit) :=
  .step (fun _ => ⟨⟨rfl, rfl, rfl, rfl, rfl⟩, rfl⟩) .done

/-- A source whose pulls and answers keep to the processes' own part between their waits. -/
structure Source.OwnSteps (src : Source σ ω) : Prop where
  next : ∀ m, Guarded EngOnly (src.next m)
  respond : ∀ t r, Guarded EngOnly (src.respond t r)

theorem Source.channel_ownSteps : (Source.channel : Source σ ω).OwnSteps where
  next m := Act.now_engOnly.bind fun _ => (Guarded.await _).bind fun r => by
    cases r <;> exact .done _
  respond t r := Act.own_engOnly.bind fun env => by
    split
    · exact (Eng.deliver_engOnly _).bind fun _ => .done _
    · exact .done _

namespace Assembler

variable {ctx : Context} {src : Source σ ω}

theorem closeFor_ownSteps (reason : CloseReason) (a : Assembler) :
    Guarded EngOnly (a.closeFor reason : Eng σ ω Assembler) := by
  unfold closeFor
  split
  dsimp only
  split
  · exact (Eng.emit_engOnly _).bind fun _ => .done _
  · exact .done _

theorem refuse_ownSteps (hsrc : src.OwnSteps) (t : Task) (r : Refusal) (a : Assembler) :
    Guarded EngOnly (a.refuse src t r) := by
  unfold refuse
  refine (Eng.emit_engOnly _).bind fun _ => (hsrc.respond _ _).bind fun r => ?_
  cases r with
  | error e => exact (Eng.emit_engOnly _).bind fun _ => .done _
  | ok u => exact .done _

theorem accept_ownSteps (t : Task) (p : Payload) (a : Assembler) :
    Guarded EngOnly (a.accept t p : Eng σ ω Assembler) := by
  unfold accept
  exact Act.now_engOnly.bind fun _ => (Eng.emit_engOnly _).bind fun _ => .done _

theorem pullOrShutdown_ownSteps (hsrc : src.OwnSteps) (m : Nat) :
    Guarded EngOnly (pullOrShutdown src m) := by
  unfold pullOrShutdown
  refine Act.isShutdown_engOnly.bind fun b => ?_
  split
  · exact .done _
  · exact (hsrc.next m).unlessShutdown

theorem pullOnce_ownSteps (hsrc : src.OwnSteps) (deadline : Nat) (a : Assembler) :
    Guarded EngOnly (a.pullOnce ctx src deadline) := by
  unfold pullOnce
  refine Act.now_engOnly.bind fun _ => (pullOrShutdown_ownSteps hsrc _).bind fun r => ?_
  have hclose (reason : CloseReason) (a : Assembler) :
      Guarded EngOnly (do return Sum.inr (Admission.noMore, ← a.closeFor reason) :
        Eng σ ω (Assembler ⊕ (Admission × Assembler))) :=
    (closeFor_ownSteps reason a).bind fun _ => .done _
  split
  · exact (Eng.emit_engOnly _).bind fun _ => hclose _ _
  · exact hclose _ _
  · exact (Eng.emit_engOnly _).bind fun _ => hclose _ _
  · split
    · exact (accept_ownSteps _ _ _).bind fun _ => .done _
    · refine (refuse_ownSteps hsrc _ _ _).bind fun a' => Act.now_engOnly.bind fun _ => ?_
      split
      · exact hclose _ _
      · exact .done _

theorem tryAdmit_ownSteps (hsrc : src.OwnSteps) (a : Assembler) :
    Guarded EngOnly (a.tryAdmit ctx src) := by
  unfold tryAdmit
  split
  · exact (closeFor_ownSteps _ _).bind fun _ => .done _
  split
  · exact .done _
  refine Act.isShutdown_engOnly.bind fun b => ?_
  split
  · exact (closeFor_ownSteps _ _).bind fun _ => .done _
  · exact Act.now_engOnly.bind fun _ => .iterate fun a' => pullOnce_ownSteps hsrc _ a'

end Assembler

section
variable {ctx : Context} {src : Source σ ω}

namespace Cursor

theorem next_ownSteps (hsrc : src.OwnSteps) (c : Cursor) : Guarded EngOnly (c.next ctx src) := by
  unfold next
  split
  · refine (Assembler.tryAdmit_ownSteps hsrc _).bind fun r => ?_
    obtain ⟨adm, a⟩ := r
    cases adm <;> exact .done _
  · exact .done _

theorem close_ownSteps (c : Cursor) : Guarded EngOnly (c.close : Eng σ ω Cursor) := by
  unfold close
  exact (Assembler.closeFor_ownSteps _ _).bind fun _ => .done _

theorem process_ownSteps (w : Worker σ ω) (i : Nat) (c : Cursor) :
    Guarded EngOnly (c.process w i) := by
  unfold process
  split
  · exact .done _
  · refine (Eng.work_engOnly _).bind fun r => ?_
    obtain ⟨d, r⟩ := r
    exact .done _

theorem drain_ownSteps (hsrc : src.OwnSteps) (w : Worker σ ω) (c : Cursor) :
    Guarded EngOnly (c.drain ctx src w) := by
  unfold drain
  refine .iterate fun x => ?_
  obtain ⟨n, c⟩ := x
  refine (next_ownSteps hsrc c).bind fun r => ?_
  obtain ⟨i, c'⟩ := r
  cases i with
  | none => exact .done _
  | some i =>
    refine (process_ownSteps w i c').bind fun r => ?_
    obtain ⟨r, c''⟩ := r
    cases r <;> exact .done _

end Cursor

namespace Runner

theorem failed_ownSteps (t : Task) (e : Error) :
    Guarded EngOnly (failed t e : Eng σ ω ResponseFailure) := by
  unfold failed
  exact (Eng.emit_engOnly _).bind fun _ => .done _

theorem respondSuccess_ownSteps (hsrc : src.OwnSteps) (es : List Entry) :
    Guarded EngOnly (respondSuccess ctx src es) := by
  induction es with
  | nil => exact .done _
  | cons e es ih =>
    unfold respondSuccess
    dsimp only
    have hrest (here : List ResponseFailure) :
        Guarded EngOnly (do return here ++ (← respondSuccess ctx src es)) :=
      ih.bind fun _ => .done _
    split
    · refine (hsrc.respond _ _).bind fun r => ?_
      cases r with
      | ok u => exact hrest []
      | error err => exact (failed_ownSteps _ _).bind fun f => hrest [f]
    · exact (failed_ownSteps _ _).bind fun f => hrest [f]

theorem respondRejected_ownSteps (hsrc : src.OwnSteps) (reason : String) (es : List Entry) :
    Guarded EngOnly (respondRejected src reason es) := by
  induction es with
  | nil => exact .done _
  | cons e es ih =>
    have hrest (here : List ResponseFailure) :
        Guarded EngOnly (do return here ++ (← respondRejected src reason es)) :=
      ih.bind fun _ => .done _
    refine (hsrc.respond _ _).bind fun r => ?_
    dsimp only
    cases r with
    | ok u => exact hrest []
    | error err => exact (failed_ownSteps _ _).bind fun f => hrest [f]

end Runner

/-- A processor keeps to the processes' own part when its processing of every batch does. -/
def Processor.OwnSteps (ctx : Context) (src : Source σ ω) (p : Processor σ ω) : Prop :=
  ∀ c, Guarded EngOnly (Runner.processWith ctx src c p)

theorem Processor.single_ownSteps (hsrc : src.OwnSteps) (w : Worker σ ω) :
    (Processor.single w).OwnSteps ctx src := by
  intro c
  refine (Cursor.next_ownSteps hsrc c).bind fun r => ?_
  obtain ⟨i, c'⟩ := r
  cases i with
  | none => exact .done _
  | some i =>
    refine (Cursor.process_ownSteps w i c').bind fun r => ?_
    obtain ⟨r, c''⟩ := r
    exact .done _

theorem Processor.bulkEach_ownSteps (hsrc : src.OwnSteps) (w : Worker σ ω) :
    (Processor.bulkEach w).OwnSteps ctx src := by
  intro c
  refine (Cursor.drain_ownSteps hsrc w c).bind fun r => ?_
  obtain ⟨r, c'⟩ := r
  exact .done _

theorem runBatch_ownSteps (hsrc : src.OwnSteps) (p : Processor σ ω) (hp : p.OwnSteps ctx src) :
    Guarded EngOnly (runBatch ctx src p) := by
  unfold runBatch
  refine Act.now_engOnly.bind fun _ => (Eng.emit_engOnly _).bind fun _ =>
    (Eng.emit_engOnly _).bind fun _ => (hp _).bind fun r => ?_
  obtain ⟨processed, c⟩ := r
  dsimp only
  split
  · refine (Runner.respondSuccess_ownSteps hsrc _).bind fun _ => (Eng.emit_engOnly _).bind fun _ =>
      Act.now_engOnly.bind fun _ => ?_
    split
    · exact (Eng.emit_engOnly _).bind fun _ => .done _
    · exact .done _
  · refine (Eng.emit_engOnly _).bind fun _ => (Runner.respondRejected_ownSteps hsrc _ _).bind fun _ =>
      (Eng.emit_engOnly _).bind fun _ => Act.now_engOnly.bind fun _ => ?_
    split
    · exact (Eng.emit_engOnly _).bind fun _ => .done _
    · exact .done _

theorem Host.cycle_ownSteps (hsrc : src.OwnSteps) (p : Processor σ ω) (hp : p.OwnSteps ctx src)
    (backoff : Nat) (stats : HostStats) :
    Guarded EngOnly (Host.cycle ctx src p backoff stats) := by
  unfold Host.cycle
  refine Act.isShutdown_engOnly.bind fun b => ?_
  split
  · exact .done _
  refine (runBatch_ownSteps hsrc p hp).bind fun r => ?_
  dsimp only
  split
  · exact .done _
  split
  · refine (Eng.emit_engOnly _).bind fun _ => ?_
    split
    · refine Act.now_engOnly.bind fun _ => (Guarded.await _).bind fun w => ?_
      cases w <;> exact .done _
    · exact .done _
  · split
    · refine Act.now_engOnly.bind fun _ => (Guarded.await _).bind fun w => ?_
      cases w <;> exact .done _
    · exact .done _

/-- A host keeps to the processes' own part: between two waits it only logs, works on the
value store and answers tasks, and the clock, the signal and the channel move only while it
waits. -/
theorem runHost_ownSteps (hsrc : src.OwnSteps) (p : Processor σ ω) (hp : p.OwnSteps ctx src)
    (backoff : Nat) :
    Guarded EngOnly (runHost ctx src p backoff) :=
  (Eng.emit_engOnly _).bind fun _ =>
    (Guarded.iterate fun st => Host.cycle_ownSteps hsrc p hp backoff st).bind fun _ =>
      (Eng.emit_engOnly _).bind fun _ => .done _

end

end DocBatch
