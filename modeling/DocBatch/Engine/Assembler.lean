import DocBatch.Engine.Batch
import DocBatch.Engine.World
import DocBatch.Task.Validate

/-!
# Assembling a batch

The assembler admits tasks into a batch one at a time. An attempt to admit (`tryAdmit`)
first checks, in order, that the batch is not full (else it closes: `sizeLimit`), not closed,
and that the shutdown signal is not set (else it closes: `interrupted`). It then pulls from
the source until the batch's deadline: the end of its window once a task was admitted, or
the batch's time limit from now.

A pulled task is checked: a valid one is admitted, and the first admission opens the window.
A refused one is answered on the spot, counted, and the pull goes on while the deadline has
not passed. The shutdown signal ends a pull (`interrupted`); a pull that gives nothing closes
the batch (`windowElapsed`), and so does the source failing (`sourceFailed`).
-/

namespace DocBatch

/-- A batch with its limits. -/
structure Assembler where
  limits : Limits
  batch : Batch := {}
  deriving Inhabited

namespace Assembler

variable {σ ω : Type}

/-- Closes the batch for a reason, logging it if it closes now. -/
def closeFor (reason : CloseReason) (a : Assembler) : Eng σ ω Assembler := do
  let (b, e) := a.batch.close reason
  if let some e := e then Eng.emit e
  return { a with batch := b }

/-- The event of a refused task. -/
def refusedEvent (t : Task) (r : Refusal) : Event :=
  { level := .warn, message := "task refused",
    fields := [("task_id", .str (toString t.id)), ("kind", .str r.kind), ("reason", .str r.reason)] }

/-- Answers a refused task and counts it. -/
def refuse (src : Source σ ω) (t : Task) (r : Refusal) (a : Assembler) : Eng σ ω Assembler := do
  Eng.emit (refusedEvent t r)
  let a := { a with batch := { a.batch with refused := a.batch.refused + 1 } }
  match ← src.respond t r.toResponse with
  | .error e =>
    Eng.emit { level := .error, message := "failed to answer refused task",
               fields := [("task_id", .str (toString t.id)), ("error", .str e.message)] }
  | .ok () => pure ()
  return a

/-- Admits a checked task. -/
def accept (t : Task) (p : Payload) (a : Assembler) : Eng σ ω Assembler := do
  let now ← Act.now
  Eng.emit { level := .debug, message := "document admitted",
             fields := [("task_id", .str (toString t.id)), ("position", .ofNat a.batch.size)] }
  return { a with batch := a.batch.accept now a.limits t (Document.ofPayload p) }

/-- A pull from the source that gives way to the shutdown signal, looked at first. -/
def pullOrShutdown (src : Source σ ω) (maxWait : Nat) : Eng σ ω (Option (Except Error (Option Task))) := do
  if ← Act.isShutdown then return none
  Proc.unlessShutdown (src.next maxWait)

/-- One pull of an attempt to admit: a result, or the assembler to pull again. -/
def pullOnce (ctx : Context) (src : Source σ ω) (deadline : Nat) (a : Assembler) :
    Eng σ ω (Assembler ⊕ (Admission × Assembler)) := do
  let now ← Act.now
  match ← pullOrShutdown src (deadline - now) with
  | none =>
    Eng.emit { level := .info, message := "shutdown signalled, closing batch",
               fields := [("size", .ofNat a.batch.size)] }
    return .inr (.noMore, ← a.closeFor .interrupted)
  | some (.ok none) => return .inr (.noMore, ← a.closeFor .windowElapsed)
  | some (.error e) =>
    Eng.emit { level := .error, message := "task source failed, closing batch",
               fields := [("size", .ofNat a.batch.size), ("error", .str e.message)] }
    return .inr (.noMore, ← a.closeFor .sourceFailed)
  | some (.ok (some t)) =>
    match t.check ctx.codec with
    | .ok p => return .inr (.admitted, ← a.accept t p)
    | .error r =>
      let a ← a.refuse src t r
      if deadline ≤ (← Act.now) then return .inr (.noMore, ← a.closeFor .windowElapsed)
      else return .inl a

/-- Tries to admit one more task. -/
def tryAdmit (ctx : Context) (src : Source σ ω) (a : Assembler) : Eng σ ω (Admission × Assembler) := do
  if a.limits.maxSize ≤ a.batch.size then return (.noMore, ← a.closeFor .sizeLimit)
  if a.batch.closed then return (.noMore, a)
  if ← Act.isShutdown then return (.noMore, ← a.closeFor .interrupted)
  let deadline := a.batch.windowEnd.getD ((← Act.now) + a.limits.maxTimeMs)
  Proc.iterate a (pullOnce ctx src deadline)

end Assembler

end DocBatch
