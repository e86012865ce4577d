import DocBatch.Schedule.Proc
import DocBatch.Work
import DocBatch.Task.Basic

/-!
# The engine's world

The engine's processes share, besides the clock, the shutdown signal and the channel, the
effects of processing (the value store, the processing code's own state, the log) and the
answers sent back through the response channel. `Eng σ ω` is a process of the engine.

A task source gives tasks and takes their answers. `next` waits at most the given time for a
task and gives none when the time passes or the source is exhausted; `respond` answers a
task. The channel source takes tasks from the shared channel and puts answers into the
response channel. Whoever reads the answers may drop the receiving end of that channel at any
time; from then on every answer fails, naming its task, and reaches nobody.
-/

namespace DocBatch

/-- An answer as it reached the response channel. -/
structure Delivery where
  taskId : Int
  correlationId : Option String
  response : Response
  deriving Repr, Inhabited

/-- The engine's part of the shared state. -/
structure Env (σ ω : Type) where
  fx : Effects σ ω
  delivered : Array Delivery := #[]
  /-- Whether the receiving end of the response channel is still held. -/
  receiving : Bool := true

/-- A process of the engine. -/
abbrev Eng (σ ω : Type) := Act (Env σ ω)

namespace Eng

variable {σ ω : Type}

/-- Runs a computation of processing code, at once. -/
def work {α : Type} (w : Work σ ω α) : Eng σ ω α :=
  Act.modifyOwn fun env => let (a, fx) := w.run env.fx; (a, { env with fx := fx })

/-- Logs an event. -/
def emit (e : Event) : Eng σ ω Unit := work (Work.emit e)

/-- Puts an answer into the response channel. -/
def deliver (d : Delivery) : Eng σ ω Unit :=
  Act.modifyOwn fun env => ((), { env with delivered := env.delivered.push d })

end Eng

/-- Where tasks come from and answers go. -/
structure Source (σ ω : Type) where
  next : Nat → Eng σ ω (Except Error (Option Task))
  respond : Task → Response → Eng σ ω (Except Error Unit)

/-- The error of an answer sent after the response channel's receiver was dropped. -/
def receiverDropped (t : Task) : Error :=
  .other ("response receiver dropped for task " ++ toString t.id)

/-- The source on the shared channel: a pull waits for the lock and a task until the time
is up; an answer goes to the response channel while its receiver is held, and fails once the
receiver is dropped. -/
def Source.channel {σ ω : Type} : Source σ ω where
  next maxWait := do
    let deadline := (← Act.now) + maxWait
    match ← Proc.await (.pull deadline) with
    | .task t => return .ok (some t)
    | _ => return .ok none
  respond t r := do
    if (← Act.own).receiving then
      Eng.deliver ⟨t.id, t.correlationId, r⟩
      return .ok ()
    else return .error (receiverDropped t)

end DocBatch
