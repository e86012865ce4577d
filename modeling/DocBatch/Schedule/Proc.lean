import DocBatch.Task.Basic

/-!
# Processes

The engine's concurrent code is written as processes: programs that act on a shared state
and now and then wait. A process is a value of `Proc σ α`, a tree of

* `step f k`: change the shared state by `f` at once, then go on with `k`;
* `wait w k`: wait until `w` is over, then go on with `k` and how it ended;
* `loop b body k`: run `body` again and again from `b` until it gives a result, then `k`.

Nothing runs a process but the scheduler (`Schedule.run`), which interleaves several of them
on a virtual clock. Between two waits a process runs alone: steps are atomic.

A process can wait for a time on the clock, for a task from the channel (taking the
channel's lock first, until a deadline), for room in the channel to send a task, or for any
of these unless the shutdown signal comes first.

The shared state holds what the scheduler itself looks at: the clock, the shutdown signal
and the channel of tasks; the rest of it (`rest`) is the processes' own business.
-/

namespace DocBatch

/-- What a process waits for. -/
inductive Wait where
  /-- The clock reaching a time. -/
  | sleep (time : Nat)
  /-- A task from the channel: its lock, then a task, both before the deadline. -/
  | pull (deadline : Nat)
  /-- Room in the channel for a task. -/
  | send (task : Task)
  /-- The shutdown signal, or else the inner wait; the signal is looked at first. -/
  | orShutdown (w : Wait)
  deriving Repr, Inhabited

/-- How a wait ended. -/
inductive Woken where
  /-- The time came (for a pull: the deadline passed with no task). -/
  | elapsed
  /-- The shutdown signal came first. -/
  | shutdown
  /-- A task was taken from the channel. -/
  | task (t : Task)
  /-- The channel is closed and empty. -/
  | closed
  /-- The task was put into the channel. -/
  | sent
  deriving Repr, Inhabited

/-- The state shared by all processes. -/
structure Shared (ε : Type) where
  /-- The virtual clock, in milliseconds. -/
  now : Nat := 0
  /-- The shutdown signal; once set it stays set. -/
  shutdown : Bool := false
  /-- Tasks in the channel, oldest first. -/
  inbox : List Task := []
  /-- How many tasks the channel holds at most. -/
  capacity : Nat := 64
  /-- Whether the channel is closed to senders. -/
  closed : Bool := false
  /-- What the processes keep besides. -/
  rest : ε

/-- A process on shared state `σ` giving an `α`. -/
inductive Proc (σ : Type) : Type → Type 1 where
  | done {α : Type} (a : α) : Proc σ α
  | step {α β : Type} (f : σ → β × σ) (k : β → Proc σ α) : Proc σ α
  | wait {α : Type} (w : Wait) (k : Woken → Proc σ α) : Proc σ α
  | loop {α β γ : Type} (init : β) (body : β → Proc σ (β ⊕ γ)) (k : γ → Proc σ α) : Proc σ α

namespace Proc

variable {σ : Type}

/-- Runs one process, then another on its result. -/
def bind {α δ : Type} : Proc σ α → (α → Proc σ δ) → Proc σ δ
  | .done a, g => g a
  | .step f k, g => .step f fun b => bind (k b) g
  | .wait w k, g => .wait w fun r => bind (k r) g
  | .loop b body k, g => .loop b body fun c => bind (k c) g

instance : Monad (Proc σ) where
  pure := .done
  bind := Proc.bind

/-- The shared state. -/
def read : Proc σ σ := .step (fun s => (s, s)) .done

/-- Changes the shared state. -/
def update (f : σ → σ) : Proc σ Unit := .step (fun s => ((), f s)) .done

/-- Waits for `w`. -/
def await (w : Wait) : Proc σ Woken := .wait w .done

/-- Repeats `body` from `b` until it gives a result. -/
def iterate {β γ : Type} (b : β) (body : β → Proc σ (β ⊕ γ)) : Proc σ γ := .loop b body .done

/-- One pass of a loop: the body from `b`, then the loop again or its result. -/
def unroll {α β γ : Type} (b : β) (body : β → Proc σ (β ⊕ γ)) (k : γ → Proc σ α) : Proc σ α :=
  bind (body b) fun
    | .inl b => .loop b body k
    | .inr c => k c

/-- A process whose waits all give way to the shutdown signal: `none` if the signal comes
while it waits. -/
def unlessShutdown {α : Type} : Proc σ α → Proc σ (Option α)
  | .done a => .done (some a)
  | .step f k => .step f fun b => unlessShutdown (k b)
  | .wait w k => .wait (Wait.orShutdown w) fun
    | .shutdown => .done none
    | r => unlessShutdown (k r)
  | .loop b body k => .loop b
      (fun b => bind (unlessShutdown (body b)) fun
        | none => .done (.inr none)
        | some (.inl b) => .done (.inl b)
        | some (.inr c) => .done (.inr (some c)))
      fun
        | none => .done none
        | some c => unlessShutdown (k c)

theorem bind_done {α δ : Type} (a : α) (g : α → Proc σ δ) : bind (.done a) g = g a := rfl

end Proc

/-- Processes on a shared state whose own part has type `ε`. -/
abbrev Act (ε : Type) := Proc (Shared ε)

namespace Act

variable {ε : Type}

/-- The time on the clock. -/
def now : Act ε Nat := return (← Proc.read).now

/-- Whether the shutdown signal is set. -/
def isShutdown : Act ε Bool := return (← Proc.read).shutdown

/-- Sets the shutdown signal. -/
def trigger : Act ε Unit := Proc.update fun s => { s with shutdown := true }

/-- Closes the channel to senders. -/
def close : Act ε Unit := Proc.update fun s => { s with closed := true }

/-- Waits until the clock reaches a time. -/
def sleepUntil (t : Nat) : Act ε Unit := do let _ ← Proc.await (Wait.sleep t)

/-- The part of the state that is the processes' own. -/
def own : Act ε ε := return (← Proc.read).rest

/-- Changes the processes' own part of the state and gives a result. -/
def modifyOwn {α : Type} (f : ε → α × ε) : Act ε α :=
  .step (fun s => let (a, r) := f s.rest; (a, { s with rest := r })) .done

end Act

end DocBatch
