import DocBatch.Document.Basic
import DocBatch.Task.Basic
import DocBatch.Log

/-!
# Batches

A batch gathers admitted tasks, each with the document it carries, in the order they were
admitted. It counts the tasks refused while it was assembled, and remembers when its window
ends: a fixed time after its first admission.

A batch closes once, for the first reason that comes: it is full, its window passed, the
shutdown signal came, the processing code closed it, or the task source failed. Closing again
changes nothing.
-/

namespace DocBatch

/-- Why a batch closed. -/
inductive CloseReason where
  | sizeLimit
  | windowElapsed
  | interrupted
  | closedByWorker
  | sourceFailed
  deriving Repr, DecidableEq, Inhabited

/-- The name of a close reason, as logs show it. -/
def CloseReason.name : CloseReason → String
  | .sizeLimit => "size_limit"
  | .windowElapsed => "window_elapsed"
  | .interrupted => "interrupted"
  | .closedByWorker => "closed_by_worker"
  | .sourceFailed => "source_failed"

/-- How large a batch may grow and how long its window is. -/
structure Limits where
  maxSize : Nat
  maxTimeMs : Nat
  deriving Repr, DecidableEq, Inhabited

/-- An admitted task with its document. -/
structure Entry where
  task : Task
  document : Document
  deriving Inhabited

/-- A batch being assembled. -/
structure Batch where
  entries : List Entry := []
  closed : Bool := false
  closeReason : Option CloseReason := none
  windowEnd : Option Nat := none
  refused : Nat := 0
  deriving Inhabited

/-- Whether an attempt to admit a task gave the batch one more document. -/
inductive Admission where
  | admitted
  | noMore
  deriving Repr, DecidableEq, Inhabited

namespace Batch

/-- The number of admitted tasks. -/
def size (b : Batch) : Nat := b.entries.length

/-- Closes the batch for a reason, unless it is closed; the event that says so, if it
closed now. -/
def close (reason : CloseReason) (b : Batch) : Batch × Option Event :=
  if b.closed then (b, none)
  else
    ({ b with closed := true, closeReason := some reason },
      some { level := .debug, message := "batch closed",
             fields := [("size", .ofNat b.size), ("reason", .str reason.name)] })

/-- Adds an admitted task; the first admission opens the window. -/
def accept (now : Nat) (limits : Limits) (t : Task) (d : Document) (b : Batch) : Batch :=
  { b with entries := b.entries ++ [⟨t, d⟩],
           windowEnd := some (b.windowEnd.getD (now + limits.maxTimeMs)) }

/-- Replaces the document of an entry. -/
def setDocument (i : Nat) (d : Document) (b : Batch) : Batch :=
  { b with entries := b.entries.modify i fun e => { e with document := d } }

@[simp] theorem size_accept (now : Nat) (limits : Limits) (t : Task) (d : Document) (b : Batch) :
    (b.accept now limits t d).size = b.size + 1 := by
  simp [accept, size]

theorem close_closed (reason : CloseReason) (b : Batch) (h : b.closed = true) :
    b.close reason = (b, none) := by
  simp [close, h]

end Batch

end DocBatch
