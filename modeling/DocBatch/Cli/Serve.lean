import DocBatch.Engine.Host
import DocBatch.Schedule.Run
import DocBatch.Queue.Source
import DocBatch.WordCount

/-!
# Serving until the queue settles

`serve` runs worker hosts on the database's queues with the word-count worker until it is
interrupted. Here the interruption comes when the input queue has settled:

1. at least one read of it was made (a failed read counts);
2. none of its messages is visible;
3. every message read from it was archived or released, or the database has not changed
   for `stuckMs`;
4. and the database has not changed for `quietMs`.

A watcher looks every `tickMs` and then sends the shutdown signal; the hosts finish their
batches and stop. A queue that has not settled after `patienceMs` is given up on: the signal
is sent all the same, and the run counts as timed out.
-/

namespace DocBatch

namespace Serve

/-- How often the watcher looks, in milliseconds. -/
def tickMs : Nat := 10

/-- How long the database must be unchanged for the queue to settle. -/
def quietMs : Nat := 150

/-- How long the database must be unchanged for held messages not to matter. -/
def stuckMs : Nat := 600

/-- How long the watcher waits for the queue to settle. -/
def patienceMs : Nat := 20000

/-- What the watcher found. -/
structure Verdict where
  timedOut : Bool := false
  deriving Repr, Inhabited

/-- A serving run's world: the database, and the watcher's verdict. -/
abbrev World := Env Database Verdict

/-- Whether the input queue has settled, the database last changed at `changedAt`. -/
def settled (db : Database) (input : String) (changedAt now : Nat) : Bool :=
  let messages := ((db.queue? input).map (·.messages)).getD []
  db.reads > 0 && !messages.any QueueMessage.visible &&
    (!messages.any (·.held) || changedAt + stuckMs ≤ now) && changedAt + quietMs ≤ now

/-- What the watcher remembers: the version last seen and when it changed. -/
structure Watch where
  version : Nat
  changedAt : Nat

/-- One look of the watcher: it sends the signal, or looks again a tick later. -/
def look (input : String) (w : Watch) : Eng Database Verdict (Watch ⊕ Unit) := do
  let now ← Act.now
  let db := (← Act.own).fx.store
  let w := if db.version != w.version then { version := db.version, changedAt := now } else w
  if settled db input w.changedAt now then
    Act.trigger
    return .inr ()
  if patienceMs ≤ now then
    Eng.work (modify fun s => { s with own := { timedOut := true } })
    Act.trigger
    return .inr ()
  Act.sleepUntil (now + tickMs)
  return .inl w

/-- The watcher of the input queue. -/
def watcher (input : String) : Eng Database Verdict Unit := do
  let db := (← Act.own).fx.store
  Proc.iterate { version := db.version, changedAt := ← Act.now } (look input)

/-- A host of the run. -/
def host (ctx : Context) (q : QueueSettings) (p : Processor Database Verdict) (backoff : Nat) :
    Eng Database Verdict Unit := do
  let _ ← runHost ctx (Queue.source q) p backoff
  return ()

/-- Serves the database's queues with `workers` hosts (at least one) until the input queue
settles: the database at the end, and whether the run timed out. -/
def run (ctx : Context) (q : QueueSettings) (workers : Nat) (single : Bool) (backoff : Nat) (db : Database) :
    Database × Bool :=
  let worker : Worker Database Verdict := wordCountWorker ctx
  let p : Processor Database Verdict := if single then .single worker else Processor.bulkEach worker
  let hosts := (List.range (max 1 workers)).map fun _ => host ctx q p backoff
  let shared : Shared World := { rest := { fx := { store := db, own := {} } } }
  let final := Schedule.run shared hosts [watcher q.inputQueue]
  (final.rest.fx.store, final.rest.fx.own.timedOut)

end Serve

end DocBatch
