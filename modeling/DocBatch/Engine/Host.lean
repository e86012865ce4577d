import DocBatch.Engine.Runner

/-!
# The worker host

A host runs batch after batch until the shutdown signal. It counts, over the batches that
admitted or refused anything, the batches, documents, refused tasks, rejected batches and
undelivered answers. It stops at once after an interrupted batch, and waits for the idle
backoff (or the signal) after a batch that did nothing or was rejected.
-/

namespace DocBatch

/-- What a host did. -/
structure HostStats where
  batches : Nat := 0
  documents : Nat := 0
  refused : Nat := 0
  rejectedBatches : Nat := 0
  failedResponses : Nat := 0
  deriving Repr, DecidableEq, Inhabited

/-- Counts a batch run, unless it did nothing. -/
def HostStats.record (s : HostStats) (r : Report) : HostStats :=
  if r.size = 0 && r.refused = 0 then s
  else { batches := s.batches + 1, documents := s.documents + r.size, refused := s.refused + r.refused,
         rejectedBatches := s.rejectedBatches + (if r.outcome = .rejected then 1 else 0),
         failedResponses := s.failedResponses + r.failures.length }

namespace Host

variable {σ ω : Type}

/-- One cycle of a host: a batch, then maybe a backoff; the counts, and whether to stop. -/
def cycle (ctx : Context) (src : Source σ ω) (p : Processor σ ω) (backoff : Nat) (stats : HostStats) :
    Eng σ ω (HostStats ⊕ HostStats) := do
  if ← Act.isShutdown then return .inr stats
  let r ← runBatch ctx src p
  let stats := stats.record r
  if r.interrupted then return .inr stats
  if !r.failures.isEmpty then
    Eng.emit { level := .warn, message := "some responses were not delivered; their tasks will be redelivered",
               fields := [("failed", .ofNat r.failures.length)] }
  if (r.size = 0 && r.refused = 0) || r.outcome = .rejected then
    let wake := (← Act.now) + backoff
    match ← Proc.await (.orShutdown (.sleep wake)) with
    | .shutdown => return .inr stats
    | _ => return .inl stats
  return .inl stats

end Host

/-- Runs batches until the shutdown signal; what was done. -/
def runHost {σ ω : Type} (ctx : Context) (src : Source σ ω) (p : Processor σ ω) (backoff : Nat) :
    Eng σ ω HostStats := do
  Eng.emit { level := .info, message := "worker host started", fields := [("mode", .str p.mode)] }
  let stats ← Proc.iterate {} (Host.cycle ctx src p backoff)
  Eng.emit { level := .info, message := "worker host stopped",
             fields := [("batches", .ofNat stats.batches), ("documents", .ofNat stats.documents),
               ("refused", .ofNat stats.refused)] }
  return stats

end DocBatch
