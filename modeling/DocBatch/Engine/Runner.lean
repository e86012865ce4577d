import DocBatch.Engine.Processor

/-!
# Running a batch

A run assembles a batch through the processor and answers every admitted task: all
successes, each with the encoded patch of its own document, when processing succeeded; all
rejections, with the failure's text, when it failed. There is no partial success. An answer
that cannot be encoded or delivered is recorded as a response failure and logged; it changes
neither the outcome nor the other answers.

A single processor gets a batch of one document under the batch time limit; a bulk processor
a batch as large as the settings allow, and at least one.
-/

namespace DocBatch

/-- Whether a batch succeeded as a whole or was rejected as a whole. -/
inductive Outcome where
  | succeeded
  | rejected
  deriving Repr, DecidableEq, Inhabited

/-- The name of an outcome. -/
def Outcome.name : Outcome → String
  | .succeeded => "succeeded"
  | .rejected => "rejected"

/-- An answer that did not reach its task's source. -/
structure ResponseFailure where
  taskId : Int
  error : Error
  deriving Repr

/-- What a batch run did. -/
structure Report where
  size : Nat
  refused : Nat
  outcome : Outcome
  closeReason : Option CloseReason
  interrupted : Bool
  failures : List ResponseFailure
  durationMs : Nat
  deriving Repr

namespace Runner

variable {σ ω : Type}

/-- Logs a change of a batch's state. -/
def transition (source target : String) : Eng σ ω Unit :=
  Eng.emit { level := .info, message := "batch_transition",
             fields := [("from", .str source), ("to", .str target)] }

/-- Records an answer that did not reach its source. -/
def failed (t : Task) (e : Error) : Eng σ ω ResponseFailure := do
  Eng.emit { level := .error, message := "could not deliver response",
             fields := [("task_id", .str (toString t.id)), ("error", .str e.message)] }
  return ⟨t.id, e⟩

/-- Answers each task with a success carrying its encoded patch. -/
def respondSuccess (ctx : Context) (src : Source σ ω) : List Entry → Eng σ ω (List ResponseFailure)
  | [] => return []
  | e :: rest => do
    let r ← match ctx.codec.encode e.document.toPatch with
      | .ok data => src.respond e.task (.success data)
      | .error err => pure (.error err)
    let here ← match r with
      | .ok () => pure []
      | .error err => do pure [← failed e.task err]
    return here ++ (← respondSuccess ctx src rest)

/-- Answers each task with a rejection. -/
def respondRejected (src : Source σ ω) (reason : String) : List Entry → Eng σ ω (List ResponseFailure)
  | [] => return []
  | e :: rest => do
    let here ← match ← src.respond e.task (.rejected reason) with
      | .ok () => pure []
      | .error err => do pure [← failed e.task err]
    return here ++ (← respondRejected src reason rest)

/-- The limits of a batch for a processor. -/
def limits (settings : WorkerSettings) : Processor σ ω → Limits
  | .single _ => ⟨1, settings.maxBatchTimeMs⟩
  | .bulk _ _ => ⟨settings.batchLimit, settings.maxBatchTimeMs⟩

/-- Hands the batch to the processor. -/
def processWith (ctx : Context) (src : Source σ ω) (c : Cursor) :
    Processor σ ω → Eng σ ω (Except TransientError Unit × Cursor)
  | .single w => do
    match ← c.next ctx src with
    | (some i, c) =>
      let (r, c) ← c.process w i
      return (r.map fun _ => (), c)
    | (none, c) => return (.ok (), c)
  | .bulk w program => program ctx src w c

/-- The label of a close reason, `open` for a batch never closed. -/
def closeLabel : Option CloseReason → String
  | some r => r.name
  | none => "open"

end Runner

/-- Runs one batch through a processor. -/
def runBatch {σ ω : Type} (ctx : Context) (src : Source σ ω) (p : Processor σ ω) : Eng σ ω Report := do
  let started ← Act.now
  Runner.transition "new" "assembling"
  let c : Cursor := { assembler := { limits := Runner.limits ctx.settings p } }
  Runner.transition "assembling" "running"
  let (processed, c) ← Runner.processWith ctx src c p
  let b := c.batch
  let (outcome, failures) ← match processed with
    | .ok () => do
      let failures ← Runner.respondSuccess ctx src b.entries
      Runner.transition "running" "succeeded"
      pure (Outcome.succeeded, failures)
    | .error e => do
      Eng.emit { level := .warn, message := "processing failed, rejecting whole batch",
                 fields := [("size", .ofNat b.size), ("error", .str e.display)] }
      let failures ← Runner.respondRejected src e.display b.entries
      Runner.transition "running" "rejected"
      pure (Outcome.rejected, failures)
  let duration := (← Act.now) - started
  if b.size > 0 || b.refused > 0 then
    Eng.emit { level := .info, message := "batch completed",
               fields := [("size", .ofNat b.size), ("refused", .ofNat b.refused),
                 ("outcome", .str outcome.name), ("close_reason", .str (Runner.closeLabel b.closeReason)),
                 ("duration_ms", .ofNat duration), ("failed_responses", .ofNat failures.length)] }
  return { size := b.size, refused := b.refused, outcome := outcome, closeReason := b.closeReason,
           interrupted := b.closeReason == some .interrupted, failures := failures,
           durationMs := duration }

end DocBatch
