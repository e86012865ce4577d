import DocBatch.Engine.Assembler

/-!
# Processing code

Processing code edits documents. A worker processes one document at a time and may fail
transiently. A processor says how the engine hands documents to the worker: one per batch
(`single`), or the whole batch through a cursor (`bulk`), with a program that moves the
cursor. The default program takes documents one after the other and processes each, stopping
at the first failure.

The cursor admits tasks lazily: asking for the next document when every admitted one was
handed out tries to admit one more.
-/

namespace DocBatch

/-- Code that processes one document. It edits the document in place and may fail transiently
part way through: it gives back the document with every edit it made, those before a failure
included, and whether it failed. -/
structure Worker (σ ω : Type) where
  process : Document → Work σ ω (Document × Except TransientError Unit)

/-- A batch being assembled, as processing code walks it. -/
structure Cursor where
  assembler : Assembler
  /-- How many documents were handed out. -/
  position : Nat := 0
  deriving Inhabited

namespace Cursor

variable {σ ω : Type}

/-- The batch. -/
def batch (c : Cursor) : Batch := c.assembler.batch

/-- The next document's position, admitting a task when all admitted ones were handed out;
`none` when no more come. -/
def next (ctx : Context) (src : Source σ ω) (c : Cursor) : Eng σ ω (Option Nat × Cursor) := do
  if c.batch.size ≤ c.position then
    let (admission, a) ← Assembler.tryAdmit ctx src c.assembler
    let c := { c with assembler := a }
    match admission with
    | .noMore => return (none, c)
    | .admitted => return (some c.position, { c with position := c.position + 1 })
  else return (some c.position, { c with position := c.position + 1 })

/-- Closes the batch on the processing code's request. -/
def close (c : Cursor) : Eng σ ω Cursor := do
  return { c with assembler := ← c.assembler.closeFor .closedByWorker }

/-- Processes the admitted document at a position; `false` when there is none. The batch keeps
the worker's edits to the document, also when the worker failed. -/
def process (w : Worker σ ω) (i : Nat) (c : Cursor) :
    Eng σ ω (Except TransientError Bool × Cursor) := do
  match c.batch.entries[i]? with
  | none => return (.ok false, c)
  | some e =>
    let (d, r) ← Eng.work (w.process e.document)
    return (r.map fun _ => true, { c with assembler := { c.assembler with batch := c.batch.setDocument i d } })

/-- Hands out documents and processes each until none comes or one fails; the number
processed. -/
def drain (ctx : Context) (src : Source σ ω) (w : Worker σ ω) (c : Cursor) :
    Eng σ ω (Except TransientError Nat × Cursor) :=
  Proc.iterate (0, c) fun (n, c) => do
    match ← c.next ctx src with
    | (none, c) => return .inr (.ok n, c)
    | (some i, c) =>
      match ← c.process w i with
      | (.ok _, c) => return .inl (n + 1, c)
      | (.error e, c) => return .inr (.error e, c)

end Cursor

/-- A program that walks a batch with a cursor, given the context, the source and the
worker. -/
def BatchProgram (σ ω : Type) : Type 1 :=
  Context → Source σ ω → Worker σ ω → Cursor → Eng σ ω (Except TransientError Unit × Cursor)

/-- How documents reach processing code. -/
inductive Processor (σ ω : Type) : Type 1 where
  /-- One document per batch. -/
  | single (w : Worker σ ω)
  /-- The whole batch, walked by a program. -/
  | bulk (w : Worker σ ω) (program : BatchProgram σ ω)

namespace Processor

variable {σ ω : Type}

/-- The program that processes every document in turn. -/
def eachDocument : BatchProgram σ ω := fun ctx src w c => do
  let (r, c) ← c.drain ctx src w
  return (r.map fun _ => (), c)

/-- Bulk processing of every document in turn. -/
def bulkEach (w : Worker σ ω) : Processor σ ω := .bulk w eachDocument

/-- The name of the processor's mode. -/
def mode : Processor σ ω → String
  | .single _ => "single"
  | .bulk _ _ => "bulk"

end Processor

end DocBatch
