import DocBatch.Document.Basic
import DocBatch.Document.Codec
import DocBatch.Work

/-!
# Editing fields

Adding a value to a field pushes it onto the field's ledger. A text or octets longer than the
inline threshold are offered to the value store first: up to `storeRetries + 1` attempts,
each failure logged; the first success puts a reference in the field, and when every attempt
fails the value goes in inline after all. A reference is added as it is, without the store.

A subdocument is reached by a path of positions, one per level.
-/

namespace DocBatch

namespace Document

variable {σ ω : Type} [ValueStore σ]

/-- The most attempts a store is given. -/
def attemptLimit : Nat := Nat.pow 2 32 - 1

/-- The event of a value kept in the store. -/
def offloadedEvent (name : String) (size : Nat) (reference : String) : Event where
  level := .debug
  message := "value offloaded"
  fields := [("field", .str name), ("bytes", .ofNat size), ("reference", .str reference)]

/-- The event of a failed attempt to keep a value in the store. -/
def storeFailedEvent (name : String) (size : Nat) (number : Nat) (e : Error) : Event where
  level := .warn
  message := "could not store value over the inline threshold"
  fields := [("field", .str name), ("bytes", .ofNat size), ("attempt", .ofNat number),
    ("error", .str e.message)]

/-- Offers octets above the inline threshold to the store and answers the reference under
which they were kept. -/
def offload (settings : WorkerSettings) (name : String) (data : Bytes) : Work σ ω (Option String) :=
  if data.length ≤ settings.inlineThreshold then return none
  else attempt (min (settings.storeRetries + 1) attemptLimit) 1
where
  /-- Makes up to `left` more attempts, the next one numbered `number`. -/
  attempt : Nat → Nat → Work σ ω (Option String)
    | 0, _ => return none
    | left + 1, number => do
      match ← Work.put data none with
      | .ok reference =>
        Work.emit (offloadedEvent name data.length reference)
        return some reference
      | .error e =>
        Work.emit (storeFailedEvent name data.length number e)
        attempt left (number + 1)

/-- Adds a value to a field: the octets `data` are offloaded when they are long, and the
value goes in as `inline` when they are not kept in the store. -/
def addValue (ctx : Context) (name : String) (data : Bytes) (inline : FieldValue) (d : Document) :
    Work σ ω Document := do
  let d := d.touch name
  let v := match ← offload ctx.settings name data with
    | some r => FieldValue.reference r
    | none => inline
  return d.editLedger name (·.push v)

/-- Adds a text to a field, offloading its UTF-8 octets when they are long. -/
def addText (ctx : Context) (name : String) (data : String) (d : Document) : Work σ ω Document :=
  d.addValue ctx name (Utf8.encode data) (.text data)

/-- Adds octets to a field, offloading them when they are long. -/
def addBytes (ctx : Context) (name : String) (data : Bytes) (d : Document) : Work σ ω Document :=
  d.addValue ctx name data (.binary data)

/-- Adds a store reference to a field. -/
def addReference (name : String) (reference : String) (d : Document) : Document :=
  d.editLedger name (·.push (.reference reference))

/-- Empties a field. -/
def clearField (name : String) (d : Document) : Document := d.editLedger name Ledger.clear

/-- Undoes every edit of a field. -/
def resetField (name : String) (d : Document) : Document := d.editLedger name Ledger.reset

/-- The current values of a field. -/
def values (d : Document) (name : String) : List FieldValue := (d.ledger name).current (d.original name)

/-- The texts of a field's current values that read as text. -/
def strings (d : Document) (name : String) : List String := (d.ledger name).strings (d.original name)

/-- The octets of a value, read from the store when it is a reference. -/
def load (v : FieldValue) : Work σ ω (Except Error Bytes) :=
  match v.referenceStr? with
  | some r => Work.get r
  | none => return v.bytes

/-- Runs an edit on the subdocument at a path; `none` when the path leads nowhere. -/
def visit {m : Type → Type} [Monad m] {α : Type} (f : Document → m (Document × α)) :
    List Nat → Document → m (Option (Document × α))
  | [], d => some <$> f d
  | i :: rest, d =>
    match d.subdocuments[i]? with
    | none => return none
    | some s => do
      match ← visit f rest s with
      | none => return none
      | some (s, a) => return some ({ d with subdocuments := d.subdocuments.set i s }, a)

/-- The subdocument at a path. -/
def at? : List Nat → Document → Option Document
  | [], d => some d
  | i :: rest, d => d.subdocuments[i]?.bind (at? rest)

/-- An operation of processing code on one document. -/
inductive Op where
  | addText (name : String) (text : String)
  | addBytes (name : String) (data : Bytes)
  | addReference (name : String) (reference : String)
  | clear (name : String)
  | reset (name : String)
  /-- Reading a field's values, its texts or whether it has values; each touches the field. -/
  | read (name : String)
  | addFailure (id? message? : Option String)
  deriving Repr, Inhabited

/-- Runs an operation on a document. -/
def Op.run (ctx : Context) : Op → Document → Work σ ω Document
  | .addText name text, d => d.addText ctx name text
  | .addBytes name data, d => d.addBytes ctx name data
  | .addReference name reference, d => pure ((d.touch name).addReference name reference)
  | .clear name, d => pure (d.clearField name)
  | .reset name, d => pure (d.resetField name)
  | .read name, d => pure (d.touch name)
  | .addFailure id? message?, d => pure (d.addFailure id? message?)

/-- Runs an operation on the subdocument at a path; nothing happens when there is none. -/
def runAt (ctx : Context) (path : List Nat) (op : Op) (d : Document) : Work σ ω Document := do
  match ← visit (fun s => do return (← op.run ctx s, ())) path d with
  | some (d, ()) => return d
  | none => return d

/-- Runs operations in order, each on the subdocument at its path. -/
def runAll (ctx : Context) : List (List Nat × Op) → Document → Work σ ω Document
  | [], d => return d
  | (path, op) :: rest, d => do runAll ctx rest (← runAt ctx path op d)

end Document

end DocBatch
