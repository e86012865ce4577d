import DocBatch.Document.Payload
import DocBatch.Field.Ledger

/-!
# Documents

A document is what processing sees of one task: the fields it arrived with (never edited),
its custom data, a ledger of edits per field, the failures recorded on it and its
subdocuments. A subdocument has a reference of its own and no custom data.

Touching a field gives it a ledger with no edits; that is no change. `changes` lists the
fields whose ledgers change them, by name, and `toPatch` reports the changes, the failures,
and the patch of each subdocument that has something to report, at its position.
-/

namespace DocBatch

/-- A document being processed. -/
structure Document where
  reference : Option String := none
  fields : FieldMap := []
  customData : List (String × String) := []
  ledgers : List (String × Ledger) := []
  failures : List Failure := []
  subdocuments : List Document := []
  deriving Inhabited

namespace Document

/-- The document of a subdocument as a task carries it. -/
def ofSub : SubPayload → Document
  | .mk r fs ss => { reference := r, fields := fs, subdocuments := ofSubs ss }
where
  /-- The documents of a list of subdocuments. -/
  ofSubs : List SubPayload → List Document
    | [] => []
    | s :: rest => ofSub s :: ofSubs rest

/-- The document a task carries. -/
def ofPayload (p : Payload) : Document :=
  { fields := p.fields, customData := p.customData, subdocuments := ofSub.ofSubs p.subdocuments }

/-- The values a field arrived with; none for a field the document does not have. -/
def original (d : Document) (name : String) : List FieldValue :=
  ((d.fields.find? (·.1 == name)).map (·.2)).getD []

/-- The ledger of a field; an untouched field has an empty one. -/
def ledger (d : Document) (name : String) : Ledger :=
  ((d.ledgers.find? (·.1 == name)).map (·.2)).getD {}

/-- Sets the ledger of a field, keeping the ledgers sorted by name. -/
def setLedger (d : Document) (name : String) (l : Ledger) : Document :=
  { d with ledgers := Json.insertSorted name l d.ledgers }

/-- Touches a field: gives it a ledger if it has none. -/
def touch (d : Document) (name : String) : Document :=
  d.setLedger name (d.ledger name)

/-- Applies an edit to a field's ledger. -/
def editLedger (d : Document) (name : String) (f : Ledger → Ledger) : Document :=
  d.setLedger name (f (d.ledger name))

/-- The names of the fields the document arrived with, sorted. -/
def fieldNames (d : Document) : List String :=
  (d.fields.map (·.1)).mergeSort (fun a b => decide (a ≤ b))

/-- A custom data entry. -/
def customData? (d : Document) (key : String) : Option String :=
  (d.customData.find? (·.1 == key)).map (·.2)

/-- Records a failure, unless it has neither identifier nor message. -/
def addFailure (d : Document) (id? message? : Option String) : Document :=
  if id?.isNone && message?.isNone then d
  else { d with failures := d.failures ++ [⟨id?, message?⟩] }

/-- True when a field of this document (its subdocuments apart) is changed. -/
def hasChanges (d : Document) : Bool := d.ledgers.any (·.2.hasChanges)

/-- The net change of each changed field among ledgers, by name. -/
def changesOf (ledgers : List (String × Ledger)) : ChangeMap :=
  ledgers.filterMap fun (k, l) => l.toChange?.map fun c => (k, c)

/-- The net change of each changed field, by name. -/
def changes (d : Document) : ChangeMap := changesOf d.ledgers

/-- The patches of the subdocuments that have something to report, at their positions. -/
def subPatches : List Document → Nat → List SubPatch
  | [], _ => []
  | ⟨r, _, _, ls, fl, subs⟩ :: rest, i =>
    let nested := subPatches subs 0
    let cs := changesOf ls
    let tail := subPatches rest (i + 1)
    if cs.isEmpty && fl.isEmpty && nested.isEmpty then tail
    else .mk i r cs fl nested :: tail

/-- What processing changed in the document. -/
def toPatch (d : Document) : Patch :=
  { changes := d.changes, failures := d.failures, subdocuments := subPatches d.subdocuments 0 }

/-- A short description: reference, and counts of fields, changed fields, failures and
subdocuments. -/
def describe (d : Document) : String :=
  let reference := match d.reference with
    | some r => "Some(" ++ Quoted.debug r ++ ")"
    | none => "None"
  "Document \x7b reference: " ++ reference ++ ", fields: " ++ toString d.fields.length ++
    ", changed: " ++ toString d.changes.length ++ ", failures: " ++ toString d.failures.length ++
    ", subdocuments: " ++ toString d.subdocuments.length ++ " \x7d"

end Document

end DocBatch
