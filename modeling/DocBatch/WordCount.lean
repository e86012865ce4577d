import DocBatch.Engine.Processor
import DocBatch.Document.Edit
import DocBatch.Text.Words

/-!
# The word-count worker

The word-count worker counts the words of every value of a document's fields, the field
`WORD_COUNT` aside: a text value, a base64 value whose octets are UTF-8 text, and a value
kept in the value store (its octets read as UTF-8, invalid sequences replaced). It records
the failure `NO_TEXT` when it counts no word, replaces `WORD_COUNT` with the count, and then
counts each subdocument on its own the same way.

A value that cannot be read from the store fails the document, and so the whole batch.
-/

namespace DocBatch

namespace WordCount

variable {σ ω : Type} [ValueStore σ]

/-- The field the count goes to. -/
def field : String := "WORD_COUNT"

/-- The words of one value; `none` when a stored value cannot be read. -/
def valueWords (v : FieldValue) : Work σ ω (Except Error Nat) := do
  match v.stringValue? with
  | some text => return .ok (Words.count text)
  | none =>
    if v.isReference then
      match ← Document.load v with
      | .ok bs => return .ok (Words.count (Utf8.decodeLossy bs))
      | .error e => return .error e
    else return .ok 0

/-- The words of a list of values, stopping at the first that cannot be read. -/
def valuesWords : List FieldValue → Work σ ω (Except Error Nat)
  | [] => return .ok 0
  | v :: rest => do
    match ← valueWords v with
    | .error e => return .error e
    | .ok n =>
      match ← valuesWords rest with
      | .error e => return .error e
      | .ok m => return .ok (n + m)

/-- The words of the document's fields, `WORD_COUNT` aside. -/
def fieldsWords (d : Document) : List String → Work σ ω (Except Error Nat)
  | [] => return .ok 0
  | name :: rest => do
    if name == field then fieldsWords d rest
    else
      match ← valuesWords (d.values name) with
      | .error e => return .error e
      | .ok n =>
        match ← fieldsWords d rest with
        | .error e => return .error e
        | .ok m => return .ok (n + m)

mutual
/-- Counts a document and then its subdocuments: the document with the counts made, and
whether counting failed. A failure leaves the counts made before it in place. -/
def countDocument (ctx : Context) : Document → Work σ ω (Document × Except TransientError Unit)
  | ⟨r, fs, cd, ls, fl, subs⟩ => do
    let d : Document := ⟨r, fs, cd, ls, fl, subs⟩
    match ← fieldsWords d d.fieldNames with
    | .error e => return (d, .error (TransientError.ofError e))
    | .ok words =>
      let d := if words = 0 then d.addFailure (some "NO_TEXT") (some "document has no text to count") else d
      let d ← (d.clearField field).addText ctx field (toString words)
      let (subs, res) ← countSubdocuments ctx subs
      return ({ d with subdocuments := subs }, res)

/-- Counts each of a list of subdocuments in turn, stopping at the first failure; the later
ones stay as they were. -/
def countSubdocuments (ctx : Context) : List Document → Work σ ω (List Document × Except TransientError Unit)
  | [] => return ([], .ok ())
  | s :: rest => do
    let (s, res) ← countDocument ctx s
    match res with
    | .error e => return (s :: rest, .error e)
    | .ok () =>
      let (rest, res) ← countSubdocuments ctx rest
      return (s :: rest, res)
end

end WordCount

/-- The word-count worker. -/
def wordCountWorker {σ ω : Type} [ValueStore σ] (ctx : Context) : Worker σ ω where
  process := WordCount.countDocument ctx

end DocBatch
