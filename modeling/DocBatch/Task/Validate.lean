import DocBatch.Task.Basic
import DocBatch.Document.Codec
import DocBatch.Text.Quoted

/-!
# Which tasks are admitted

A task is admitted when it is classified for this worker, its format version is one this
worker reads, and its data decodes to a document. The checks run in a fixed order and the
first that fails decides the refusal:

1. another classifier: invalid;
2. a format newer than this worker's: rejected (a newer worker may take it);
3. format version 0: invalid;
4. no data: invalid;
5. data that does not decode: invalid, with the codec's error.

A refused task is answered on the spot with its refusal.
-/

namespace DocBatch

/-- Why a task is refused. -/
inductive Refusal where
  | invalid (reason : String)
  | rejected (reason : String)
  deriving Repr, DecidableEq, Inhabited

namespace Refusal

/-- The kind of refusal. -/
def kind : Refusal → String
  | .invalid _ => "invalid"
  | .rejected _ => "rejected"

/-- The reason given. -/
def reason : Refusal → String
  | .invalid r => r
  | .rejected r => r

/-- The answer that refuses the task. -/
def toResponse : Refusal → Response
  | .invalid r => .invalid r
  | .rejected r => .rejected r

end Refusal

/-- Checks a task and reads its document, or says why it is refused. -/
def Task.check (codec : Codec) (t : Task) : Except Refusal Payload :=
  if t.classifier ≠ taskClassifier then
    .error (.invalid ("task classifier " ++ Quoted.debug t.classifier ++ " is not " ++
      Quoted.debug taskClassifier))
  else if t.apiVersion > taskFormat then
    .error (.rejected ("task api version " ++ toString t.apiVersion ++
      " is newer than supported version " ++ toString taskFormat))
  else if t.apiVersion = 0 then
    .error (.invalid "task api version must be at least 1")
  else if t.data.isEmpty then
    .error (.invalid "task has no data")
  else
    match codec.decode t.data with
    | .ok p => .ok p
    | .error e => .error (.invalid ("task data cannot be decoded: " ++ e.message))

end DocBatch
