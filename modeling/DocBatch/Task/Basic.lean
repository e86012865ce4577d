import DocBatch.Error
import DocBatch.Text.Utf8

/-!
# Tasks and answers

A task is one unit of work from a task source: an identifier, an optional correlation
identifier to echo back, a classifier naming the kind of work, the version of the task
format, and the data. This worker takes tasks classified `DocumentWorker` of format
version 1.

Every task gets one answer: a success with the encoded patch, a rejection (the task may be
tried again later) or an invalidity (it never can be), each of the latter two with a reason.
-/

namespace DocBatch

/-- The classifier of the tasks this worker takes. -/
def taskClassifier : String := "DocumentWorker"

/-- The newest task format this worker reads. -/
def taskFormat : Nat := 1

/-- A unit of work. -/
structure Task where
  id : Int
  correlationId : Option String := none
  classifier : String := taskClassifier
  apiVersion : Nat := taskFormat
  data : Bytes := []
  deriving Repr, DecidableEq, Inhabited

/-- The answer to a task. -/
inductive Response where
  | success (data : Bytes)
  | rejected (reason : String)
  | invalid (reason : String)
  deriving Repr, DecidableEq, Inhabited

/-- The kind of an answer, as logs and queues name it. -/
def Response.kind : Response → String
  | .success _ => "success"
  | .rejected _ => "rejected"
  | .invalid _ => "invalid"

/-- True for successes. -/
def Response.isSuccess : Response → Bool
  | .success _ => true
  | _ => false

/-- A failure of processing that may pass: the whole batch is answered as rejected. -/
structure TransientError where
  message : String
  cause : Option Error := none
  deriving Repr, Inhabited

/-- The text of a transient failure. -/
def TransientError.display (e : TransientError) : String :=
  "transient processing failure: " ++ e.message

/-- A transient failure caused by an error, with the error's text as its message. -/
def TransientError.ofError (e : Error) : TransientError := ⟨e.message, some e⟩

end DocBatch
