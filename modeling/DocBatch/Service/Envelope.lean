import DocBatch.Queue.Envelope
import DocBatch.Service.Basic

/-!
# Requests on queue envelopes

`envelope` reads a task envelope (`message`) and a response envelope (`response`) from JSON
values and writes them back, and wraps a document's data in a task envelope (`document`).
Each part is answered on its own: a part that cannot be read is answered with its error.
-/

namespace DocBatch

namespace Service

open Json Queue

/-- A task envelope read from a value: written back, with its data decoded. -/
def taskEnvelopeInfo (v : Value) : Value :=
  match TaskEnvelope.decoder.readValue v with
  | .error f => ofError (.codec f)
  | .ok e =>
    let data := match e.data.map Base64.decode with
      | none => Value.null
      | some (.ok bs) => ofBytes bs
      | some (.error f) => errorObject "Base64" f.message
    .obj [("reencoded", .str e.toJson.render), ("data", data)]

/-- A response envelope read from a value, written back. -/
def responseEnvelopeInfo (v : Value) : Value :=
  match ResponseEnvelope.decoder.readValue v with
  | .error f => ofError (.codec f)
  | .ok e => .obj [("reencoded", .str e.toJson.render)]

/-- `envelope`: envelopes read and written. -/
def envelope (r : Value) : Reply := do
  let task := ((r.field? "message").map fun v => [("task", taskEnvelopeInfo v)]).getD []
  let response := ((r.field? "response").map fun v => [("response", responseEnvelopeInfo v)]).getD []
  let document ← match r.field? "document" with
    | some d => do
      let e := TaskEnvelope.document (← text? d "task_id") (← data d)
      pure [("document", Value.str e.toJson.render)]
    | none => pure []
  return .obj (task ++ response ++ document)

end Service

end DocBatch
