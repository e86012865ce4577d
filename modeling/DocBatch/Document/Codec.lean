import DocBatch.Document.Payload
import DocBatch.Document.Patch
import DocBatch.Settings

/-!
# Reading tasks and writing patches

A codec turns a task's data into the document it carries and a patch into the data of an
answer. The JSON codec reads the data as a JSON object (see `Payload.decoder`) and writes the
patch compactly (see `Patch.toJson`).

A context gathers what processing needs from its surroundings besides the value store: the
worker settings and the codec.
-/

namespace DocBatch

/-- Reads task data and writes patches. -/
structure Codec where
  decode : Bytes → Except Error Payload
  encode : Patch → Except Error Bytes

/-- The JSON codec. -/
def Codec.json : Codec where
  decode bs := (Payload.decoder.readBytes bs).mapError .codec
  encode p := .ok (Utf8.encode p.toJson.render)

/-- What processing needs besides the value store. -/
structure Context where
  settings : WorkerSettings := {}
  codec : Codec := Codec.json

/-- The context as a debugging view prints it. -/
def Context.describe (c : Context) : String :=
  "WorkerContext \x7b settings: " ++ c.settings.describe ++ ", .. \x7d"

end DocBatch
