import DocBatch.Error
import DocBatch.Json.Decoder
import DocBatch.Text.Base64

/-!
# Field values

A field value is one datum of a document field: a text, base64 octets, or a reference to a
value held in the value store. On the wire it is `{"data": …, "encoding": …}`, where the
encoding is left out for text; it may also be read from the array `[data, encoding]`.

`stringValue?` is the value as text when it is inline: a text as it is, base64 octets when
they decode and are UTF-8, never a reference. `bytes` gives the inline octets and refuses
references and base64 that does not decode.
-/

namespace DocBatch

/-- How the data of a field value is to be read. -/
inductive Encoding where
  | utf8
  | base64
  | storageRef
  deriving Repr, DecidableEq, Inhabited

/-- The name of an encoding on the wire. -/
def Encoding.name : Encoding → String
  | .utf8 => "utf8"
  | .base64 => "base64"
  | .storageRef => "storage_ref"

/-- One value of a document field. -/
structure FieldValue where
  data : String
  encoding : Encoding := .utf8
  deriving Repr, DecidableEq, Inhabited

namespace FieldValue

/-- A text value. -/
def text (s : String) : FieldValue := ⟨s, .utf8⟩

/-- A binary value: its octets in base64. -/
def binary (bs : Bytes) : FieldValue := ⟨Base64.encode bs, .base64⟩

/-- A reference into the value store. -/
def reference (r : String) : FieldValue := ⟨r, .storageRef⟩

/-- True for references. -/
def isReference (v : FieldValue) : Bool := v.encoding == .storageRef

/-- The store reference, for references only. -/
def referenceStr? (v : FieldValue) : Option String :=
  if v.isReference then some v.data else none

/-- The value as text, when it is inline and UTF-8. -/
def stringValue? (v : FieldValue) : Option String :=
  match v.encoding with
  | .utf8 => some v.data
  | .base64 =>
    match Base64.decode v.data with
    | .ok bs => Utf8.decode? bs
    | .error _ => none
  | .storageRef => none

theorem stringValue?_eq_none_of_isReference {v : FieldValue} (h : v.isReference = true) :
    v.stringValue? = none := by
  obtain ⟨data, encoding⟩ := v
  cases encoding <;> simp_all [isReference, stringValue?]

/-- The inline octets of the value. -/
def bytes (v : FieldValue) : Except Error Bytes :=
  match v.encoding with
  | .utf8 => .ok (Utf8.encode v.data)
  | .base64 =>
    match Base64.decode v.data with
    | .ok bs => .ok bs
    | .error e => .error (.other ("invalid base64 field value: " ++ e.message))
  | .storageRef => .error (.other ("field value is a store reference: " ++ v.data))

/-- The wire form of a value. -/
def toJson (v : FieldValue) : Json.Value :=
  match v.encoding with
  | .utf8 => .obj [("data", .str v.data)]
  | e => .obj [("data", .str v.data), ("encoding", .str e.name)]

/-- Reads an encoding by its wire name. -/
def encodingDecoder : Json.Decoder Encoding :=
  Json.Decoder.choice [("utf8", .utf8), ("base64", .base64), ("storage_ref", .storageRef)]

/-- Reads a value from its wire form. -/
def decoder : Json.Decoder FieldValue :=
  Json.Decoder.record "FieldValue"
    [{ key := "data", required := true, requiredInArray := true,
       isSet := fun (s : Option String × Option Encoding) => s.1.isSome,
       read := Json.Decoder.string.map fun d s => (some d, s.2) },
     { key := "encoding",
       isSet := fun (s : Option String × Option Encoding) => s.2.isSome,
       read := encodingDecoder.map fun e s => (s.1, some e) }]
    (none, none)
    fun s => ⟨s.1.getD "", s.2.getD .utf8⟩

end FieldValue

end DocBatch
