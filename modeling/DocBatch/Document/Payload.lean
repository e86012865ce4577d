import DocBatch.Field.Value

/-!
# Documents as tasks carry them

A task's data is a JSON object with the document's fields (each a list of values), its
custom data (names to texts) and its subdocuments, each of which has an optional reference,
fields and subdocuments of its own. Every part may be left out and is then empty; when a
name is given twice, the last one counts.

Writing puts the members in the order `fields`, `customData`, `subdocuments` (left out when
there are none); a subdocument writes `reference` (left out when absent), `fields`,
`subdocuments`.
-/

namespace DocBatch

/-- Fields by name, each with its list of values, sorted by name. -/
abbrev FieldMap := List (String × List FieldValue)

/-- A nested document as a task carries it. -/
inductive SubPayload where
  | mk (reference : Option String) (fields : FieldMap) (subdocuments : List SubPayload)
  deriving Repr, Inhabited

namespace SubPayload

/-- The reference of a subdocument. -/
def reference : SubPayload → Option String
  | mk r _ _ => r

/-- The fields of a subdocument. -/
def fields : SubPayload → FieldMap
  | mk _ fs _ => fs

/-- The subdocuments of a subdocument. -/
def subdocuments : SubPayload → List SubPayload
  | mk _ _ ss => ss

end SubPayload

/-- The document a task carries. -/
structure Payload where
  fields : FieldMap := []
  customData : List (String × String) := []
  subdocuments : List SubPayload := []
  deriving Repr, Inhabited

/-- The wire form of a field map. -/
def FieldMap.toJson (fs : FieldMap) : Json.Value :=
  .obj (fs.map fun (k, vs) => (k, .arr (vs.map FieldValue.toJson)))

/-- Reads a field map. -/
def FieldMap.decoder : Json.Decoder FieldMap :=
  Json.Decoder.dict (Json.Decoder.list FieldValue.decoder)

mutual
/-- The wire form of a subdocument. -/
def SubPayload.toJson : SubPayload → Json.Value
  | .mk r fs ss =>
    let head := match r with
      | some r => [("reference", Json.Value.str r)]
      | none => []
    let tail := if ss.isEmpty then [] else [("subdocuments", Json.Value.arr (SubPayload.listJson ss))]
    .obj (head ++ [("fields", fs.toJson)] ++ tail)

/-- The wire forms of a list of subdocuments. -/
def SubPayload.listJson : List SubPayload → List Json.Value
  | [] => []
  | s :: rest => s.toJson :: SubPayload.listJson rest
end

/-- The wire form of a task's document. -/
def Payload.toJson (p : Payload) : Json.Value :=
  let tail := if p.subdocuments.isEmpty then []
    else [("subdocuments", Json.Value.arr (SubPayload.listJson p.subdocuments))]
  .obj ([("fields", p.fields.toJson),
    ("customData", .obj (p.customData.map fun (k, v) => (k, .str v)))] ++ tail)

/-- Reads a subdocument; `fuel` bounds the nesting, which the reader's own depth limit
keeps below it. -/
def SubPayload.decoder : Nat → Json.Decoder SubPayload
  | 0 => Json.Decoder.exhausted "struct SubdocumentPayload"
  | fuel + 1 =>
    Json.Decoder.record "SubdocumentPayload"
      [{ key := "reference",
         isSet := fun (s : Option (Option String) × Option FieldMap × Option (List SubPayload)) =>
           s.1.isSome,
         read := (Json.Decoder.optional Json.Decoder.string).map fun r s => (some r, s.2) },
       { key := "fields",
         isSet := fun s => s.2.1.isSome,
         read := FieldMap.decoder.map fun fs s => (s.1, some fs, s.2.2) },
       { key := "subdocuments",
         isSet := fun s => s.2.2.isSome,
         read := (Json.Decoder.list (SubPayload.decoder fuel)).map fun ss s => (s.1, s.2.1, some ss) }]
      (none, none, none)
      fun s => .mk (s.1.getD none) (s.2.1.getD []) (s.2.2.getD [])

/-- Reads a task's document. -/
def Payload.decoder : Json.Decoder Payload :=
  Json.Decoder.record "TaskPayload"
    [{ key := "fields",
       isSet := fun (s : Option FieldMap × Option (List (String × String)) × Option (List SubPayload)) =>
         s.1.isSome,
       read := FieldMap.decoder.map fun fs s => (some fs, s.2) },
     { key := "customData",
       isSet := fun s => s.2.1.isSome,
       read := (Json.Decoder.dict Json.Decoder.string).map fun cd s => (s.1, some cd, s.2.2) },
     { key := "subdocuments",
       isSet := fun s => s.2.2.isSome,
       read := (Json.Decoder.list (SubPayload.decoder Json.Cursor.depthLimit)).map
         fun ss s => (s.1, s.2.1, some ss) }]
    (none, none, none)
    fun s => { fields := s.1.getD [], customData := s.2.1.getD [], subdocuments := s.2.2.getD [] }

end DocBatch
