import DocBatch.Field.Value

/-!
# What processing changed in a document

A patch reports, for one document, the net change of each field that changed (sorted by
field name), the failures recorded on it, and a patch for each subdocument that has
something to report, addressed by its position in its parent.

A field's change either adds values to those the document had or replaces them all. A
failure has an optional identifier and an optional message.

Written, a patch leaves out every empty part: `fieldChanges`, `failures`, `subdocuments`
in that order, each only when not empty; a subdocument's patch writes `index` and
`reference` (when present) first. A change writes `action` then `values`; a failure
`failureId` then `failureMessage`, each only when present.
-/

namespace DocBatch

/-- How a field's new values relate to its old ones. -/
inductive Action where
  /-- The new values follow the old ones. -/
  | add
  /-- The new values take the place of the old ones. -/
  | replace
  deriving Repr, DecidableEq, Inhabited

/-- The name of an action on the wire. -/
def Action.name : Action → String
  | .add => "add"
  | .replace => "replace"

/-- Reads an action by its name. -/
def Action.decoder : Json.Decoder Action :=
  Json.Decoder.choice [("add", .add), ("replace", .replace)]

/-- A failure recorded on a document. -/
structure Failure where
  id? : Option String := none
  message? : Option String := none
  deriving Repr, DecidableEq, Inhabited

/-- The wire form of a failure. -/
def Failure.toJson (f : Failure) : Json.Value :=
  .obj ((f.id?.map fun i => [("failureId", Json.Value.str i)]).getD [] ++
    (f.message?.map fun m => [("failureMessage", Json.Value.str m)]).getD [])

/-- Reads a failure. -/
def Failure.decoder : Json.Decoder Failure :=
  Json.Decoder.record "Failure"
    [{ key := "failureId",
       isSet := fun (s : Option (Option String) × Option (Option String)) => s.1.isSome,
       read := (Json.Decoder.optional Json.Decoder.string).map fun i s => (some i, s.2) },
     { key := "failureMessage",
       isSet := fun s => s.2.isSome,
       read := (Json.Decoder.optional Json.Decoder.string).map fun m s => (s.1, some m) }]
    (none, none)
    fun s => ⟨s.1.getD none, s.2.getD none⟩

/-- The net change of one field. -/
structure Change where
  action : Action
  values : List FieldValue
  deriving Repr, DecidableEq, Inhabited

/-- The wire form of a change. -/
def Change.toJson (c : Change) : Json.Value :=
  .obj [("action", .str c.action.name), ("values", .arr (c.values.map FieldValue.toJson))]

/-- Reads a change. -/
def Change.decoder : Json.Decoder Change :=
  Json.Decoder.record "FieldChanges"
    [{ key := "action", required := true, requiredInArray := true,
       isSet := fun (s : Option Action × Option (List FieldValue)) => s.1.isSome,
       read := Action.decoder.map fun a s => (some a, s.2) },
     { key := "values", required := true, requiredInArray := true,
       isSet := fun s => s.2.isSome,
       read := (Json.Decoder.list FieldValue.decoder).map fun vs s => (s.1, some vs) }]
    (none, none)
    fun s => ⟨s.1.getD .add, s.2.getD []⟩

/-- Changes by field name, sorted by name. -/
abbrev ChangeMap := List (String × Change)

/-- The wire form of a change map. -/
def ChangeMap.toJson (cs : ChangeMap) : Json.Value :=
  .obj (cs.map fun (k, c) => (k, c.toJson))

/-- The patch of a subdocument, at its position in its parent. -/
inductive SubPatch where
  | mk (index : Nat) (reference : Option String) (changes : ChangeMap) (failures : List Failure)
    (subdocuments : List SubPatch)
  deriving Repr, Inhabited

/-- What processing changed in a document. -/
structure Patch where
  changes : ChangeMap := []
  failures : List Failure := []
  subdocuments : List SubPatch := []
  deriving Repr, Inhabited

/-- True when a patch reports nothing. -/
def Patch.isEmpty (p : Patch) : Bool :=
  p.changes.isEmpty && p.failures.isEmpty && p.subdocuments.isEmpty

namespace SubPatch

/-- The position of the subdocument a patch is for. -/
def index : SubPatch → Nat
  | mk i _ _ _ _ => i

/-- The reference of the subdocument a patch is for. -/
def reference : SubPatch → Option String
  | mk _ r _ _ _ => r

/-- What a subdocument's patch reports, as a patch of its own. -/
def toPatch : SubPatch → Patch
  | mk _ _ cs fs ss => { changes := cs, failures := fs, subdocuments := ss }

end SubPatch

namespace Patch

/-- The change a patch reports for a field. -/
def change? (p : Patch) (name : String) : Option Change :=
  (p.changes.find? (·.1 == name)).map (·.2)

/-- What a patch reports for the subdocument at a position: nothing when it has no entry. -/
def sub (p : Patch) (i : Nat) : Patch :=
  ((p.subdocuments.find? (·.index == i)).map SubPatch.toPatch).getD {}

/-- What a patch reports for the subdocument at a path of positions. -/
def atPath : Patch → List Nat → Patch
  | p, [] => p
  | p, i :: rest => (p.sub i).atPath rest

end Patch

/-- The values of a field after a change: the new values after the old ones for an addition,
the new ones alone for a replacement, the old ones when there is no change. -/
def Change.applyTo : Option Change → List FieldValue → List FieldValue
  | none, old => old
  | some ⟨.add, new⟩, old => old ++ new
  | some ⟨.replace, new⟩, _ => new

/-- The members that report changes, failures and subdocuments, each only when not empty. -/
def reportMembers (changes : ChangeMap) (failures : List Failure) (subs : List Json.Value) :
    List (String × Json.Value) :=
  (if changes.isEmpty then [] else [("fieldChanges", changes.toJson)]) ++
  (if failures.isEmpty then [] else [("failures", .arr (failures.map Failure.toJson))]) ++
  (if subs.isEmpty then [] else [("subdocuments", .arr subs)])

mutual
/-- The wire form of a subdocument's patch. -/
def SubPatch.toJson : SubPatch → Json.Value
  | .mk i r cs fs ss =>
    .obj ([("index", Json.Value.ofNat i)] ++ (r.map fun r => [("reference", Json.Value.str r)]).getD [] ++
      reportMembers cs fs (SubPatch.listJson ss))

/-- The wire forms of a list of subdocument patches. -/
def SubPatch.listJson : List SubPatch → List Json.Value
  | [] => []
  | s :: rest => s.toJson :: SubPatch.listJson rest
end

/-- The wire form of a patch. -/
def Patch.toJson (p : Patch) : Json.Value :=
  .obj (reportMembers p.changes p.failures (SubPatch.listJson p.subdocuments))

/-- Reads a change map. -/
def ChangeMap.decoder : Json.Decoder ChangeMap := Json.Decoder.dict Change.decoder

/-- Reads a subdocument's patch; `fuel` bounds the nesting. -/
def SubPatch.decoder : Nat → Json.Decoder SubPatch
  | 0 => Json.Decoder.exhausted "struct SubdocumentResult"
  | fuel + 1 =>
    Json.Decoder.record "SubdocumentResult"
      [{ key := "index", required := true, requiredInArray := true,
         isSet := fun (s : Option Nat × Option (Option String) × Option ChangeMap ×
             Option (List Failure) × Option (List SubPatch)) => s.1.isSome,
         read := Json.Decoder.usize.map fun i s => (some i, s.2) },
       { key := "reference",
         isSet := fun s => s.2.1.isSome,
         read := (Json.Decoder.optional Json.Decoder.string).map fun r s => (s.1, some r, s.2.2) },
       { key := "fieldChanges",
         isSet := fun s => s.2.2.1.isSome,
         read := ChangeMap.decoder.map fun cs s => (s.1, s.2.1, some cs, s.2.2.2) },
       { key := "failures",
         isSet := fun s => s.2.2.2.1.isSome,
         read := (Json.Decoder.list Failure.decoder).map
           fun fs s => (s.1, s.2.1, s.2.2.1, some fs, s.2.2.2.2) },
       { key := "subdocuments",
         isSet := fun s => s.2.2.2.2.isSome,
         read := (Json.Decoder.list (SubPatch.decoder fuel)).map
           fun ss s => (s.1, s.2.1, s.2.2.1, s.2.2.2.1, some ss) }]
      (none, none, none, none, none)
      fun s => .mk (s.1.getD 0) (s.2.1.getD none) (s.2.2.1.getD []) (s.2.2.2.1.getD [])
        (s.2.2.2.2.getD [])

/-- Reads a patch. -/
def Patch.decoder : Json.Decoder Patch :=
  Json.Decoder.record "ResultPayload"
    [{ key := "fieldChanges",
       isSet := fun (s : Option ChangeMap × Option (List Failure) × Option (List SubPatch)) =>
         s.1.isSome,
       read := ChangeMap.decoder.map fun cs s => (some cs, s.2) },
     { key := "failures",
       isSet := fun s => s.2.1.isSome,
       read := (Json.Decoder.list Failure.decoder).map fun fs s => (s.1, some fs, s.2.2) },
     { key := "subdocuments",
       isSet := fun s => s.2.2.isSome,
       read := (Json.Decoder.list (SubPatch.decoder Json.Cursor.depthLimit)).map
         fun ss s => (s.1, s.2.1, some ss) }]
    (none, none, none)
    fun s => { changes := s.1.getD [], failures := s.2.1.getD [], subdocuments := s.2.2.getD [] }

end DocBatch
