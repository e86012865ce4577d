import DocBatch.Settings
import DocBatch.Toml.Report

/-!
# The settings file

A settings file is a TOML document whose `worker` and `queue` tables give worker and queue
settings; whatever it leaves out keeps its default, and keys it does not know are ignored.
A table may also be given as an array, whose items are its fields in order.

A value of the wrong kind, or an integer out of its field's range, is a fault at that value
(or, for a table that has no place of its own, at its key). Kinds are named as in every
message of a wrong kind: `string "x"`, `integer `5``, `floating point `1.5``,
`boolean `true``, `sequence` for arrays, `map` for tables and dates.
-/

namespace DocBatch

namespace Toml

/-- A float as messages show it: its shortest digits in positional notation, never with an
exponent, and with `.0` added when no point shows. -/
def Real.text : Real → String
  | .finite x => let s := x.plain; if s.contains '.' then s else s ++ ".0"
  | .infinite false => "inf"
  | .infinite true => "-inf"
  | .nan => "NaN"

/-- What an item is, as messages of a wrong kind name it. -/
def Item.found : Item → String
  | .value (.string s _) => "string " ++ Quoted.debug s
  | .value (.integer i _) => "integer `" ++ toString i ++ "`"
  | .value (.float x _) => "floating point `" ++ x.text ++ "`"
  | .value (.boolean b _) => "boolean `" ++ toString b ++ "`"
  | .value (.array ..) => "sequence"
  | .tables _ => "sequence"
  | _ => "map"

/-- Where an item was written. -/
def Item.span? : Item → Option Span
  | .value v => v.span?
  | .table o _ => o.span
  | .tables ts =>
    match (ts.head?.bind (·.1.span)), (ts.getLast?.bind (·.1.span)) with
    | some a, some b => some ⟨a.start, b.stop⟩
    | _, _ => none

/-- Reads an unsigned integer of at most `hi`; `ty` names the type in messages. -/
def natOf (ty : String) (hi : Nat) : Item → Except String Nat
  | .value (.integer i _) =>
    if 0 ≤ i && i ≤ hi then .ok i.toNat
    else .error ("invalid value: integer `" ++ toString i ++ "`, expected " ++ ty)
  | item => .error ("invalid type: " ++ item.found ++ ", expected " ++ ty)

/-- Reads a signed 32-bit integer. -/
def i32Of : Item → Except String Int
  | .value (.integer i _) =>
    if -(Int.pow 2 31) ≤ i && i < Int.pow 2 31 then .ok i
    else .error ("invalid value: integer `" ++ toString i ++ "`, expected i32")
  | item => .error ("invalid type: " ++ item.found ++ ", expected i32")

/-- Reads a string. -/
def stringOf : Item → Except String String
  | .value (.string s _) => .ok s
  | item => .error ("invalid type: " ++ item.found ++ ", expected a string")

/-- A field of a settings record: its key and how it sets the record from an item. -/
structure Field (σ : Type) where
  key : String
  set : Item → σ → Except String σ

/-- The fault of a message about an item, at the first place known. -/
def faultAt (places : List (Option Span)) (message : String) : Fault :=
  { mark := (places.findSome? id).map Mark.stretch, message := message }

/-- Sets a record from a table's entries in order; keys that are no field are ignored. A
fault is at the item, or at its key when the item has no place. -/
def fromEntries {σ : Type} (fields : List (Field σ)) : σ → List (Key × Item) → Except Fault σ
  | s, [] => .ok s
  | s, (k, item) :: rest =>
    match fields.find? (·.key == k.name) with
    | none => fromEntries fields s rest
    | some f =>
      match f.set item s with
      | .ok s => fromEntries fields s rest
      | .error m => .error (faultAt [item.span?, some k.span] m)

/-- Sets a record from the items of an array, one per field in order. A fault is at the
item, or at `outer` (the array, then its key) when the item has no place. -/
def fromItems {σ : Type} (outer : List (Option Span)) : List (Field σ) → σ → List Item → Except Fault σ
  | [], s, _ => .ok s
  | _, s, [] => .ok s
  | f :: fs, s, item :: items =>
    match f.set item s with
    | .ok s => fromItems outer fs s items
    | .error m => .error (faultAt ([item.span?] ++ outer) m)

/-- Reads a settings record named `name` from what a key holds, starting from `init`. -/
def record {σ : Type} (name : String) (fields : List (Field σ)) (init : σ) (k : Key) (item : Item) :
    Except Fault σ :=
  let outer := [item.span?, some k.span]
  match item with
  | .table _ es => fromEntries fields init es
  | .value (.inline es _ _) => fromEntries fields init (es.map fun (k, v) => (k, .value v))
  | .value (.array vs _) => fromItems outer fields init (vs.map .value)
  | .tables ts => fromItems outer fields init (ts.map fun (o, es) => .table o es)
  | .value (.datetime ..) => .ok init
  | other => .error (faultAt outer ("invalid type: " ++ other.found ++ ", expected struct " ++ name))

/-- The fields of worker settings. -/
def workerFields : List (Field WorkerSettings) :=
  [⟨"max_batch_size", fun i s => return { s with maxBatchSize := ← natOf "usize" (Nat.pow 2 64 - 1) i }⟩,
   ⟨"max_batch_time_ms", fun i s => return { s with maxBatchTimeMs := ← natOf "u64" (Nat.pow 2 64 - 1) i }⟩,
   ⟨"inline_threshold", fun i s => return { s with inlineThreshold := ← natOf "usize" (Nat.pow 2 64 - 1) i }⟩,
   ⟨"store_retries", fun i s => return { s with storeRetries := ← natOf "u32" (Nat.pow 2 32 - 1) i }⟩]

/-- The fields of queue settings. -/
def queueFields : List (Field QueueSettings) :=
  [⟨"input_queue", fun i s => return { s with inputQueue := ← stringOf i }⟩,
   ⟨"output_queue", fun i s => return { s with outputQueue := ← stringOf i }⟩,
   ⟨"visibility_timeout", fun i s => return { s with visibilityTimeout := ← i32Of i }⟩,
   ⟨"poll_interval_ms", fun i s => return { s with pollIntervalMs := ← natOf "u64" (Nat.pow 2 64 - 1) i }⟩,
   ⟨"redelivery_delay_secs", fun i s => return { s with redeliveryDelaySecs := ← i32Of i }⟩]

end Toml

/-- The settings a settings file gives. -/
structure SettingsFile where
  worker : WorkerSettings := {}
  queue : QueueSettings := {}
  deriving Repr, Inhabited

namespace SettingsFile

open Toml

/-- Reads the settings of a document's root table, in the order of its keys. -/
def ofEntries : SettingsFile → List (Key × Item) → Except Fault SettingsFile
  | s, [] => .ok s
  | s, (k, item) :: rest =>
    if k.name == "worker" then do
      let w ← record "WorkerSettings" workerFields {} k item
      ofEntries { s with worker := w } rest
    else if k.name == "queue" then do
      let q ← record "QueueSettings" queueFields {} k item
      ofEntries { s with queue := q } rest
    else ofEntries s rest

/-- Reads a settings file from its text; a fault is shown against the text. -/
def parse (text : String) : Except String SettingsFile :=
  match Toml.parse text with
  | .error s => .error (s.toFault.render text)
  | .ok root =>
    match ofEntries {} root with
    | .ok s => .ok s
    | .error f => .error (f.render text)

end SettingsFile

end DocBatch
