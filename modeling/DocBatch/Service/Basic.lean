import DocBatch.Json.Parse
import DocBatch.Error
import DocBatch.Text.Base64

/-!
# Requests and replies of the JSON service

The service runs one capability of the library per request: a JSON object naming an
operation and its inputs. The reply is `{"ok": result}`, or an error object
`{"error": kind, "message": text}`. The kind of an error of the library is the family of
its cause (`Config`, `Codec`, `NotFound`, …); a request the service cannot read is
`BadInput`, a path to no subdocument `BadPath`, an index to no value `BadIndex`.

Octets travel in requests either as text (read as UTF-8) or as base64, and in replies as
`{"b64": base64, "utf8": text or null}`.
-/

namespace DocBatch

namespace Service

open Json

/-- A reply: a result, or an error object. -/
abbrev Reply := Except Value Value

/-- An error object. -/
def errorObject (kind message : String) : Value :=
  .obj [("error", .str kind), ("message", .str message)]

/-- The family name of an error's cause. -/
def Error.kind : Error → String
  | .config _ => "Config"
  | .database _ => "Database"
  | .io _ => "Io"
  | .codec _ => "Codec"
  | .envelope _ => "Envelope"
  | .store _ => "Store"
  | .notFound _ => "NotFound"
  | .other _ => "Other"

/-- The error object of an error of the library. -/
def ofError (e : Error) : Value := errorObject (Error.kind e) e.message

/-- A request the service cannot read. -/
def badInput {α : Type} (message : String) : Except Value α := .error (errorObject "BadInput" message)

/-- Lifts a result of the library, its error turned into an error object. -/
def lift {α : Type} (r : Except Error α) : Except Value α := r.mapError ofError

/-- A result of the library as a reply value: the value, or its error object in place. -/
def inPlace {α : Type} (f : α → Value) : Except Error α → Value
  | .ok a => f a
  | .error e => ofError e

/-- The member of a request, absent or `null` alike. -/
def member? (r : Value) (key : String) : Option Value :=
  match r.field? key with
  | some .null => none
  | v => v

/-- A text member. -/
def text? (r : Value) (key : String) : Except Value (Option String) :=
  match member? r key with
  | none => .ok none
  | some (.str s) => .ok (some s)
  | some _ => badInput (key ++ " must be a string")

/-- A text member with a default. -/
def textOr (r : Value) (key : String) (d : String) : Except Value String :=
  return (← text? r key).getD d

/-- An integer member within bounds. -/
def int? (r : Value) (key : String) (lo hi : Int) : Except Value (Option Int) :=
  match member? r key with
  | none => .ok none
  | some (.num (.int i)) =>
    if lo ≤ i && i ≤ hi then .ok (some i) else badInput (key ++ " is out of range")
  | some _ => badInput (key ++ " must be an integer")

/-- A natural-number member below a bound. -/
def nat? (r : Value) (key : String) (hi : Nat) : Except Value (Option Nat) :=
  match member? r key with
  | none => .ok none
  | some (.num (.int i)) =>
    if 0 ≤ i && i ≤ hi then .ok (some i.toNat)
    else badInput (key ++ " must be a non-negative integer")
  | some _ => badInput (key ++ " must be a non-negative integer")

/-- A natural-number member with a default. -/
def natOr (r : Value) (key : String) (hi : Nat) (d : Nat) : Except Value Nat :=
  return (← nat? r key hi).getD d

/-- A boolean member, false when absent. -/
def flag (r : Value) (key : String) : Except Value Bool :=
  match member? r key with
  | none => .ok false
  | some (.bool b) => .ok b
  | some _ => badInput (key ++ " must be a boolean")

/-- An array member, empty when absent. -/
def items (r : Value) (key : String) : Except Value (List Value) :=
  match member? r key with
  | none => .ok []
  | some (.arr xs) => .ok xs
  | some _ => badInput (key ++ " must be an array")

/-- An object member, empty when absent. -/
def entries (r : Value) (key : String) : Except Value (List (String × Value)) :=
  match member? r key with
  | none => .ok []
  | some (.obj ms) => .ok ms
  | some _ => badInput (key ++ " must be an object")

/-- Octets given as text under `textKey` or as base64 under `b64Key`. -/
def octets? (r : Value) (textKey b64Key : String) : Except Value (Option Bytes) := do
  match ← text? r textKey with
  | some s => return some (Utf8.encode s)
  | none =>
    match ← text? r b64Key with
    | some s =>
      match Base64.decode s with
      | .ok bs => return some bs
      | .error e => badInput (b64Key ++ " is not base64: " ++ e.message)
    | none => return none

/-- Octets under `data` or `data_b64`, empty when absent. -/
def data (r : Value) : Except Value Bytes := return (← octets? r "data" "data_b64").getD []

/-- Octets as a reply shows them. -/
def ofBytes (bs : Bytes) : Value :=
  .obj [("b64", .str (Base64.encode bs)), ("utf8", Value.ofOption (Utf8.decode? bs))]

/-- Texts as a reply shows them. -/
def ofStrings (xs : List String) : Value := .arr (xs.map Value.str)

/-- Runs each of a list of steps, an error of one written in its place. -/
def eachStep {σ : Type} (step : σ → Value → Except Value Value × σ) : List Value → σ → List Value × σ
  | [], s => ([], s)
  | x :: rest, s =>
    let (r, s) := step s x
    let (rs, s) := eachStep step rest s
    ((match r with | .ok v => v | .error e => e) :: rs, s)

end Service

end DocBatch
