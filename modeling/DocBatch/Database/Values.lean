import DocBatch.Database.Basic
import DocBatch.Store.Basic

/-!
# Values in the database

The database keeps large values in its value table, each under its content address.
Storing octets whose reference is already there leaves the table as it is; looking up a
reference that is not there is `notFound`. Both calls need the value table.

As a value store, the database reports its faults as store errors: a failed store with the
whole text of the database error, a failed lookup with the text of the fault underneath.
-/

namespace DocBatch

namespace Database

/-- Fails if the call is made to fail or the value table does not exist. -/
def guardValues (db : Database) (c : Call) : Except Error Unit := do
  db.guard c
  if !db.valuesTable then throw (fault "relation \"document_values\" does not exist")

/-- The value under a reference, if any. -/
def value? (db : Database) (reference : String) : Option Bytes :=
  (db.values.find? (·.1 == reference)).map (·.2)

/-- Stores octets under their content address; the reference. -/
def storeValue (db : Database) (data : Bytes) (hint : Option String) : Except Error (String × Database) := do
  db.guardValues .storeValue
  let reference := contentAddress data hint
  match db.value? reference with
  | some _ => return (reference, db)
  | none => return (reference, { db with values := db.values ++ [(reference, data)], version := db.version + 1 })

/-- The octets under a reference. -/
def retrieveValue (db : Database) (reference : String) : Except Error Bytes := do
  db.guardValues .retrieveValue
  match db.value? reference with
  | some data => return data
  | none => throw (.notFound reference)

end Database

instance : ValueStore Database where
  put db data hint :=
    match db.storeValue data hint with
    | .ok (reference, db) => (.ok reference, db)
    | .error e => (.error (.store e.message), db)
  get db reference :=
    match db.retrieveValue reference with
    | .error (.database f) => .error (.store f.message)
    | r => r

end DocBatch
