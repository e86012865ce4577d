import DocBatch.Error
import DocBatch.Json.Value
import DocBatch.Text.Utf8

/-!
# The worker's database

The worker keeps its task queues and its large values in one database. `Database` is that
database as the worker can observe it: whether the queue extension and the value table
exist, which migrations are recorded, the queues with their messages and archives, the
values by reference, and the calls that are made to fail.

Time stands still in it: every message was sent at `Database.epoch`, and a message's
visibility is an offset in seconds from that moment; it is visible while the offset is not
positive. Reading a message sets its offset, so a message read (or released) with a
positive offset never comes back.

A call fails with the database's own message: first if it is made to fail, then if what it
needs does not exist. A failed call changes nothing, but a read is counted even when it
fails. Every change advances the version. Applying the migration creates the
extension and the value table and records the migration; once recorded it is not run again.
-/

namespace DocBatch

/-- A message in a queue: its number, how often it was read, the offset in seconds after
which it is visible, its body, and whether it is held by a reader: read and not released
since. -/
structure QueueMessage where
  id : Nat
  readCount : Nat := 0
  offset : Int := 0
  body : Json.Value
  held : Bool := false
  deriving Repr, Inhabited

/-- Whether a message can be read now. -/
def QueueMessage.visible (m : QueueMessage) : Bool := m.offset ≤ 0

/-- A queue: its messages and its archive, each in the order of their numbers, and the last
number given to a message. -/
structure MessageQueue where
  messages : List QueueMessage := []
  archive : List QueueMessage := []
  lastId : Nat := 0
  deriving Repr, Inhabited

/-- The calls of the database that can be made to fail. -/
inductive Call where
  | health
  | migrate
  | create
  | send
  | read
  | archive
  | setVisibility
  | storeValue
  | retrieveValue
  deriving Repr, DecidableEq, Inhabited

/-- Every call that can be made to fail. -/
def Call.all : List Call :=
  [.health, .migrate, .create, .send, .read, .archive, .setVisibility, .storeValue, .retrieveValue]

/-- The name of a call. -/
def Call.name : Call → String
  | .health => "health"
  | .migrate => "migrate"
  | .create => "create"
  | .send => "send"
  | .read => "read"
  | .archive => "archive"
  | .setVisibility => "set_vt"
  | .storeValue => "store_value"
  | .retrieveValue => "retrieve_value"

/-- The call of a name, if any. -/
def Call.ofName? (name : String) : Option Call := Call.all.find? (·.name == name)

/-- A recorded migration. -/
structure Migration where
  version : Nat
  description : String
  deriving Repr, DecidableEq, Inhabited

/-- The database as the worker observes it, with the reads made of its queues (failed ones
too) and a version counting the changes to it. -/
structure Database where
  extension : Bool := false
  valuesTable : Bool := false
  migrations : List Migration := []
  queues : List (String × MessageQueue) := []
  values : List (String × Bytes) := []
  failures : List (Call × String) := []
  reads : Nat := 0
  version : Nat := 0
  deriving Inhabited

namespace Database

/-- The moment at which time stands still: 2025-01-01T00:00:00Z, in seconds since 1970. -/
def epoch : Int := 1735689600

/-- The one migration of the worker's schema. -/
def schema : Migration := ⟨1, "document worker"⟩

/-- An error the database answers a call with. -/
def fault (message : String) : Error := .database (.returned message)

/-- The message of a call made to fail, if it is. -/
def failure? (db : Database) (c : Call) : Option String :=
  (db.failures.find? (·.1 == c)).map (·.2)

/-- Fails if the call is made to fail. -/
def guard (db : Database) (c : Call) : Except Error Unit :=
  match db.failure? c with
  | some m => .error (fault m)
  | none => .ok ()

/-- Answers a trivial query. -/
def health (db : Database) : Except Error Unit := db.guard .health

/-- Applies the migration unless it is recorded. -/
def migrate (db : Database) : Except Error Database :=
  if db.migrations.contains schema then .ok db
  else
    match db.failure? .migrate with
    | some m =>
      .error (.other ("migration failed: while executing migration " ++ toString schema.version ++ ": " ++
        (DatabaseError.returned m).message))
    | none =>
      .ok { db with extension := true, valuesTable := true, migrations := db.migrations ++ [schema],
                    version := db.version + 1 }

/-- Replaces the calls made to fail. -/
def setFailures (db : Database) (failures : List (Call × String)) : Database :=
  { db with failures := failures }

theorem migrate_recorded (db : Database) (h : db.migrations.contains schema) : db.migrate = .ok db := by
  unfold migrate
  rw [if_pos h]

end Database

end DocBatch
