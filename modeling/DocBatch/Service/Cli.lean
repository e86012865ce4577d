import DocBatch.Cli.Run
import DocBatch.Service.Database
import DocBatch.Service.Config

/-!
# Requests on the command line

`cli` runs the worker's command line in an empty working directory holding the request's
files, with the request's variables. A request that describes a database gets a server
holding it: the database address points at the server, and the log level is `off` unless a
variable says otherwise. The reply gives the exit status and the two outputs, and with a
server the database at the end. After `serve` the database is shown sorted: each list of
messages in the order of the messages' texts (keys sorted, no blanks), without their
numbers, which depend on how the hosts interleave.

A run that does not end within its time is answered with the error `Timeout`.
-/

namespace DocBatch

namespace Service

open Json

/-- The socket the server of a request listens on. -/
def serverSocket : String := "/run/postgresql/.s.PGSQL.5432"

/-- The address of the server of a request. -/
def serverAddress : String := "postgres:///worker?host=/run/postgresql&sslmode=disable"

/-- Puts a keyed item after every item of a key no greater. -/
def insertByKey {α : Type} (x : String × α) : List (String × α) → List (String × α)
  | [] => [x]
  | y :: rest => if x.1 < y.1 then x :: y :: rest else y :: insertByKey x rest

/-- Messages as a sorted dump shows them: by their texts, without numbers. -/
def sortedMessages (ms : List QueueMessage) : Value :=
  let keyed := ms.map fun m => (m.body.canonical.render,
    Value.obj [("read_ct", .ofNat m.readCount), ("visible", .bool m.visible), ("message", m.body)])
  .arr ((keyed.foldl (fun acc x => insertByKey x acc) []).map (·.2))

/-- The database as a sorted dump shows it. -/
def sortedDatabaseInfo (db : Database) : Value :=
  .obj [("extension", .bool db.extension), ("values_table", .bool db.valuesTable),
    ("migrations", .arr (db.migrations.map fun m =>
      .obj [("version", .ofNat m.version), ("description", .str m.description), ("success", .bool true)])),
    ("queues", .obj (db.queues.map fun (name, q) =>
      (name, .obj [("messages", sortedMessages q.messages), ("archive", sortedMessages q.archive)]))),
    ("values", .obj (db.values.map fun (reference, data) => (reference, .str (Utf8.decodeLossy data))))]

/-- Reads the files of a request. -/
def readFiles (r : Value) : Except Value Directory := do
  let files ← (← entries r "files").mapM fun (name, v) =>
    match v with
    | .str s => pure (name, s)
    | _ => badInput ("files." ++ name ++ " must be a string")
  return { files := files.reverse }

/-- Reads the arguments of a request. -/
def readArguments (r : Value) : Except Value (List String) := do
  (← items r "args").mapM fun v =>
    match v with
    | .str s => pure s
    | _ => badInput "args must be strings"

/-- `cli`: a run of the worker's command line. -/
def cli (r : Value) : Reply := do
  let args ← readArguments r
  let vars ← readVariables r
  let dir ← readFiles r
  let server ← match member? r "db" with
    | none => pure none
    | some _ => pure (some (serverSocket, ← readDatabase r))
  let env := match server with
    | some _ =>
      let base := vars.filter (·.1 != "DATABASE_URL")
      let level := if base.any (·.1 == "LOG_LEVEL") then [] else [("LOG_LEVEL", "off")]
      ("DATABASE_URL", serverAddress) :: base ++ level
    | none => vars
  let out := Cli.Invocation.run { args := args, env := env, read := dir.read, server := server }
  if out.timedOut then throw (.obj [("error", .str "Timeout")])
  let serving := args.head? == some "serve"
  let shown := match out.database with
    | some db => [("db", if serving then sortedDatabaseInfo db else databaseInfo db)]
    | none => []
  return .obj ([("status", .ofNat out.status), ("stdout", .str out.stdout), ("stderr", .str out.stderr)] ++ shown)

end Service

end DocBatch
