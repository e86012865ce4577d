import DocBatch.Cli.Program
import DocBatch.Cli.EnvFile
import DocBatch.Cli.Files
import DocBatch.Cli.Serve
import DocBatch.Config.Basic
import DocBatch.Database.Connect
import DocBatch.LogFilter
import DocBatch.Telemetry
import DocBatch.Document.Payload

/-!
# Running the worker's command line

A run sees its arguments, its environment, the files it can read, and the database server
it can reach, if any (listening on a socket). It gives an exit status,
what it wrote to standard output and standard error, and the server's database at the end.

The steps, each of which may end the run:

1. The file `.env` of the working directory adds the variables the environment lacks.
2. The command line is read: a help page goes to standard output with status 0, a usage
   error to standard error with status 2.
3. The configuration is loaded from the variables.
4. The command runs. `health` connects and asks the database for a trivial answer.
   `submit` reads its file, decodes it as a task payload, then connects, migrates, creates
   the input queue and sends the payload's task to it. `serve` sets up telemetry (writing a
   warning for each log filter directive it skips), connects, migrates, creates the queues,
   and serves until the input queue settles.

A failure is reported on standard error with status 1: `Error: ` and its text, then the
faults under it, numbered when there are several.
-/

namespace DocBatch

namespace Cli

/-- What a run of the command line sees. -/
structure Invocation where
  args : List String
  /-- The variables of the environment. -/
  env : List (String × String) := []
  /-- Reads a file of the working directory by its path: its text, or the system's error. -/
  read : String → Except String String := ({} : Directory).read
  /-- The database server, if any: the socket it listens on, and its database. -/
  server : Option (String × Database) := none

/-- What a run gives. -/
structure Outcome where
  status : Nat
  stdout : String := ""
  stderr : String := ""
  /-- The server's database at the end, if there is a server. -/
  database : Option Database := none
  /-- Whether the run was given up on before it ended by itself. -/
  timedOut : Bool := false

/-- Why a command failed: its text and the texts of the faults under it, outermost first. -/
structure Failure where
  message : String
  causes : List String := []
  deriving Repr, Inhabited

/-- The failure of an error of the worker. -/
def Failure.ofError (e : Error) : Failure := ⟨e.message, e.causes⟩

/-- Indents the lines of a text after its first. -/
def indentRest (indent : String) (s : String) : String := ("\n" ++ indent).intercalate (s.splitOn "\n")

/-- A number right-aligned in five columns. -/
def rightAligned (n : Nat) : String :=
  let s := toString n
  String.ofList (List.replicate (5 - s.length) ' ') ++ s

/-- The report of a failure: its text, then the faults under it, numbered when there are
several. -/
def Failure.report (f : Failure) : String :=
  let causes := match f.causes with
    | [] => ""
    | [c] => "\n\nCaused by:\n    " ++ indentRest "    " c
    | cs => "\n\nCaused by:" ++ String.join ((List.range cs.length).zip cs |>.map fun (i, c) =>
        "\n" ++ rightAligned i ++ ": " ++ indentRest "       " c)
  "Error: " ++ f.message ++ causes ++ "\n"

/-- A correlation identifier for a task submitted without one. -/
def generatedTaskId : String := "00000000-0000-4000-8000-000000000000"

/-- A command's steps on the database: the value or failure, and the database after. -/
abbrev Steps (α : Type) := ExceptT Failure (StateM Database) α

/-- A step of a command on the database. -/
def onDatabase {α : Type} (f : Database → Except Error (α × Database)) : Steps α := do
  match f (← get) with
  | .ok (a, db) => set db; return a
  | .error e => throw (Failure.ofError e)

/-- A step that does not touch the database. -/
def check {α : Type} (r : Except Error α) : Steps α :=
  match r with
  | .ok a => pure a
  | .error e => throw (Failure.ofError e)

/-- The warnings of setting up the log filter: none when `RUST_LOG` holds a filter that
reads, else one for each directive of the configured level that is skipped. -/
def filterWarnings (var : String → Option String) (config : Config) : List String :=
  match var "RUST_LOG" with
  | some filter => if LogFilter.isValid filter then [] else LogFilter.warnings config.logLevel
  | none => LogFilter.warnings config.logLevel

namespace Invocation

/-- The value of a variable of the environment. The environment is searched as a list of
entries `name=value`: the first entry that starts with the name and `=` gives what follows,
so a name holding `=` finds the end of a value. No entry answers the empty name. -/
def var (inv : Invocation) (name : String) : Option String :=
  if name.isEmpty then none
  else
    let key := (name ++ "=").toList
    inv.env.findSome? fun (k, v) =>
      let entry := (k ++ "=" ++ v).toList
      if key.isPrefixOf entry then some (String.ofList (entry.drop key.length)) else none

/-- The socket the server listens on, if there is one. -/
def listening (inv : Invocation) : Option String := inv.server.map (·.1)

/-- Connects to the database at an address. -/
def connect (inv : Invocation) (var : String → Option String) (address : String) : Steps Unit :=
  check (connectTo var inv.listening address)

/-- `health`: connects and asks for a trivial answer. -/
def health (inv : Invocation) (var : String → Option String) (config : Config) : Steps String := do
  inv.connect var config.databaseUrl
  check (← get).health
  return "ok\n"

/-- `submit`: sends the task of a payload file to the input queue. -/
def submit (inv : Invocation) (var : String → Option String) (config : Config) (file : String)
    (taskId : Option String) : Steps String := do
  let text ← match inv.read file with
    | .ok text => pure text
    | .error m => throw ⟨m, []⟩
  let payload ← match Json.Decoder.readBytes Payload.decoder (Utf8.encode text) with
    | .ok p => pure p
    | .error e => throw ⟨e.message, []⟩
  let data := Utf8.encode payload.toJson.render
  inv.connect var config.databaseUrl
  onDatabase fun db => (db.migrate).map ((), ·)
  onDatabase fun db => (db.createQueue config.queue.inputQueue).map ((), ·)
  let id := taskId.getD generatedTaskId
  let number ← onDatabase fun db =>
    db.send config.queue.inputQueue (Queue.TaskEnvelope.document (some id) data).toJson
  return "Submitted: " ++ id ++ " (message " ++ toString number ++ ")\n"

/-- `serve`, up to the hosts: telemetry, then the database made ready. -/
def prepareServe (inv : Invocation) (var : String → Option String) (config : Config) : Steps Unit := do
  check (({ endpoint := config.otelEndpoint, logLevel := config.logLevel } : TelemetrySetup).install false)
  inv.connect var config.databaseUrl
  onDatabase fun db => (db.migrate).map ((), ·)
  onDatabase fun db => (db.createQueue config.queue.inputQueue).map ((), ·)
  onDatabase fun db => (db.createQueue config.queue.outputQueue).map ((), ·)

end Invocation

/-- The outcome of a command's steps: its output and status 0, or its failure and status 1. -/
def finish (r : Except Failure String) (db : Option Database) (stderr : String := "") : Outcome :=
  match r with
  | .ok out => { status := 0, stdout := out, stderr := stderr, database := db }
  | .error f => { status := 1, stderr := stderr ++ f.report, database := db }

/-- Runs a command with a configuration. -/
def Invocation.command (inv : Invocation) (var : String → Option String) (config : Config) : Action → Outcome
  | .health =>
    let db := (inv.server.map (·.2)).getD {}
    let (r, db) := ((inv.health var config).run).run db
    finish r (inv.server.map fun _ => db)
  | .submit file taskId =>
    let db := (inv.server.map (·.2)).getD {}
    let (r, db) := ((inv.submit var config file taskId).run).run db
    finish r (inv.server.map fun _ => db)
  | .serve workers single backoff =>
    let warnings := String.join ((filterWarnings var config).map (· ++ "\n"))
    let db := (inv.server.map (·.2)).getD {}
    match ((inv.prepareServe var config).run).run db with
    | (.error f, db) => finish (.error f) (inv.server.map fun _ => db) warnings
    | (.ok (), db) =>
      let (db, timedOut) := Serve.run { settings := config.worker } config.queue workers single backoff db
      { finish (.ok "") (inv.server.map fun _ => db) warnings with timedOut := timedOut }

/-- Runs the command line. -/
def Invocation.run (inv : Invocation) : Outcome :=
  let added := match inv.read ".env" with
    | .ok text => EnvFile.load inv.var text
    | .error _ => []
  let var := fun name => (inv.var name).orElse fun _ => (added.find? (·.1 == name)).map (·.2)
  let database := inv.server.map (·.2)
  match readAction inv.args with
  | .error (.help page) => { status := 0, stdout := page, database := database }
  | .error (.misuse text) => { status := 2, stderr := text, database := database }
  | .error (.run _ _) => { status := 2, database := database }
  | .ok action =>
    match Config.fromEnv { var := var, read := inv.read } with
    | .error e => finish (.error (Failure.ofError e)) database
    | .ok config => inv.command var config action

end Cli

end DocBatch
