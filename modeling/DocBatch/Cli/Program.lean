import DocBatch.Cli.Args
import DocBatch.Number.Digits

/-!
# The worker's command line

`document-worker` has three commands: `serve` runs worker hosts until it is interrupted,
`submit` sends a task payload read from a file to the input queue, and `health` checks that
the database answers. `readAction` reads a command line into the `Action` it asks for, or
into the help page or usage error to show instead.
-/

namespace DocBatch

namespace Cli

/-- Checks a count of 64 bits. -/
def countCheck (s : String) : Except String Unit :=
  match readNatural (Nat.pow 2 64 - 1) s with
  | .ok _ => .ok ()
  | .error f => .error f.message

/-- `serve`: worker hosts until interrupted. -/
def serveCommand : Command where
  name := "serve"
  about := "Run worker hosts until ctrl-c"
  options :=
    [{ long := "workers", takes := .value "WORKERS" countCheck, help := "Number of concurrent batch hosts",
       default? := some "1" },
     { long := "single", takes := .nothing, help := "Process one document per cycle instead of batches" },
     { long := "idle-backoff-ms", takes := .value "IDLE_BACKOFF_MS" countCheck,
       help := "Pause after an empty cycle, in milliseconds", default? := some "1000" }]

/-- `submit`: a task payload to the input queue. -/
def submitCommand : Command where
  name := "submit"
  about := "Send a task payload (JSON file) to the input queue"
  options :=
    [{ long := "task-id", takes := .value "TASK_ID" fun _ => .ok (),
       help := "Correlation id echoed on the response (default: random UUID)" }]
  positionals := [⟨"FILE", "Path to a JSON task payload"⟩]

/-- `health`: whether the database answers. -/
def healthCommand : Command where
  name := "health"
  about := "Check database connectivity"

/-- The worker's command line. -/
def program : Program where
  name := "document-worker"
  about := "Batching document worker over pgmq"
  commands := [serveCommand, submitCommand, healthCommand]

/-- What the worker is asked to do. -/
inductive Action where
  /-- Run `workers` hosts (at least one), one document per cycle if `single`, pausing
  `idleBackoffMs` after a cycle that did nothing. -/
  | serve (workers : Nat) (single : Bool) (idleBackoffMs : Nat)
  /-- Send the payload of a file, under a correlation identifier if one is given. -/
  | submit (file : String) (taskId : Option String)
  /-- Check that the database answers. -/
  | health
  deriving Repr, DecidableEq

/-- The value given to an argument, if any. -/
def valueOf (values : List (String × String)) (name : String) : Option String :=
  (values.find? (·.1 == name)).map (·.2)

/-- A count given to an argument, or its default. -/
def countOf (values : List (String × String)) (name : String) (default : Nat) : Nat :=
  match valueOf values name with
  | some v => (readNatural (Nat.pow 2 64 - 1) v).toOption.getD default
  | none => default

/-- The action of a command with the values of its arguments. -/
def Action.ofCommand (command : String) (values : List (String × String)) : Action :=
  match command with
  | "serve" => .serve (countOf values "workers" 1) (valueOf values "single" == some "true")
      (countOf values "idle-backoff-ms" 1000)
  | "submit" => .submit ((valueOf values "FILE").getD "") (valueOf values "task-id")
  | _ => .health

/-- Reads a command line: the action, or what to show instead. -/
def readAction (args : List String) : Except Request Action :=
  match program.read args with
  | .run command values => .ok (Action.ofCommand command values)
  | r => .error r

end Cli

end DocBatch
