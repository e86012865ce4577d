import DocBatch.Cli.Run

/-!
# The worker's command line as a program

The program gathers what a run of the command line may look at (its arguments, the
variables it consults, the files it may read), runs it with no database server to reach,
writes the two outputs, and exits with the run's status.

The files a run may read are `.env`, the settings file `DOCWORKER_CONFIG` names, and the
payload `submit` names; they are read before the run, each to its text or its error.
-/

namespace DocBatch

namespace Cli

/-- The variables the worker consults. -/
def consultedVariables : List String :=
  ["DATABASE_URL", "DATABASE_MAX_CONNECTIONS", "OTEL_ENDPOINT", "LOG_LEVEL", "RUST_LOG", "PGHOST", "PGPORT",
   "DOCWORKER_CONFIG", "DOCWORKER_MAX_BATCH_SIZE", "DOCWORKER_MAX_BATCH_TIME_MS", "DOCWORKER_INLINE_THRESHOLD",
   "DOCWORKER_STORE_RETRIES", "DOCWORKER_INPUT_QUEUE", "DOCWORKER_OUTPUT_QUEUE", "DOCWORKER_REDELIVERY_DELAY_SECS"]

/-- The names an environment file may refer to: its runs of letters, digits and `_`. -/
def referencedNames (text : String) : List String :=
  let isNameChar := fun (c : Char) => (c.isAlphanum && c.toNat < 128) || c == '_'
  ((text.toList.splitBy fun a b => isNameChar a == isNameChar b).filter fun w =>
    w.all isNameChar).map String.ofList

/-- The text of a system error as a run reports it. -/
def systemErrorText (e : IO.Error) : String :=
  match e with
  | .noFileOrDirectory .. => Directory.missing
  | .inappropriateType _ 21 _ => Directory.isDirectory
  | .inappropriateType _ 20 _ => Directory.notDirectory
  | e => toString e

/-- Reads a file: its text, or the text of the error. -/
def readPath (path : String) : IO (Except String String) := do
  try
    return .ok (← IO.FS.readFile path)
  catch e =>
    return .error (systemErrorText e)

end Cli

end DocBatch

open DocBatch Cli in
/-- Runs the worker's command line. -/
def main (args : List String) : IO UInt32 := do
  let dotEnv ← readPath ".env"
  let names := consultedVariables ++ (match dotEnv with
    | .ok text => referencedNames text
    | .error _ => [])
  let env ← names.filterMapM fun name => do return (← IO.getEnv name).map (name, ·)
  let var := fun name => (env.find? (·.1 == name)).map (·.2)
  let added := match dotEnv with
    | .ok text => EnvFile.load var text
    | .error _ => []
  let settings := (var "DOCWORKER_CONFIG").orElse fun _ => (added.find? (·.1 == "DOCWORKER_CONFIG")).map (·.2)
  let payload := match readAction args with
    | .ok (.submit file _) => [file]
    | _ => []
  let paths := [".env"] ++ settings.toList ++ payload
  let files ← paths.mapM fun path => do return (path, ← readPath path)
  let read := fun path => ((files.find? (·.1 == path)).map (·.2)).getD (.error Directory.missing)
  let out := Invocation.run { args := args, env := env, read := read }
  IO.print out.stdout
  IO.eprint out.stderr
  return out.status.toUInt32
