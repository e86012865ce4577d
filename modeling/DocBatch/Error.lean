import DocBatch.Json.Fault

/-!
# Errors of the worker

Every operation of the library that can fail says why with an `Error`: a bad configuration,
a database fault, an I/O fault, a payload that cannot be decoded, a malformed queue message,
a value store fault, a reference missing from the store, or any other cause given as text.
`Error.message` is the text shown for it: a prefix naming the cause's family, then the
cause. `Error.causes` lists the texts of the faults underneath, outermost first, as a
report of the whole chain shows them.
-/

namespace DocBatch

/-- A fault reported by the database layer. -/
inductive DatabaseError where
  /-- The server answered the statement with an error. -/
  | returned (message : String)
  /-- The connection settings are unusable: why, and the texts of the faults under that. -/
  | configuration (message : String) (deeper : List String := [])
  /-- The connection could not be made or was lost. -/
  | io (message : String)
  /-- No connection could be opened in the time allowed. -/
  | poolTimedOut
  deriving Repr, DecidableEq

/-- The text of a database fault. -/
def DatabaseError.message : DatabaseError → String
  | .returned m => "error returned from database: " ++ m
  | .configuration m _ => "error with configuration: " ++ m
  | .io m => "error communicating with database: " ++ m
  | .poolTimedOut => "pool timed out while waiting for an open connection"

/-- The texts of the faults under a database fault, outermost first. -/
def DatabaseError.sources : DatabaseError → List String
  | .returned m => [m]
  | .configuration m deeper => m :: deeper
  | .io m => [m]
  | .poolTimedOut => []

/-- Why an operation of the worker failed. -/
inductive Error where
  | config (message : String)
  | database (fault : DatabaseError)
  | io (message : String)
  | codec (fault : Json.DecodeError)
  | envelope (message : String)
  | store (message : String)
  | notFound (reference : String)
  | other (message : String)
  deriving Repr, DecidableEq

/-- The text of an error. -/
def Error.message : Error → String
  | .config m => "configuration error: " ++ m
  | .database f => "database error: " ++ f.message
  | .io m => "io error: " ++ m
  | .codec f => "codec error: " ++ f.message
  | .envelope m => "malformed queue envelope: " ++ m
  | .store m => "value store error: " ++ m
  | .notFound r => "value not found in store: " ++ r
  | .other m => m

/-- The texts of the faults under an error, outermost first. -/
def Error.causes : Error → List String
  | .database f => f.message :: f.sources
  | .io m => [m]
  | .codec f => [f.message]
  | _ => []

end DocBatch
