import DocBatch.Service.Documents
import DocBatch.Engine.Host

/-!
# Scripted workers

A scripted worker runs a list of document steps on each document it gets, and notes their
answers in a log; it can be told to fail on its n-th call (counted from 0), or on documents
whose field has given texts. A bulk worker may follow a script of cursor steps (pull the
next document, process one, drain the rest, close, sleep, fail), whose answers are noted too.

A worker works on any value store: what it offloads goes wherever the engine keeps values.
-/

namespace DocBatch

namespace Service

open Json

/-- What a scenario keeps besides the engine's state: the worker's calls and their log, the
answers of the cursor steps, the pulls made, what the main processes found, and the answers
of a session's steps with the error that stopped it, if any. -/
structure Notes where
  calls : Nat := 0
  log : Array Value := #[]
  steps : Array Value := #[]
  pulls : Nat := 0
  report : Option Report := none
  hosts : Array (Nat × HostStats) := #[]
  assembler : Option Assembler := none
  answers : Array Value := #[]
  stopped : Option Value := none

/-- A note added by processing code. -/
def note {σ : Type} (f : Notes → Notes) : Work σ Notes Unit :=
  modify fun s => { s with own := f s.own }

/-- The scripted worker: its document steps and when it fails. -/
structure Script where
  actions : List Value := []
  failAt : Option Nat := none
  failWhen : Option (String × String) := none
  failMessage : String := "backend unavailable"
  program : Option (List Value) := none

/-- Reads the scripted worker of a request. -/
def readScript (r : Value) : Except Value Script := do
  match member? r "worker" with
  | none => return {}
  | some w =>
    let failWhen ← match member? w "fail_when" with
      | some fw => pure (some (← textOr fw "field" "", ← textOr fw "equals" ""))
      | none => pure none
    return { actions := ← items w "actions", failAt := ← nat? w "fail_at" (Nat.pow 2 64 - 1),
             failWhen := failWhen, failMessage := ← textOr w "fail_message" "backend unavailable",
             program := (← items w "script") |> fun xs => if (member? w "script").isSome then some xs else none }

/-- The worker that runs the script's document steps. -/
def scriptedWorker {σ : Type} [ValueStore σ] (ctx : Context) (sc : Script) : Worker σ Notes where
  process d := do
    let call := (← get).own.calls
    note fun n => { n with calls := call + 1 }
    let failed := fun (message : String) => do
      note fun n => { n with log := n.log.push (.obj [("call", .ofNat call), ("failed", .bool true)]) }
      return (d, Except.error ({ message := message } : TransientError))
    if sc.failAt = some call then return ← failed sc.failMessage
    if let some (field, equals) := sc.failWhen then
      let joined := ",".intercalate (d.strings field)
      if joined = equals then return ← failed (sc.failMessage ++ " " ++ joined)
    let (results, d) ← documentSteps ctx d sc.actions
    note fun n => { n with log := n.log.push (.obj [("call", .ofNat call), ("results", .arr results)]) }
    return (d, .ok ())

/-- Records the answer of a cursor step. -/
def stepNote {σ : Type} (v : Value) : Eng σ Notes Unit :=
  Eng.work (note fun n => { n with steps := n.steps.push v })

/-- One cursor step of a script: the cursor to go on with, or the end of the program. -/
def cursorStep {σ : Type} (ctx : Context) (src : Source σ Notes) (w : Worker σ Notes)
    (step : Value) (c : Cursor) :
    Eng σ Notes (Cursor ⊕ (Except TransientError Unit × Cursor)) := do
  match textOr step "op" "" with
  | .ok "next" =>
    match ← c.next ctx src with
    | (none, c) => stepNote (.obj [("next", .bool false)]); return .inl c
    | (some i, c) =>
      match ← c.process w i with
      | (.ok _, c) => stepNote (.obj [("next", .bool true)]); return .inl c
      | (.error e, c) => return .inr (.error e, c)
  | .ok "next_raw" =>
    let (i, c) ← c.next ctx src
    stepNote (.obj [("next", .bool i.isSome)])
    return .inl c
  | .ok "drain" =>
    match ← c.drain ctx src w with
    | (.ok n, c) => stepNote (.obj [("drained", .ofNat n)]); return .inl c
    | (.error e, c) => return .inr (.error e, c)
  | .ok "get" =>
    match ← c.process w ((natOr step "index" (Nat.pow 2 64 - 1) 0).toOption.getD 0) with
    | (.ok b, c) => stepNote (.obj [("get", .bool b)]); return .inl c
    | (.error e, c) => return .inr (.error e, c)
  | .ok "close" =>
    let c ← c.close
    stepNote (.obj [("closed", .bool true)])
    return .inl c
  | .ok "state" =>
    stepNote (.obj [("size", .ofNat c.batch.size), ("closed", .bool c.batch.closed)])
    return .inl c
  | .ok "sleep" =>
    let ms := (natOr step "ms" (Nat.pow 2 64 - 1) 0).toOption.getD 0
    Act.sleepUntil ((← Act.now) + ms)
    stepNote (.obj [("slept", .ofNat ms)])
    return .inl c
  | .ok "fail" =>
    stepNote (.obj [("fail", .bool true)])
    return .inr (.error { message := (textOr step "message" "").toOption.getD "" }, c)
  | _ => return .inl c

/-- The cursor program of a script. -/
def scriptProgram {σ : Type} (steps : List Value) : BatchProgram σ Notes := fun ctx src w c =>
  Proc.iterate (steps, c) fun (steps, c) => do
    match steps with
    | [] => return .inr (.ok (), c)
    | step :: rest =>
      match ← cursorStep ctx src w step c with
      | .inl c => return .inl (rest, c)
      | .inr r => return .inr r

/-- Reads the script and whether its worker takes one document per batch. -/
def readWorker (r : Value) : Except Value (Script × Bool) := do
  let sc ← readScript r
  match ← textOr r "mode" "bulk" with
  | "single" => return (sc, true)
  | "bulk" => return (sc, false)
  | other => badInput ("unknown mode " ++ other)

/-- The processor of a script: single, bulk with the script's cursor program, or bulk over
every document. -/
def Script.processor {σ : Type} [ValueStore σ] (ctx : Context) (sc : Script) (single : Bool) : Processor σ Notes :=
  let w := scriptedWorker ctx sc
  if single then .single w
  else
    match sc.program with
    | some steps => .bulk w (scriptProgram steps)
    | none => Processor.bulkEach w

end Service

end DocBatch
