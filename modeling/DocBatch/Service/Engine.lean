import DocBatch.Service.Script
import DocBatch.Engine.Host
import DocBatch.Schedule.Run

/-!
# Service operations on the engine

The engine operations play a scenario on the virtual clock: tasks arrive on the channel at
given times, the shutdown signal comes at a given time, and a scripted worker processes the
documents. The scenario then reports what the engine did.

* Tasks due at time 0 are in the channel before the run, as far as it has room; a feeder
  sends the others in order, each at its time, waiting while the channel is full. When the
  source closes at a given time, no task due then or later is sent.
* The scripted worker runs a list of document steps on each document it gets, and logs their
  answers; it can be told to fail on its n-th call (counted from 0 over the whole scenario), or
  on documents whose field has given texts. A bulk worker may follow a script of cursor steps.
* The source can be told to fail some pulls (counted from 1) and the answers to some tasks.

`batch` runs one batch, `assemble` drives an assembler step by step, and `host` runs several
hosts on one source until shutdown.
-/

namespace DocBatch

namespace Service

open Json

/-- The engine's world in a scenario. -/
abbrev Scene := Env CountingStore Notes

/-- The channel source, failing the pulls and answers it is told to. -/
def scriptedSource (failPulls : List Nat) (failAnswers : List Int) : Source CountingStore Notes where
  next maxWait := do
    let n ← Eng.work (do note fun n => { n with pulls := n.pulls + 1 }; return (← get).own.pulls)
    if failPulls.contains n then return .error (.other ("scripted source failure on pull " ++ toString n))
    Source.channel.next maxWait
  respond t r :=
    if failAnswers.contains t.id then
      return .error (.other ("scripted respond failure for task " ++ toString t.id))
    else Source.channel.respond t r

/-- A task of a scenario, with its arrival time. -/
structure Arrival where
  time : Nat
  task : Task

/-- Reads the tasks of a request, sorted by arrival (stably). -/
def readArrivals (r : Value) : Except Value (List Arrival) := do
  let xs ← items r "tasks"
  let arrivals ← xs.mapM fun x => do
    let id ← match member? x "id" with
      | some (.num (.int i)) =>
        if -(Int.pow 2 63) ≤ i && i < Int.pow 2 63 then pure i else badInput "task id must be an i64"
      | _ => badInput "task id must be an i64"
    let time ← match member? x "at" with
      | none => pure 0
      | some (.num (.int i)) => if 0 ≤ i then pure i.toNat else badInput "at must be a non-negative integer"
      | some _ => badInput "at must be a non-negative integer"
    let t ← readTask x
    return ({ time := time, task := { t with id := id } } : Arrival)
  return arrivals.mergeSort fun a b => a.time ≤ b.time

/-- Reads a list of integers. -/
def readInts (r : Value) (key : String) : Except Value (List Int) := do
  (← items r key).mapM fun
    | .num (.int i) => pure i
    | _ => badInput (key ++ " holds integers")

/-- The feeder: sends each task at its time, waiting for room; then closes the channel at
the given time. -/
def feeder (arrivals : List Arrival) (closeAt : Option Nat) : Act Scene Unit := do
  Proc.iterate arrivals fun
    | [] => return .inr ()
    | a :: rest => do
      Act.sleepUntil a.time
      let _ ← Proc.await (.send a.task)
      return .inl rest
  if let some c := closeAt then
    Act.sleepUntil c
    Act.close

/-- Sets the shutdown signal at a time. -/
def trigger (t : Nat) : Act Scene Unit := do
  Act.sleepUntil t
  Act.trigger

/-- The inputs every engine scenario shares. -/
structure Scenario where
  ctx : Context
  store : CountingStore
  capacity : Nat
  arrivals : List Arrival
  closeAt : Option Nat
  shutdownBefore : Bool
  shutdownAt : Option Nat
  failPulls : List Nat
  failAnswers : List Int

/-- The source of a scenario. -/
def Scenario.source (sc : Scenario) : Source CountingStore Notes :=
  scriptedSource sc.failPulls sc.failAnswers

/-- Reads the shared inputs of an engine request. -/
def readScenario (r : Value) : Except Value Scenario := do
  let closeAt ← nat? r "close_source_at" (Nat.pow 2 64 - 1)
  let arrivals ← readArrivals r
  let pulls ← readInts r "source_fail_pulls"
  return { ctx := ← readContext r, store := ← readStore r,
           capacity := ← natOr r "capacity" (Nat.pow 2 64 - 1) 64,
           arrivals := arrivals.filter fun a => match closeAt with
             | some c => a.time < c
             | none => true,
           closeAt := closeAt, shutdownBefore := ← flag r "shutdown_before",
           shutdownAt := ← nat? r "shutdown_at" (Nat.pow 2 64 - 1),
           failPulls := pulls.filterMap fun i => if 0 ≤ i then some i.toNat else none,
           failAnswers := ← readInts r "respond_fail" }

/-- Runs a scenario's main processes with the feeder, the shutdown trigger and more spawned
processes after them. -/
def Scenario.play (sc : Scenario) (mains more : List (Act Scene Unit)) : Shared Scene :=
  let (early, late) := sc.arrivals.span fun a => a.time = 0
  let queued := early.take sc.capacity
  let rest := early.drop sc.capacity ++ late
  let shared : Shared Scene :=
    { shutdown := sc.shutdownBefore, inbox := queued.map (·.task), capacity := sc.capacity,
      rest := { fx := { store := sc.store, own := {} } } }
  let triggers := (sc.shutdownAt.map trigger).toList
  Schedule.run shared mains ([feeder rest sc.closeAt] ++ triggers ++ more)

/-- An answer as a reply shows it. -/
def deliveryInfo (d : Delivery) : Value :=
  let base := [("task_id", Value.ofInt d.taskId), ("correlation_id", Value.ofOption d.correlationId),
    ("kind", .str d.response.kind)]
  match d.response with
  | .success data => .obj (base ++ [("data", .str (Utf8.decodeLossy data))])
  | .rejected reason => .obj (base ++ [("reason", .str reason)])
  | .invalid reason => .obj (base ++ [("reason", .str reason)])

/-- A batch report as a reply shows it. -/
def reportInfo (r : Report) (withDuration : Bool) : Value :=
  .obj ([("size", .ofNat r.size), ("refused", .ofNat r.refused), ("outcome", .str r.outcome.name),
    ("close_reason", Value.ofOption (r.closeReason.map CloseReason.name)),
    ("interrupted", .bool r.interrupted),
    ("response_failures", .arr (r.failures.map fun f =>
      .obj [("task_id", .ofInt f.taskId), ("error", .str (Error.kind f.error)),
        ("message", .str f.error.message)]))] ++
    (if withDuration then [("duration_ms", .ofNat r.durationMs)] else []))

/-- `batch`: one batch run. -/
def batch (r : Value) : Except Value (Value × Array Event) := do
  let sc ← readScenario r
  let (script, single) ← readWorker r
  let p := script.processor sc.ctx single
  let main : Act Scene Unit := do
    let report ← runBatch sc.ctx sc.source p
    Eng.work (note fun n => { n with report := some report })
  let end_ := sc.play [main] []
  let notes := end_.rest.fx.own
  let report := match notes.report with
    | some rep => reportInfo rep true
    | none => .null
  return (.obj [("mode", .str p.mode), ("report", report), ("elapsed_ms", .ofNat end_.now),
    ("shutdown", .bool end_.shutdown), ("cursor", .arr notes.steps.toList), ("log", .arr notes.log.toList),
    ("responses", .arr (end_.rest.delivered.toList.map deliveryInfo)),
    ("store_attempts", .ofNat end_.rest.fx.store.attempts)], end_.rest.fx.events)

/-- What a reply shows of an assembler after a step. -/
def assemblerInfo (a : Assembler) (now : Nat) : List (String × Value) :=
  [("len", .ofNat a.batch.size), ("is_empty", .bool a.batch.entries.isEmpty),
   ("closed", .bool a.batch.closed),
   ("close_reason", Value.ofOption (a.batch.closeReason.map CloseReason.name)),
   ("refused", .ofNat a.batch.refused),
   ("window_end_ms", match a.batch.windowEnd with
     | some t => .ofNat t
     | none => .null),
   ("now_ms", .ofNat now)]

/-- One step on an assembler. -/
def assembleStep (sc : Scenario) (step : Value) (a : Assembler) : Act Scene Assembler := do
  match textOr step "op" "" with
  | .ok "admit" =>
    let (admission, a) ← a.tryAdmit sc.ctx sc.source
    let name := match admission with
      | .admitted => "admitted"
      | .noMore => "no_more"
    stepNote (.obj ([("admission", .str name)] ++ assemblerInfo a (← Act.now)))
    return a
  | .ok "close" =>
    let a ← a.closeFor .closedByWorker
    stepNote (.obj (assemblerInfo a (← Act.now)))
    return a
  | .ok "sleep" =>
    Act.sleepUntil ((← Act.now) + (natOr step "ms" (Nat.pow 2 64 - 1) 0).toOption.getD 0)
    stepNote (.obj (assemblerInfo a (← Act.now)))
    return a
  | .ok "shutdown" =>
    Act.trigger
    stepNote (.obj (assemblerInfo a (← Act.now)))
    return a
  | .ok "doc" =>
    let i := (natOr step "index" (Nat.pow 2 64 - 1) 0).toOption.getD 0
    let action := (member? step "action").getD (.obj [])
    match a.batch.entries[i]? with
    | none =>
      stepNote (.obj ([("result", errorObject "BadIndex" "no value at index")] ++ assemblerInfo a (← Act.now)))
      return a
    | some e =>
      let (v, d) ← Eng.work (documentStep sc.ctx e.document action)
      let a := { a with batch := a.batch.setDocument i d }
      stepNote (.obj ([("result", v)] ++ assemblerInfo a (← Act.now)))
      return a
  | _ => return a

/-- The known steps of an assembler. -/
def assembleOps : List String := ["admit", "close", "sleep", "shutdown", "doc"]

/-- `assemble`: an assembler driven step by step. -/
def assemble (r : Value) : Except Value (Value × Array Event) := do
  let sc ← readScenario r
  let limits : Limits := ⟨← natOr r "max_batch_size" (Nat.pow 2 64 - 1) 100, ← natOr r "max_batch_time_ms" (Nat.pow 2 64 - 1) 2000⟩
  let steps ← items r "ops"
  for step in steps do
    let op ← textOr step "op" ""
    if !assembleOps.contains op then badInput ("unknown assemble op " ++ Quoted.json op)
  let main : Act Scene Unit := do
    let a ← Proc.iterate (steps, ({ limits := limits } : Assembler)) fun
      | ([], a) => return .inr a
      | (step :: rest, a) => do return .inl (rest, ← assembleStep sc step a)
    Eng.work (note fun n => { n with assembler := some a })
  let end_ := sc.play [main] []
  let notes := end_.rest.fx.own
  let a := notes.assembler.getD { limits := limits }
  let entries := a.batch.entries.map fun e =>
    Value.obj [("task_id", .ofInt e.task.id), ("correlation_id", Value.ofOption e.task.correlationId),
      ("field_names", ofStrings e.document.fieldNames)]
  let batchInfo := if (← flag r "report_batch") then
      [("batch", Value.obj [("len", .ofNat a.batch.size), ("is_empty", .bool a.batch.entries.isEmpty),
        ("is_closed", .bool a.batch.closed),
        ("limits", .obj [("max_batch_size", .ofNat limits.maxSize), ("max_batch_time_ms", .ofNat limits.maxTimeMs)])])]
    else []
  return (.obj ([("steps", .arr notes.steps.toList), ("entries", .arr entries),
    ("responses", .arr (end_.rest.delivered.toList.map deliveryInfo))] ++ batchInfo), end_.rest.fx.events)

/-- A host of a scenario, numbered `i`: its counts are noted when it stops. -/
def hostProcess (sc : Scenario) (p : Processor CountingStore Notes) (backoff : Nat) (i : Nat) :
    Act Scene Unit := do
  let stats ← runHost sc.ctx sc.source p backoff
  Eng.work (note fun n => { n with hosts := n.hosts.push (i, stats) })

/-- `host`: hosts on one source until shutdown. -/
def host (r : Value) : Except Value (Value × Array Event) := do
  let sc ← readScenario r
  let (script, single) ← readWorker r
  let p := script.processor sc.ctx single
  let count ← natOr r "hosts" 8 1
  let backoff ← natOr r "idle_backoff_ms" (Nat.pow 2 64 - 1) 1000
  let hostShutdownAt ← nat? r "host_shutdown_at" (Nat.pow 2 64 - 1)
  if sc.shutdownAt.isNone && hostShutdownAt.isNone && !sc.shutdownBefore then
    badInput "host needs shutdown_at"
  let hosts := (List.range count).map (hostProcess sc p backoff)
  let end_ := sc.play hosts (hostShutdownAt.map trigger).toList
  let notes := end_.rest.fx.own
  let ordered := (notes.hosts.toList.mergeSort fun a b => a.1 ≤ b.1).map (·.2)
  let stats := ordered.map fun s =>
    Value.obj [("batches", .ofNat s.batches), ("documents", .ofNat s.documents), ("refused", .ofNat s.refused),
      ("rejected_batches", .ofNat s.rejectedBatches), ("failed_responses", .ofNat s.failedResponses)]
  return (.obj [("stats", .arr stats), ("elapsed_ms", .ofNat end_.now), ("log", .arr notes.log.toList),
    ("responses", .arr (end_.rest.delivered.toList.map deliveryInfo))], end_.rest.fx.events)

end Service

end DocBatch
