import DocBatch.Schedule.Proc

/-!
# The scheduler

`Schedule.run` interleaves processes on one thread and a virtual clock, the way a
single-threaded cooperative runtime does. The main processes, numbered from 0, make up one
unit that runs them all in order each time one of them is woken, the way a join of several
computations inside one task does: the run ends when all of them have ended. The others are
spawned: they run while the main processes live.

The rules of interleaving, which fix every order that a run can show:

* A process runs until it waits for something that is not there yet; steps between two waits
  are never interleaved with another process.
* A process that can go on is woken. When a main process is woken, every main process that
  has not ended runs, in order, before anything else; the others run in the order they were
  woken, each at most once per wake.
* When nothing can run, the clock jumps to the earliest timer and every timer due fires, in
  the order of their deadlines and, for one deadline, the order in which they were set.
* The channel's lock is fair: it passes to the processes waiting for it in the order they
  asked. Room freed in a full channel goes to the process waiting to send.
* A wait that may give way to the shutdown signal looks at the signal first, each time its
  process runs.
-/

namespace DocBatch

namespace Schedule

/-- Where a process stands in a pull from the channel. -/
inductive Phase where
  /-- Waiting for the channel's lock. -/
  | lock
  /-- Holding the lock, waiting for a task. -/
  | receive
  deriving Repr, DecidableEq, Inhabited

/-- A process as the scheduler holds it. -/
structure Thread (ε : Type) where
  proc : Act ε Unit
  phase : Phase := .lock
  /-- The number of the timer it set for its current wait, if any. -/
  timer : Option Nat := none

/-- A timer: its deadline, its number (the order in which timers were set) and its process. -/
structure Timer where
  deadline : Nat
  number : Nat
  thread : Nat
  deriving Repr, Inhabited

/-- The state of a run. -/
structure State (ε : Type) where
  shared : Shared ε
  threads : Array (Thread ε)
  /-- Spawned processes woken and not yet run, in order. -/
  ready : List Nat := []
  /-- How many main processes there are: those numbered below it. -/
  mains : Nat := 1
  /-- Whether a main process is woken. -/
  mainWoken : Bool := true
  /-- Timers set, by deadline and then by number. -/
  timers : List Timer := []
  /-- The number of the next timer. -/
  nextTimer : Nat := 0
  /-- The process holding the channel's lock. -/
  holder : Option Nat := none
  /-- Processes waiting for the lock, in order. -/
  lockQueue : List Nat := []
  /-- The process waiting for a task, holding the lock. -/
  receiver : Option Nat := none
  /-- Processes waiting for room in the channel. -/
  senders : List Nat := []
  /-- Processes waiting for the shutdown signal, in order. -/
  watchers : List Nat := []

namespace State

variable {ε : Type}

/-- Wakes a process. -/
def wake (i : Nat) (s : State ε) : State ε :=
  if i < s.mains then { s with mainWoken := true }
  else if s.ready.contains i then s
  else { s with ready := s.ready ++ [i] }

/-- Wakes processes in order. -/
def wakeAll (is : List Nat) (s : State ε) : State ε := is.foldl (fun s i => s.wake i) s

/-- The process numbered `i`. -/
def thread (s : State ε) (i : Nat) : Option (Thread ε) := s.threads[i]?

/-- Changes the process numbered `i`. -/
def setThread (i : Nat) (f : Thread ε → Thread ε) (s : State ε) : State ε :=
  { s with threads := s.threads.modify i f }

/-- Places a timer among the timers, after those due no later. -/
def insertTimer (t : Timer) : List Timer → List Timer
  | [] => [t]
  | u :: rest => if t.deadline < u.deadline then t :: u :: rest else u :: insertTimer t rest

/-- Removes the timer of a process. -/
def dropTimer (i : Nat) (s : State ε) : State ε :=
  { (s.setThread i fun t => { t with timer := none }) with timers := s.timers.filter (·.thread != i) }

/-- Sets a timer for a process, unless it has one. -/
def ensureTimer (i : Nat) (deadline : Nat) (s : State ε) : State ε :=
  match s.thread i with
  | some { timer := some _, .. } => s
  | _ =>
    { (s.setThread i fun t => { t with timer := some s.nextTimer }) with
      timers := insertTimer ⟨deadline, s.nextTimer, i⟩ s.timers
      nextTimer := s.nextTimer + 1 }

/-- Lets go of the channel's lock, which passes to the first process waiting for it. -/
def release (i : Nat) (s : State ε) : State ε :=
  if s.holder = some i then
    match s.lockQueue with
    | j :: rest => ({ s with holder := some j, lockQueue := rest }).wake j
    | [] => { s with holder := none }
  else s

/-- Forgets everything a process was waiting for. -/
def cleanup (i : Nat) (s : State ε) : State ε :=
  let s := (s.dropTimer i).release i
  let s := { s with lockQueue := s.lockQueue.filter (· != i), senders := s.senders.filter (· != i),
                    watchers := s.watchers.filter (· != i),
                    receiver := if s.receiver = some i then none else s.receiver }
  s.setThread i fun t => { t with phase := .lock }

/-- Adds a process to a queue unless it is in it. -/
def enqueue (i : Nat) (q : List Nat) : List Nat := if q.contains i then q else q ++ [i]

/-- The receiving half of a pull: a task, the channel closed, or the deadline passed. -/
def receive (i deadline : Nat) (s : State ε) : Option Woken × State ε :=
  match s.shared.inbox with
  | t :: rest =>
    let s := { s with shared := { s.shared with inbox := rest } }
    let s := match s.senders with
      | j :: _ => s.wake j
      | [] => s
    (some (.task t), s.release i)
  | [] =>
    if s.shared.closed then (some .closed, s.release i)
    else if deadline ≤ s.shared.now then (some .elapsed, s.release i)
    else (none, ({ s with receiver := some i }).ensureTimer i deadline)

/-- A pull: the lock first (in turn), then a task, before the deadline. -/
def pull (i deadline : Nat) (s : State ε) : Option Woken × State ε :=
  match s.thread i with
  | some { phase := .receive, .. } => s.receive i deadline
  | _ =>
    if s.holder = some i || s.holder = none then
      let s := ({ s with holder := some i }).dropTimer i
      (s.setThread i fun t => { t with phase := .receive }).receive i deadline
    else if deadline ≤ s.shared.now then
      (some .elapsed, { s with lockQueue := s.lockQueue.filter (· != i) })
    else (none, ({ s with lockQueue := enqueue i s.lockQueue }).ensureTimer i deadline)

/-- Whether a wait is over; if not, the process is registered for what it waits for. -/
def attempt (i : Nat) : Wait → State ε → Option Woken × State ε
  | .sleep t, s =>
    if t ≤ s.shared.now then (some .elapsed, s) else (none, s.ensureTimer i t)
  | .send task, s =>
    if s.shared.inbox.length < s.shared.capacity then
      let s := { s with shared := { s.shared with inbox := s.shared.inbox ++ [task] } }
      let s := match s.receiver with
        | some j => s.wake j
        | none => s
      (some .sent, s)
    else (none, { s with senders := enqueue i s.senders })
  | .pull deadline, s => s.pull i deadline
  | .orShutdown w, s =>
    if s.shared.shutdown then (some .shutdown, s)
    else
      match attempt i w s with
      | (some r, s) => (some r, s)
      | (none, s) => (none, { s with watchers := enqueue i s.watchers })

/-- Wakes those waiting for what a step changed: the shutdown signal, or the channel
closing. -/
def afterStep (before : Shared ε) (s : State ε) : State ε :=
  let s := if !before.shutdown && s.shared.shutdown then s.wakeAll s.watchers else s
  if !before.closed && s.shared.closed then
    match s.receiver with
    | some j => s.wake j
    | none => s
  else s

/-- The most steps a process takes between two waits. -/
def stepLimit : Nat := 1000000

/-- Runs process `i` until it waits or ends; `fuel` bounds its steps. -/
def poll (i : Nat) : Nat → State ε → State ε
  | 0, s => s
  | fuel + 1, s =>
    match s.thread i with
    | none => s
    | some th =>
      match th.proc with
      | .done _ => s
      | .step f k =>
        let before := s.shared
        let (b, shared) := f s.shared
        let s := afterStep before { s with shared := shared }
        poll i fuel (s.setThread i fun t => { t with proc := k b })
      | .wait w k =>
        match attempt i w s with
        | (some r, s) => poll i fuel ((s.cleanup i).setThread i fun t => { t with proc := k r })
        | (none, s) => s
      | .loop b body k => poll i fuel (s.setThread i fun t => { t with proc := Proc.unroll b body k })

/-- True when a process has ended. -/
def ended (s : State ε) (i : Nat) : Bool :=
  match s.thread i with
  | some { proc := .done _, .. } => true
  | _ => false

/-- True when every main process has ended. -/
def mainDone (s : State ε) : Bool := (List.range s.mains).all s.ended

/-- Runs every main process that has not ended, in order. -/
def pollMains (s : State ε) : State ε :=
  (List.range s.mains).foldl (fun s i => if s.ended i then s else poll i stepLimit s) s

/-- Fires every timer due, in order. -/
def fireDue (s : State ε) : State ε :=
  let due := s.timers.filter (·.deadline ≤ s.shared.now)
  let s := { s with timers := s.timers.filter (s.shared.now < ·.deadline) }
  due.foldl (fun s t => (s.setThread t.thread fun th => { th with timer := none }).wake t.thread) s

/-- Runs woken spawned processes, at most `n`; also says whether none is left. -/
def runReady : Nat → State ε → State ε × Bool
  | 0, s => (s, s.ready.isEmpty)
  | n + 1, s =>
    match s.ready with
    | [] => (s, true)
    | i :: rest => runReady n (poll i stepLimit { s with ready := rest })

/-- How many spawned processes run before timers are looked at again. -/
def burst : Nat := 61

/-- One round: the main processes if woken, then woken spawned processes, then the clock.
The flag is false when the run is over: the main processes ended, or nothing can ever run
again. -/
def round (s : State ε) : State ε × Bool :=
  let s := if s.mainWoken then pollMains { s with mainWoken := false } else s
  if s.mainDone then (s, false)
  else
    let (s, idle) := runReady burst s
    if !idle || s.mainWoken then (s.fireDue, true)
    else
      match s.timers with
      | [] => (s, false)
      | t :: _ => (({ s with shared := { s.shared with now := max s.shared.now t.deadline } }).fireDue, true)

/-- Runs rounds until the run is over; `fuel` bounds the rounds. -/
def runFor : Nat → State ε → State ε
  | 0, s => s
  | fuel + 1, s =>
    match s.round with
    | (s, true) => runFor fuel s
    | (s, false) => s

end State

/-- The most rounds of a run. -/
def roundLimit : Nat := 10000000

/-- Runs main processes with spawned ones, from a shared state, until the main processes
end; the shared state at that moment. -/
def run {ε : Type} (shared : Shared ε) (mains spawned : List (Act ε Unit)) : Shared ε :=
  let threads := ((mains ++ spawned).map fun p => ({ proc := p } : Thread ε)).toArray
  let s : State ε := { shared := shared, threads := threads, mains := mains.length,
                       ready := (List.range spawned.length).map (· + mains.length) }
  (State.runFor roundLimit s).shared

end Schedule

end DocBatch
