import DocBatch.Database.Basic

/-!
# Queues of the database

A queue numbers its messages from 1 in the order they are sent. Reading takes the visible
message of lowest number, counts the read and sets the message's visibility offset; an
empty read gives nothing. Archiving moves a message to the queue's archive, and setting the
visibility offset makes a message visible again (or not) after that many seconds; either
call on a number the queue does not hold does nothing. Creating a queue that exists does
nothing.

Every call needs the queue extension, and every call but creation needs its queue.
-/

namespace DocBatch

namespace Database

/-- The queue of a name, if it exists. -/
def queue? (db : Database) (name : String) : Option MessageQueue :=
  (db.queues.find? (·.1 == name)).map (·.2)

/-- Replaces the queue of a name, as a change. -/
def setQueue (db : Database) (name : String) (q : MessageQueue) : Database :=
  { db with queues := db.queues.map (fun (n, old) => if n == name then (n, q) else (n, old)),
            version := db.version + 1 }

/-- Fails if the call is made to fail or the extension does not exist. -/
def guardExtension (db : Database) (c : Call) : Except Error Unit := do
  db.guard c
  if !db.extension then throw (fault "schema \"pgmq\" does not exist")

/-- The queue a call needs, or why the call fails. -/
def needQueue (db : Database) (c : Call) (name : String) : Except Error MessageQueue := do
  db.guardExtension c
  match db.queue? name with
  | some q => return q
  | none => throw (fault ("relation \"pgmq.q_" ++ name ++ "\" does not exist"))

/-- Creates a queue unless it exists. -/
def createQueue (db : Database) (name : String) : Except Error Database := do
  db.guardExtension .create
  match db.queue? name with
  | some _ => return db
  | none => return { db with queues := db.queues ++ [(name, {})], version := db.version + 1 }

/-- Setting a queue replaces the queue of that name, if there is one, and keeps the others. -/
theorem queue?_setQueue (db : Database) (name : String) (q : MessageQueue) (key : String) :
    (db.setQueue name q).queue? key =
      if key = name then (db.queue? key).map fun _ => q else db.queue? key := by
  have hkey : ((fun x : String × MessageQueue => x.1 == key) ∘
      fun x : String × MessageQueue => if (x.1 == name) = true then (x.1, q) else (x.1, x.2)) =
        fun x => x.1 == key := by
    funext x
    simp only [Function.comp_apply]
    split <;> rfl
  simp only [queue?, setQueue, List.find?_map, hkey, Option.map_map]
  split <;>
  · apply Option.map_congr
    intro x hx
    have hx : x.1 = key := by simpa using List.find?_some hx
    simp_all

theorem queue?_setQueue_of_eq {db : Database} {name : String} {q₀ : MessageQueue} (q : MessageQueue)
    (h : db.queue? name = some q₀) (key : String) :
    (db.setQueue name q).queue? key = if key = name then some q else db.queue? key := by
  rw [queue?_setQueue]
  split
  · subst key
    simp [h]
  · rfl

theorem needQueue_eq_ok {db : Database} {c : Call} {name : String} {q : MessageQueue}
    (h : db.needQueue c name = .ok q) : db.queue? name = some q := by
  unfold needQueue at h
  cases hg : db.guardExtension c with
  | error e => simp [hg, bind, Except.bind] at h
  | ok u =>
    cases hq : db.queue? name <;> simp_all [bind, Except.bind, pure, Except.pure, throw, throwThe,
      MonadExceptOf.throw]

end Database

namespace MessageQueue

/-- Adds a message under the next number. -/
def push (q : MessageQueue) (body : Json.Value) : Nat × MessageQueue :=
  let id := q.lastId + 1
  (id, { q with messages := q.messages ++ [{ id := id, body := body }], lastId := id })

/-- Reads the visible message of lowest number, counting the read, setting its offset and
holding it. -/
def take (q : MessageQueue) (offset : Int) : Option QueueMessage × MessageQueue :=
  match q.messages.find? QueueMessage.visible with
  | none => (none, q)
  | some m =>
    let m := { m with readCount := m.readCount + 1, offset := offset, held := true }
    (some m, { q with messages := q.messages.map fun x => if x.id == m.id then m else x })

/-- Puts a message into a list ordered by number, before the first of a larger number. -/
def insertOrdered (m : QueueMessage) : List QueueMessage → List QueueMessage
  | [] => [m]
  | x :: rest => if m.id < x.id then m :: x :: rest else x :: insertOrdered m rest

/-- Moves a message to the archive. -/
def archiveMessage (q : MessageQueue) (id : Nat) : MessageQueue :=
  match q.messages.find? (·.id == id) with
  | none => q
  | some m => { q with messages := q.messages.filter (·.id != id), archive := insertOrdered m q.archive }

/-- Sets the visibility offset of a message, releasing it. -/
def release (q : MessageQueue) (id : Nat) (offset : Int) : MessageQueue :=
  { q with messages := q.messages.map fun m => if m.id == id then { m with offset := offset, held := false } else m }

theorem take_visible (q : MessageQueue) (offset : Int) (m : QueueMessage) (h : (q.take offset).1 = some m) :
    ∃ x ∈ q.messages, x.visible ∧ m = { x with readCount := x.readCount + 1, offset := offset, held := true } := by
  unfold take at h
  split at h
  · simp at h
  · rename_i x hx
    simp only [Option.some.injEq] at h
    exact ⟨x, List.mem_of_find?_eq_some hx, List.find?_some hx, h.symm⟩

end MessageQueue

namespace Database

/-- Sends a message; its number. -/
def send (db : Database) (name : String) (body : Json.Value) : Except Error (Nat × Database) := do
  let q ← db.needQueue .send name
  let (id, q) := q.push body
  return (id, db.setQueue name q)

/-- Reads the next visible message, setting its offset to `offset`; the read is counted
even when it fails. -/
def read (db : Database) (name : String) (offset : Int) : Except Error (Option QueueMessage) × Database :=
  let db := { db with reads := db.reads + 1 }
  match db.needQueue .read name with
  | .error e => (.error e, db)
  | .ok q =>
    match q.take offset with
    | (none, _) => (.ok none, db)
    | (some m, q) => (.ok (some m), db.setQueue name q)

/-- Archives a message. -/
def archive (db : Database) (name : String) (id : Int) : Except Error Database :=
  (db.needQueue .archive name).map fun q => db.setQueue name (q.archiveMessage id.toNat)

/-- Sets the visibility offset of a message. -/
def release (db : Database) (name : String) (id : Int) (offset : Int) : Except Error Database :=
  (db.needQueue .setVisibility name).map fun q => db.setQueue name (q.release id.toNat offset)

/-! Each call changes at most the queue it names, in the way below. -/

/-- A message sent goes to the end of its queue, under the queue's next number. -/
theorem send_eq_ok {db db' : Database} {name : String} {body : Json.Value} {n : Nat}
    (h : db.send name body = .ok (n, db')) :
    ∃ q, db.queue? name = some q ∧ n = (q.push body).1 ∧
      ∀ key, db'.queue? key = if key = name then some (q.push body).2 else db.queue? key := by
  unfold send at h
  cases hq : db.needQueue .send name with
  | error e => simp [hq, bind, Except.bind] at h
  | ok q =>
    simp only [hq, bind, Except.bind, pure, Except.pure, Except.ok.injEq, Prod.mk.injEq] at h
    obtain ⟨rfl, rfl⟩ := h
    exact ⟨q, needQueue_eq_ok hq, rfl, queue?_setQueue_of_eq _ (needQueue_eq_ok hq)⟩

/-- A read that gives a message takes it from its queue. -/
theorem read_eq_some {db db' : Database} {name : String} {offset : Int} {m : QueueMessage}
    (h : db.read name offset = (.ok (some m), db')) :
    ∃ q q', db.queue? name = some q ∧ q.take offset = (some m, q') ∧
      ∀ key, db'.queue? key = if key = name then some q' else db.queue? key := by
  simp only [read] at h
  split at h
  · cases h
  · rename_i q hq
    split at h
    · cases h
    · rename_i m' q' ht
      simp only [Prod.mk.injEq, Except.ok.injEq, Option.some.injEq] at h
      obtain ⟨rfl, rfl⟩ := h
      have hq' : db.queue? name = some q := needQueue_eq_ok hq
      exact ⟨q, q', hq', ht, queue?_setQueue_of_eq _ hq'⟩

/-- A read that gives no message changes no queue; it is only counted. -/
theorem read_queue?_of_none {db db' : Database} {name : String} {offset : Int}
    {r : Except Error (Option QueueMessage)} (h : db.read name offset = (r, db'))
    (hr : ∀ m, r ≠ .ok (some m)) (key : String) : db'.queue? key = db.queue? key := by
  simp only [read] at h
  split at h
  · cases h
    rfl
  · split at h
    · cases h
      rfl
    · cases h
      exact absurd rfl (hr _)

theorem archive_eq_ok {db db' : Database} {name : String} {id : Int}
    (h : db.archive name id = .ok db') :
    ∃ q, db.queue? name = some q ∧
      ∀ key, db'.queue? key = if key = name then some (q.archiveMessage id.toNat) else db.queue? key := by
  unfold archive at h
  cases hq : db.needQueue .archive name with
  | error e => simp [hq, Except.map] at h
  | ok q =>
    simp only [hq, Except.map, Except.ok.injEq] at h
    subst h
    exact ⟨q, needQueue_eq_ok hq, queue?_setQueue_of_eq _ (needQueue_eq_ok hq)⟩

theorem release_eq_ok {db db' : Database} {name : String} {id : Int} {offset : Int}
    (h : db.release name id offset = .ok db') :
    ∃ q, db.queue? name = some q ∧
      ∀ key, db'.queue? key = if key = name then some (q.release id.toNat offset) else db.queue? key := by
  unfold release at h
  cases hq : db.needQueue .setVisibility name with
  | error e => simp [hq, Except.map] at h
  | ok q =>
    simp only [hq, Except.map, Except.ok.injEq] at h
    subst h
    exact ⟨q, needQueue_eq_ok hq, queue?_setQueue_of_eq _ (needQueue_eq_ok hq)⟩

end Database

end DocBatch
