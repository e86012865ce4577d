import Mathlib.Tactic.Common
import DocBatch.Store.Memory
import DocBatch.Database.Values

/-!
# Content-addressed stores

Both value stores of the worker keep octets under their content address and keep the first
octets stored there: storing them again changes nothing. This module follows a sequence of
calls on a store (`StoreCall.runAll`) and says what each call answers:

* a store answers the content address of its octets, whatever the store holds: the lowercase
  hexadecimal BLAKE3 hash (`Blake3.hex_isDigest`), after the hint and a slash when the hint is
  not empty;
* a lookup answers the octets first stored under the reference, before the calls or by one of
  them (`StoreCall.firstStored`), and `notFound` with the reference when there are none.

The memory store does exactly this. The database does the same on the same calls as long as
its value table exists and neither of its two value calls is made to fail: it then answers as
the memory store holding the same values (`Database.ServesAs`), and goes on holding the same
values after every call.

The main statement is `contentAddressed_calls`.
-/

namespace DocBatch

/-! ## The digest -/

namespace Blake3

/-- A lowercase hexadecimal digit. -/
def isLowerHexDigit (c : Char) : Bool := c.isDigit || ('a' ≤ c && c ≤ 'f')

/-- Text that can be a digest: sixty-four lowercase hexadecimal digits. -/
def IsDigest (t : String) : Prop := t.length = 64 ∧ ∀ c ∈ t.toList, isLowerHexDigit c = true

theorem hexDigit_isLowerHexDigit : ∀ n, n < 16 → isLowerHexDigit (hexDigit n) = true := by
  decide

theorem compress_size (cv : List UInt32) (block : Array UInt32) (counter len : Nat) (flags : UInt32) :
    (compress cv block counter len flags).size = 16 := by
  simp [compress]

theorem hash_length (bs : Bytes) : (hash bs).length = 32 := by
  simp [hash, List.length_flatMap, List.map_const', compress_size]

theorem hexOf_toList (bs : Bytes) :
    (hexOf bs).toList = bs.flatMap fun b => [hexDigit (b.toNat / 16), hexDigit (b.toNat % 16)] := by
  simp [hexOf]

/-- The hash is written as sixty-four lowercase hexadecimal digits. -/
theorem hex_isDigest (bs : Bytes) : IsDigest (hex bs) := by
  refine ⟨?_, ?_⟩
  · rw [← String.length_toList, hex, hexOf_toList, List.length_flatMap]
    simp [List.map_const', hash_length]
  · intro c hc
    rw [hex, hexOf_toList, List.mem_flatMap] at hc
    obtain ⟨b, -, hb⟩ := hc
    have hlt : b.toNat < 256 := b.toNat_lt
    simp only [List.mem_cons, List.not_mem_nil, or_false] at hb
    rcases hb with rfl | rfl
    · exact hexDigit_isLowerHexDigit _ (by omega)
    · exact hexDigit_isLowerHexDigit _ (by omega)

end Blake3

/-! ## Calls on a store -/

/-- A call on a value store. -/
inductive StoreCall where
  /-- Keep octets, with an optional hint for the reference. -/
  | store (data : Bytes) (hint : Option String)
  /-- Look up the octets under a reference. -/
  | retrieve (reference : String)

/-- What a call on a value store answers. -/
inductive StoreAnswer where
  | stored (reference : Except Error String)
  | retrieved (data : Except Error Bytes)

namespace StoreCall

section
variable {σ : Type} [ValueStore σ]

/-- Makes a call on a store; its answer and the store after it. -/
def run (s : σ) : StoreCall → StoreAnswer × σ
  | .store d hint => let (r, s) := ValueStore.put s d hint; (.stored r, s)
  | .retrieve r => (.retrieved (ValueStore.get s r), s)

/-- Makes calls on a store in order; their answers and the store after them. -/
def runAll (s : σ) : List StoreCall → List StoreAnswer × σ
  | [] => ([], s)
  | c :: cs => let (a, s) := c.run s; let (as, s) := runAll s cs; (a :: as, s)

@[simp] theorem runAll_nil (s : σ) : runAll s [] = ([], s) := rfl

@[simp] theorem runAll_cons (s : σ) (c : StoreCall) (cs : List StoreCall) :
    runAll s (c :: cs) = ((c.run s).1 :: (runAll (c.run s).2 cs).1, (runAll (c.run s).2 cs).2) := rfl

end

/-- The octets a call stores under a reference, if it stores there. -/
def storedUnder (reference : String) : StoreCall → Option Bytes
  | .store d hint => if contentAddress d hint = reference then some d else none
  | .retrieve _ => none

/-- The octets first stored under a reference by some calls, if any. -/
def firstStored (cs : List StoreCall) (reference : String) : Option Bytes :=
  cs.findSome? (storedUnder reference)

@[simp] theorem firstStored_nil (reference : String) : firstStored [] reference = none := rfl

@[simp] theorem firstStored_cons (c : StoreCall) (cs : List StoreCall) (reference : String) :
    firstStored (c :: cs) reference = (c.storedUnder reference).or (firstStored cs reference) := by
  simp only [firstStored, List.findSome?_cons]
  cases c.storedUnder reference <;> rfl

/-- The answer a content-addressed store owes a call when it holds `held`: the content address
for a store, the octets held under the reference for a lookup, or `notFound`. -/
def expected (held : String → Option Bytes) : StoreCall → StoreAnswer
  | .store d hint => .stored (.ok (contentAddress d hint))
  | .retrieve r => .retrieved (match held r with
    | some d => .ok d
    | none => .error (.notFound r))

end StoreCall

/-! ## The memory store -/

namespace MemoryStore

variable (s : MemoryStore) (d : Bytes) (hint : Option String)

theorem insert_fst : (s.insert d hint).1 = contentAddress d hint := by
  unfold insert
  dsimp only
  split <;> rfl

theorem insert_of_isSome (h : (s.find? (contentAddress d hint)).isSome) : (s.insert d hint).2 = s := by
  obtain ⟨bs, hbs⟩ := Option.isSome_iff_exists.1 h
  simp [insert, hbs]

theorem insert_of_none (h : s.find? (contentAddress d hint) = none) :
    (s.insert d hint).2 = { entries := s.entries ++ [(contentAddress d hint, d)] } := by
  simp [insert, h]

/-- After a store, a reference holds what it held, or else what the store put there. -/
theorem find?_insert_snd (r : String) :
    (s.insert d hint).2.find? r = (s.find? r).or ((StoreCall.store d hint).storedUnder r) := by
  cases hfind : s.find? (contentAddress d hint) with
  | some bs =>
      rw [insert_of_isSome s d hint (by simp [hfind])]
      by_cases hr : contentAddress d hint = r
      · subst hr
        simp [hfind]
      · simp [StoreCall.storedUnder, hr]
  | none =>
      rw [insert_of_none s d hint hfind]
      by_cases hr : contentAddress d hint = r
      · subst hr
        simp only [find?, Option.map_eq_none_iff] at hfind
        simp [find?, List.find?_append, hfind, StoreCall.storedUnder]
      · simp [find?, List.find?_append, StoreCall.storedUnder, hr]

theorem put_eq : ValueStore.put s d hint = (.ok (contentAddress d hint), (s.insert d hint).2) := by
  show (Except.ok (s.insert d hint).1, (s.insert d hint).2) = _
  rw [insert_fst]

theorem get_eq (r : String) :
    ValueStore.get s r = match s.find? r with
      | some bs => .ok bs
      | none => .error (.notFound r) := rfl

/-- A call on the memory store answers what a content-addressed store holding its values owes. -/
theorem run_call (c : StoreCall) : (c.run s).1 = c.expected s.find? := by
  cases c with
  | store d hint => simp [StoreCall.run, StoreCall.expected, put_eq]
  | retrieve r => simp only [StoreCall.run, StoreCall.expected, get_eq]

theorem find?_run (c : StoreCall) (r : String) : (c.run s).2.find? r = (s.find? r).or (c.storedUnder r) := by
  cases c with
  | store d hint => simp [StoreCall.run, put_eq, find?_insert_snd]
  | retrieve r' => simp [StoreCall.run, StoreCall.storedUnder]

/-- After some calls, a reference holds what it held before them, or else the octets the first
call that stored there stored. -/
theorem find?_runAll (cs : List StoreCall) (r : String) :
    (StoreCall.runAll s cs).2.find? r = (s.find? r).or (StoreCall.firstStored cs r) := by
  induction cs generalizing s with
  | nil => simp
  | cons c cs ih => simp [ih, find?_run, Option.or_assoc]

/-- The `i`-th call answers what the store owes it after the calls before it. -/
theorem runAll_getElem? (cs : List StoreCall) (i : Nat) (c : StoreCall) (hc : cs[i]? = some c) :
    (StoreCall.runAll s cs).1[i]? =
      some (c.expected fun r => (s.find? r).or (StoreCall.firstStored (cs.take i) r)) := by
  induction cs generalizing s i with
  | nil => simp at hc
  | cons c₀ cs ih =>
      cases i with
      | zero =>
          obtain rfl : c₀ = c := by simpa using hc
          simp [run_call]
      | succ i =>
          rw [StoreCall.runAll_cons, List.getElem?_cons_succ, ih _ i (by simpa using hc)]
          simp [find?_run, Option.or_assoc]

end MemoryStore

/-! ## The database's value table -/

namespace Database

/-- The database serves values as the memory store `m` does: its value table exists, neither
value call is made to fail, and it holds the same values. -/
structure ServesAs (db : Database) (m : MemoryStore) : Prop where
  table : db.valuesTable = true
  storeOk : db.failure? .storeValue = none
  retrieveOk : db.failure? .retrieveValue = none
  values : db.values = m.entries

variable {db : Database} {m : MemoryStore}

theorem ServesAs.guardValues_ok {c : Call} (h : db.ServesAs m) (hc : db.failure? c = none) :
    db.guardValues c = .ok () := by
  unfold guardValues guard
  simp [hc, h.table]

theorem ServesAs.value? (h : db.ServesAs m) (r : String) : db.value? r = m.find? r := by
  simp [Database.value?, MemoryStore.find?, h.values]

/-- A store in the database answers as the memory store does, and leaves the same values. -/
theorem ServesAs.put (h : db.ServesAs m) (d : Bytes) (hint : Option String) :
    (ValueStore.put db d hint).1 = (ValueStore.put m d hint).1 ∧
      (ValueStore.put db d hint).2.ServesAs (ValueStore.put m d hint).2 := by
  rw [MemoryStore.put_eq]
  cases hfind : m.find? (contentAddress d hint) with
  | some bs =>
      have hdb : db.storeValue d hint = .ok (contentAddress d hint, db) := by
        simp [storeValue, h.guardValues_ok h.storeOk, h.value?, hfind]
      rw [MemoryStore.insert_of_isSome m d hint (by simp [hfind])]
      constructor
      · simp [ValueStore.put, hdb]
      · simpa [ValueStore.put, hdb] using h
  | none =>
      have hdb : db.storeValue d hint = .ok (contentAddress d hint,
          { db with values := db.values ++ [(contentAddress d hint, d)], version := db.version + 1 }) := by
        simp [storeValue, h.guardValues_ok h.storeOk, h.value?, hfind]
      constructor
      · simp [ValueStore.put, hdb]
      · simp only [ValueStore.put, hdb, MemoryStore.insert_of_none m d hint hfind]
        exact ⟨h.table, h.storeOk, h.retrieveOk, by simp [h.values]⟩

theorem ServesAs.get (h : db.ServesAs m) (r : String) : ValueStore.get db r = ValueStore.get m r := by
  rw [MemoryStore.get_eq]
  cases hfind : m.find? r with
  | some bs =>
      have hdb : db.retrieveValue r = .ok bs := by
        simp [retrieveValue, h.guardValues_ok h.retrieveOk, h.value?, hfind]
      simp [ValueStore.get, hdb]
  | none =>
      have hdb : db.retrieveValue r = .error (.notFound r) := by
        simp [retrieveValue, h.guardValues_ok h.retrieveOk, h.value?, hfind]
        rfl
      simp [ValueStore.get, hdb]

/-- On the same calls the database answers as the memory store, and they keep the same values. -/
theorem ServesAs.runAll (h : db.ServesAs m) (cs : List StoreCall) :
    (StoreCall.runAll db cs).1 = (StoreCall.runAll m cs).1 ∧
      (StoreCall.runAll db cs).2.ServesAs (StoreCall.runAll m cs).2 := by
  induction cs generalizing db m with
  | nil => exact ⟨rfl, h⟩
  | cons c cs ih =>
      have hc : (c.run db).1 = (c.run m).1 ∧ (c.run db).2.ServesAs (c.run m).2 := by
        cases c with
        | store d hint => exact ⟨by simp [StoreCall.run, (h.put d hint).1], (h.put d hint).2⟩
        | retrieve r => exact ⟨by simp [StoreCall.run, h.get r], h⟩
      obtain ⟨hans, hrest⟩ := ih hc.2
      simp [hc.1, hans, hrest]

end Database

/-- Every call on the memory store, whatever it holds, gets what a content-addressed store owes
it: a store the content address of its octets, which ends in their digest, leaving the store as
it is when that address is taken; a lookup the octets first stored under the reference, or
`notFound`. The database, while its value table exists and neither value call is made to fail,
gives the same answers to the same calls as the memory store holding the same values. -/
theorem contentAddressed_calls (m : MemoryStore) (db : Database) (cs : List StoreCall)
    (hdb : db.ServesAs m) :
    (∀ d hint, (ValueStore.put m d hint).1 = .ok (contentAddress d hint) ∧
      Blake3.IsDigest (Blake3.hex d) ∧
      ((m.find? (contentAddress d hint)).isSome → (ValueStore.put m d hint).2 = m)) ∧
    (∀ i (c : StoreCall), cs[i]? = some c →
      (StoreCall.runAll m cs).1[i]? =
        some (c.expected fun r => (m.find? r).or (StoreCall.firstStored (cs.take i) r))) ∧
    (StoreCall.runAll db cs).1 = (StoreCall.runAll m cs).1 := by
  refine ⟨fun d hint => ⟨by rw [MemoryStore.put_eq], Blake3.hex_isDigest d, fun htaken => ?_⟩,
    MemoryStore.runAll_getElem? m cs, (hdb.runAll cs).1⟩
  rw [MemoryStore.put_eq, MemoryStore.insert_of_isSome m d hint htaken]

/-- A fresh database with its value table answers, on a store and a lookup, as a fresh memory
store does. -/
theorem contentAddressed_calls_fresh :
    Database.ServesAs { valuesTable := true } {} ∧
      (StoreCall.runAll ({ valuesTable := true } : Database)
          [.store [104, 105] (some "test"), .retrieve "test/0000"]).1 =
        (StoreCall.runAll ({} : MemoryStore) [.store [104, 105] (some "test"), .retrieve "test/0000"]).1 :=
  have h : Database.ServesAs { valuesTable := true } {} := ⟨rfl, rfl, rfl, rfl⟩
  ⟨h, (contentAddressed_calls {} _ _ h).2.2⟩

end DocBatch
