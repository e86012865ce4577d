import Mathlib.Tactic.Common
import DocBatch.Proofs.Text.Canonical
import DocBatch.Proofs.Document.Frame
import DocBatch.Proofs.Store.ContentAddressed

/-!
# What a field value holds, and what adding one leaves

An inline value holds its octets exactly:

* `FieldValue.binary_round_trip`: a binary value gives back its octets, reads as text exactly
  when they are the UTF-8 of that text, and a base64 value whose octets can be read is the
  binary value of those octets, letter for letter (base64 has one written form per octet
  string, `Base64.encode_of_decode`); and any inline value that reads as text holds that
  text's UTF-8.

Adding a text or octets to a field appends exactly one value, whatever the value store
answers (`Document.add_appends_one_value`). Within the inline threshold the store is not
called. Past it, the octets are offered to the store: the calls go on until the first success
and stop after `min (storeRetries + 1) attemptLimit` failures (`Offered`, in terms of the
answers `ValueStore.putMany` lists), and the value is a reference to what the success stored,
or the inline value when every call failed. With the memory store, the value added loads back
as the octets, provided their content address held no other octets.

`addText` and `addBytes` are the one function `Document.addValue` at two inline values, so
each statement is proved once, of `addValue`.
-/

namespace DocBatch

namespace FieldValue

@[simp] theorem bytes_binary (bs : Bytes) : (binary bs).bytes = .ok bs := by
  simp only [binary, bytes, Base64.decode_encode]

@[simp] theorem stringValue?_binary (bs : Bytes) : (binary bs).stringValue? = Utf8.decode? bs := by
  simp only [binary, stringValue?, Base64.decode_encode]

@[simp] theorem bytes_text (s : String) : (text s).bytes = .ok (Utf8.encode s) := rfl

/-- A base64 value whose octets can be read is the binary value of those octets. -/
theorem binary_of_bytes {s : String} {bs : Bytes} (h : (⟨s, .base64⟩ : FieldValue).bytes = .ok bs) :
    binary bs = ⟨s, .base64⟩ := by
  simp only [bytes] at h
  split at h
  · rename_i bs' hdec
    cases h
    rw [binary, Base64.encode_of_decode hdec]
  · cases h

/-- An inline value that reads as text holds the UTF-8 of that text: both readings decode the
same octets. -/
theorem bytes_of_stringValue? {v : FieldValue} {t : String} (h : v.stringValue? = some t) :
    v.bytes = .ok (Utf8.encode t) := by
  obtain ⟨data, encoding⟩ := v
  cases encoding with
  | utf8 =>
    cases h
    rfl
  | base64 =>
    simp only [stringValue?] at h
    split at h
    · rename_i bs hdec
      simp only [bytes, hdec]
      rw [Utf8.decode?_eq_some_iff.1 h]
    · cases h
  | storageRef => cases h

theorem referenceStr?_eq_none_of_bytes {v : FieldValue} {bs : Bytes} (h : v.bytes = .ok bs) :
    v.referenceStr? = none := by
  obtain ⟨data, encoding⟩ := v
  cases encoding with
  | utf8 | base64 => rfl
  | storageRef => cases h

theorem binary_round_trip (bs : Bytes) (s : String) :
    (binary bs).bytes = .ok bs ∧
    ((binary bs).stringValue? = some s ↔ Utf8.encode s = bs) ∧
    ((⟨s, .base64⟩ : FieldValue).bytes = .ok bs → binary bs = ⟨s, .base64⟩) ∧
    ∀ (v : FieldValue) (t : String), v.stringValue? = some t → v.bytes = .ok (Utf8.encode t) := by
  refine ⟨bytes_binary bs, ?_, binary_of_bytes, fun v t => bytes_of_stringValue?⟩
  rw [stringValue?_binary, Utf8.decode?_eq_some_iff]

theorem binary_round_trip_hi :
    (⟨"aGk=", .base64⟩ : FieldValue).bytes = .ok [0x68, 0x69] ∧
      binary [0x68, 0x69] = ⟨"aGk=", .base64⟩ ∧
      (⟨"aGk=", .base64⟩ : FieldValue).stringValue? = some "hi" ∧
      (⟨"aGk=", .base64⟩ : FieldValue).bytes = .ok (Utf8.encode "hi") :=
  have hbytes : (⟨"aGk=", .base64⟩ : FieldValue).bytes = .ok [0x68, 0x69] := by decide
  have htext : (⟨"aGk=", .base64⟩ : FieldValue).stringValue? = some "hi" := by decide
  ⟨hbytes, (binary_round_trip [0x68, 0x69] "aGk=").2.2.1 hbytes, htext,
    (binary_round_trip [0x68, 0x69] "aGk=").2.2.2 _ _ htext⟩

end FieldValue

/-! ## Offering octets to a store -/

namespace ValueStore

variable {σ : Type} [ValueStore σ]

/-- The answers of `k` calls keeping `data` (with no hint), each made on the store the one
before left, and the store the last one leaves. -/
def putMany (data : Bytes) : Nat → σ → List (Except Error String) × σ
  | 0, s => ([], s)
  | k + 1, s =>
    let rest := putMany data k (put s data none).2
    ((put s data none).1 :: rest.1, rest.2)

theorem length_putMany (data : Bytes) : ∀ (k : Nat) (s : σ), (putMany data k s).1.length = k
  | 0, _ => rfl
  | k + 1, s => by simp [putMany, length_putMany data k]

end ValueStore

/-- Answers of calls made until the first success, at most `limit` of them, and what they
yield: the reference the success answered, or nothing after `limit` failures. -/
def UntilSuccess (limit : Nat) (answers : List (Except Error String)) : Option String → Prop
  | some r => answers.length ≤ limit ∧
      ∃ failures, answers = failures ++ [.ok r] ∧ ∀ a ∈ failures, ∃ e, a = .error e
  | none => answers.length = limit ∧ ∀ a ∈ answers, ∃ e, a = .error e

namespace UntilSuccess

theorem exhausted : UntilSuccess 0 [] none := ⟨rfl, by simp⟩

theorem first {limit : Nat} {r : String} : UntilSuccess (limit + 1) [.ok r] (some r) :=
  ⟨by simp, [], rfl, by simp⟩

/-- A failure in front leaves one call fewer for the rest. -/
theorem cons_error {limit : Nat} {answers : List (Except Error String)} {e : Error} :
    ∀ {res : Option String}, UntilSuccess limit answers res →
      UntilSuccess (limit + 1) (.error e :: answers) res
  | some r, ⟨hlen, failures, hf, hfail⟩ => by
    refine ⟨by simpa using hlen, .error e :: failures, by rw [hf, List.cons_append], ?_⟩
    intro a ha
    rcases List.mem_cons.1 ha with rfl | ha
    · exact ⟨e, rfl⟩
    · exact hfail a ha
  | none, ⟨hlen, hfail⟩ => by
    refine ⟨by simpa using hlen, ?_⟩
    intro a ha
    rcases List.mem_cons.1 ha with rfl | ha
    · exact ⟨e, rfl⟩
    · exact hfail a ha

end UntilSuccess

section

variable {σ ω : Type} [ValueStore σ]

/-- Offering `data` to the store `s`, with at most `limit` calls, yields `res` and leaves `s'`:
the calls made are the first ones the store answers in turn, they go on until the first
success and no further, and `s'` is the store they leave. -/
def Offered (data : Bytes) (limit : Nat) (s : σ) (res : Option String) (s' : σ) : Prop :=
  ∃ k, UntilSuccess limit (ValueStore.putMany data k s).1 res ∧ (ValueStore.putMany data k s).2 = s'

namespace Offered

variable {data : Bytes} {limit : Nat} {s s₁ s' : σ} {res : Option String}

theorem exhausted (s : σ) : Offered data 0 s none s := ⟨0, UntilSuccess.exhausted, rfl⟩

theorem stored {r : String} (h : ValueStore.put s data none = (.ok r, s₁)) :
    Offered data (limit + 1) s (some r) s₁ := by
  refine ⟨1, ?_, ?_⟩
  · simp only [ValueStore.putMany, h]
    exact UntilSuccess.first
  · simp only [ValueStore.putMany, h]

theorem retry {e : Error} (h : ValueStore.put s data none = (.error e, s₁))
    (ho : Offered data limit s₁ res s') : Offered data (limit + 1) s res s' := by
  obtain ⟨k, hk, hs⟩ := ho
  refine ⟨k + 1, ?_, ?_⟩
  · simp only [ValueStore.putMany, h]
    exact hk.cons_error
  · simp only [ValueStore.putMany, h, hs]

end Offered

namespace Document

/-- The attempts left are an offer with as many calls. -/
theorem attempt_offered (name : String) (data : Bytes) :
    ∀ (left number : Nat) (fx : Effects σ ω),
      Offered data left fx.store ((offload.attempt name data left number).run fx).1
        ((offload.attempt name data left number).run fx).2.store
  | 0, number, fx => Offered.exhausted fx.store
  | left + 1, number, fx => by
    rcases hput : ValueStore.put fx.store data none with ⟨a, s₁⟩
    cases a with
    | ok r =>
      simp only [offload.attempt, Work.put, Work.emit, bind, StateT.bind, modifyGet,
        MonadStateOf.modifyGet, StateT.modifyGet, pure, StateT.run, modify, hput]
      exact Offered.stored hput
    | error e =>
      simp only [offload.attempt, Work.put, Work.emit, bind, StateT.bind, modifyGet,
        MonadStateOf.modifyGet, StateT.modifyGet, StateT.run, modify, hput]
      exact Offered.retry hput (attempt_offered name data left (number + 1) _)

theorem offload_of_le {settings : WorkerSettings} {name : String} {data : Bytes}
    (h : data.length ≤ settings.inlineThreshold) (fx : Effects σ ω) :
    (offload settings name data).run fx = (none, fx) := by
  simp only [offload, if_pos h]
  rfl

theorem offload_offered {settings : WorkerSettings} {name : String} {data : Bytes}
    (h : settings.inlineThreshold < data.length) (fx : Effects σ ω) :
    Offered data (min (settings.storeRetries + 1) attemptLimit) fx.store
      ((offload settings name data).run fx).1 ((offload settings name data).run fx).2.store := by
  simp only [offload, if_neg (Nat.not_le.2 h)]
  exact attempt_offered name data _ 1 fx

/-- A store that keeps the octets at the first call is called once. -/
theorem offload_stored {settings : WorkerSettings} (name : String) {data : Bytes}
    (h : settings.inlineThreshold < data.length) {fx : Effects σ ω} {r : String} {s₁ : σ}
    (hput : ValueStore.put fx.store data none = (.ok r, s₁)) :
    ((offload settings name data).run fx).1 = some r ∧
      ((offload settings name data).run fx).2.store = s₁ := by
  obtain ⟨l, hl⟩ : ∃ l, min (settings.storeRetries + 1) attemptLimit = l + 1 :=
    have hlim : 1 ≤ attemptLimit := by decide
    ⟨min (settings.storeRetries + 1) attemptLimit - 1, by omega⟩
  simp only [offload, if_neg (Nat.not_le.2 h), hl, offload.attempt, Work.put, Work.emit, bind,
    StateT.bind, modifyGet, MonadStateOf.modifyGet, StateT.modifyGet, pure, StateT.run, modify, hput]
  exact ⟨rfl, rfl⟩

/-! ## Adding a value -/

theorem addValue_run (ctx : Context) (name : String) (data : Bytes) (inline : FieldValue)
    (d : Document) (fx : Effects σ ω) :
    (d.addValue ctx name data inline).run fx =
      (d.setLedger name ((d.ledger name).push
          (((offload ctx.settings name data).run fx).1.elim inline .reference)),
        ((offload ctx.settings name data).run fx).2) := by
  simp only [addValue, bind, StateT.bind, StateT.run, pure]
  rcases offload ctx.settings name data fx with ⟨_ | r, fx'⟩ <;>
    · dsimp only
      rw [editLedger_touch]
      rfl

theorem values_setLedger_self (d : Document) (name : String) (l : Ledger) :
    (d.setLedger name l).values name = l.current (d.original name) := by
  simp [values, original]

theorem values_setLedger_ne (d : Document) {name n : String} (l : Ledger) (h : n ≠ name) :
    (d.setLedger name l).values n = d.values n := by
  simp only [values, original, setLedger_fields, ledger_setLedger_ne d l h]

/-- What adding the octets `data` to the field `name` of `d`, from the effects `fx`, may leave,
`inline` being the value that holds them in the document itself: the field has one value
more and every other field its values; within the inline threshold the value is inline and
nothing else changes; past it, the octets are offered to the store and the value is a
reference to what a call stored, or inline when every call failed. -/
def AddsOneValue (settings : WorkerSettings) (name : String) (data : Bytes) (inline : FieldValue)
    (d : Document) (fx : Effects σ ω) (d' : Document) (fx' : Effects σ ω) : Prop :=
  ∃ res : Option String,
    d'.values name = d.values name ++ [res.elim inline .reference] ∧
    (∀ n, n ≠ name → d'.values n = d.values n) ∧
    (data.length ≤ settings.inlineThreshold → res = none ∧ fx' = fx) ∧
    (settings.inlineThreshold < data.length →
      Offered data (min (settings.storeRetries + 1) attemptLimit) fx.store res fx'.store)

theorem addValue_adds (ctx : Context) (name : String) (data : Bytes) (inline : FieldValue)
    (d : Document) (fx : Effects σ ω) :
    AddsOneValue ctx.settings name data inline d fx ((d.addValue ctx name data inline).run fx).1
      ((d.addValue ctx name data inline).run fx).2 := by
  rw [addValue_run]
  refine ⟨((offload ctx.settings name data).run fx).1, ?_, ?_, ?_, fun h => offload_offered h fx⟩
  · rw [values_setLedger_self, Ledger.current_push]
    rfl
  · intro n hn
    exact values_setLedger_ne d _ hn
  · intro h
    rw [offload_of_le h]
    exact ⟨rfl, rfl⟩

/-! ## Loading the value back -/

theorem load_inline {v : FieldValue} {bs : Bytes} (h : v.bytes = .ok bs) (fx : Effects σ ω) :
    ((load v).run fx).1 = .ok bs := by
  simp only [load, FieldValue.referenceStr?_eq_none_of_bytes h, h]
  rfl

theorem load_reference (r : String) (fx : Effects σ ω) :
    ((load (.reference r)).run fx).1 = ValueStore.get fx.store r := rfl

/-- The field `name` of `d'` is that of `d` with one value more, which loads back as `data`
from the store the effects `fx'` hold. -/
def LoadsBack (name : String) (data : Bytes) (d d' : Document) (fx' : Effects σ ω) : Prop :=
  ∃ v, d'.values name = d.values name ++ [v] ∧ ((load v).run fx').1 = .ok data

end Document

/-- The content address of `data` holds no other octets in the memory store. -/
def MemoryStore.NoCollision (m : MemoryStore) (data : Bytes) : Prop :=
  ∀ held, m.find? (contentAddress data none) = some held → held = data

namespace Document

/-- With the memory store, whose calls never fail, a value past the threshold is stored at the
first call, and its reference then holds its octets. -/
theorem addValue_loads_memory (ctx : Context) (name : String) (data : Bytes) (inline : FieldValue)
    (d : Document) (fx : Effects MemoryStore ω) (hinline : inline.bytes = .ok data)
    (hfree : fx.store.NoCollision data) :
    LoadsBack name data d ((d.addValue ctx name data inline).run fx).1
      ((d.addValue ctx name data inline).run fx).2 := by
  rw [addValue_run]
  refine ⟨_, by rw [values_setLedger_self, Ledger.current_push]; rfl, ?_⟩
  by_cases h : data.length ≤ ctx.settings.inlineThreshold
  · rw [offload_of_le h]
    exact load_inline hinline _
  · obtain ⟨hres, hstore⟩ :=
      offload_stored name (Nat.lt_of_not_le h) (MemoryStore.put_eq fx.store data none)
    rw [hres]
    have hfind : (fx.store.insert data none).2.find? (contentAddress data none) = some data := by
      have hins := MemoryStore.find?_insert fx.store data none
      rw [MemoryStore.insert_fst] at hins
      rw [hins]
      cases hheld : fx.store.find? (contentAddress data none) with
      | none => rfl
      | some held =>
        rw [hfree held hheld]
        rfl
    simp only [Option.elim, load_reference, hstore, MemoryStore.get_eq, hfind]

theorem add_appends_one_value (ctx : Context) (name : String) (d : Document) :
    (∀ (fx : Effects σ ω) (text : String),
      AddsOneValue ctx.settings name (Utf8.encode text) (.text text) d fx
        ((d.addText ctx name text).run fx).1 ((d.addText ctx name text).run fx).2) ∧
    (∀ (fx : Effects σ ω) (data : Bytes),
      AddsOneValue ctx.settings name data (.binary data) d fx
        ((d.addBytes ctx name data).run fx).1 ((d.addBytes ctx name data).run fx).2) ∧
    (∀ (fx : Effects MemoryStore ω) (text : String), fx.store.NoCollision (Utf8.encode text) →
      LoadsBack name (Utf8.encode text) d ((d.addText ctx name text).run fx).1
        ((d.addText ctx name text).run fx).2) ∧
    (∀ (fx : Effects MemoryStore ω) (data : Bytes), fx.store.NoCollision data →
      LoadsBack name data d ((d.addBytes ctx name data).run fx).1
        ((d.addBytes ctx name data).run fx).2) :=
  ⟨fun fx _ => addValue_adds ctx name _ _ d fx,
    fun fx _ => addValue_adds ctx name _ _ d fx,
    fun fx _ hfree => addValue_loads_memory ctx name _ _ d fx rfl hfree,
    fun fx data hfree => addValue_loads_memory ctx name _ _ d fx (FieldValue.bytes_binary data) hfree⟩

end Document

end

namespace Document

theorem add_appends_one_value_offloaded :
    MemoryStore.NoCollision {} (Utf8.encode "hello") ∧
      LoadsBack "f" (Utf8.encode "hello") {}
        ((({} : Document).addText { settings := { inlineThreshold := 2 } } "f" "hello").run
          (⟨{}, (), #[]⟩ : Effects MemoryStore Unit)).1
        ((({} : Document).addText { settings := { inlineThreshold := 2 } } "f" "hello").run
          (⟨{}, (), #[]⟩ : Effects MemoryStore Unit)).2 :=
  have hfree : MemoryStore.NoCollision {} (Utf8.encode "hello") := fun held h => by
    simp [MemoryStore.find?] at h
  ⟨hfree, (@add_appends_one_value MemoryStore Unit _ { settings := { inlineThreshold := 2 } } "f"
    {}).2.2.1 _ _ hfree⟩

end Document

end DocBatch
