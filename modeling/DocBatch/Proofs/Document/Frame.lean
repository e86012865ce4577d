import Mathlib.Data.String.Basic
import DocBatch.Document.Edit

/-!
# Where an operation lands, and what it leaves alone

Processing code edits a tree of documents one operation at a time, each on the subdocument
at a path. This module says, once, what such an operation can do, so that the theorems about
patches never unfold an operation again:

* `Document.Op.run_cases`: whatever the value store answers, an operation sets the ledger of
  the one field it names, touches a field it only reads, or records a failure. Nothing else
  about the document changes: not its fields, its reference, its custom data or its
  subdocuments.
* `Document.runAt_run`: running an operation at a path replaces the document at that path by
  the operation's result (`replaceAt`), and does nothing when the path leads nowhere.
* `Document.at?_replaceAt_ne`: a replacement that keeps the subdocuments of the document it
  replaces leaves every other document of the tree as it was, apart from the subdocument
  lists on the way down.

Ledgers are kept sorted by field name (`LedgersSorted`), and every operation keeps them so.
-/

namespace DocBatch

/-! ## Ledgers sorted by name

`Json.insertSorted` replaces the first entry of the name or inserts before the first larger
one. Looking a name up afterwards finds the new entry whether or not the list was sorted;
sortedness is what makes every name occur once. -/

namespace Json

variable {α : Type}

theorem mem_insertSorted {k : String} {v : α} {x : String × α} :
    ∀ {l : List (String × α)}, x ∈ insertSorted k v l → x = (k, v) ∨ x ∈ l
  | [], h => by simpa [insertSorted] using h
  | (k', v') :: rest, h => by
      simp only [insertSorted] at h
      split at h
      · simpa using h
      · split at h
        · simp only [List.mem_cons] at h
          rcases h with h | h
          · exact .inl h
          · exact .inr (List.mem_cons_of_mem _ h)
        · simp only [List.mem_cons] at h
          rcases h with h | h
          · exact .inr (h ▸ List.mem_cons_self)
          · rcases mem_insertSorted h with h | h
            · exact .inl h
            · exact .inr (List.mem_cons_of_mem _ h)

theorem insertSorted_sorted {k : String} {v : α} :
    ∀ {l : List (String × α)}, l.Pairwise (·.1 < ·.1) →
      (insertSorted k v l).Pairwise (·.1 < ·.1)
  | [], _ => by simp [insertSorted]
  | (k', v') :: rest, h => by
      have hrest := List.pairwise_cons.mp h
      simp only [insertSorted]
      split
      · rename_i hlt
        refine List.pairwise_cons.mpr ⟨fun x hx => ?_, h⟩
        rcases List.mem_cons.mp hx with rfl | hx
        · exact hlt
        · exact lt_trans hlt (hrest.1 x hx)
      · split
        · rename_i heq
          subst heq
          exact List.pairwise_cons.mpr ⟨hrest.1, hrest.2⟩
        · rename_i hlt hne
          have hgt : k' < k := (lt_trichotomy k k').resolve_left hlt |>.resolve_left hne
          refine List.pairwise_cons.mpr ⟨fun x hx => ?_, insertSorted_sorted hrest.2⟩
          rcases mem_insertSorted hx with rfl | hx
          · exact hgt
          · exact hrest.1 x hx

theorem find?_insertSorted_self (k : String) (v : α) :
    ∀ (l : List (String × α)), (insertSorted k v l).find? (·.1 == k) = some (k, v)
  | [] => by simp [insertSorted]
  | (k', v') :: rest => by
      simp only [insertSorted]
      split
      · simp
      · split
        · simp
        · rename_i hne
          have : (k' == k) = false := by simpa using Ne.symm hne
          simp [this, find?_insertSorted_self k v rest]

theorem find?_insertSorted_ne {k k' : String} (v : α) (hne : k' ≠ k) :
    ∀ (l : List (String × α)), (insertSorted k v l).find? (·.1 == k') = l.find? (·.1 == k')
  | [] => by simp [insertSorted, Ne.symm hne]
  | (k'', v'') :: rest => by
      simp only [insertSorted]
      split
      · simp [List.find?_cons, Ne.symm hne]
      · split
        · rename_i heq
          subst heq
          simp [Ne.symm hne]
        · simp only [List.find?_cons]
          split
          · rfl
          · exact find?_insertSorted_ne v hne rest

theorem insertSorted_insertSorted (k : String) (v v' : α) :
    ∀ (l : List (String × α)), insertSorted k v' (insertSorted k v l) = insertSorted k v' l
  | [] => by simp [insertSorted]
  | (k'', v'') :: rest => by
      simp only [insertSorted]
      split
      · simp [insertSorted]
      · split
        · simp [insertSorted]
        · rename_i hlt hne
          simp [insertSorted, hlt, hne, insertSorted_insertSorted k v v' rest]

end Json

namespace Document

/-- The ledgers of a document, sorted by field name with no name twice. -/
def LedgersSorted (d : Document) : Prop := d.ledgers.Pairwise (·.1 < ·.1)

@[simp] theorem setLedger_subdocuments (d : Document) (name : String) (l : Ledger) :
    (d.setLedger name l).subdocuments = d.subdocuments := rfl

@[simp] theorem setLedger_fields (d : Document) (name : String) (l : Ledger) :
    (d.setLedger name l).fields = d.fields := rfl

@[simp] theorem setLedger_reference (d : Document) (name : String) (l : Ledger) :
    (d.setLedger name l).reference = d.reference := rfl

@[simp] theorem setLedger_failures (d : Document) (name : String) (l : Ledger) :
    (d.setLedger name l).failures = d.failures := rfl

theorem setLedger_sorted {d : Document} (name : String) (l : Ledger) (h : d.LedgersSorted) :
    (d.setLedger name l).LedgersSorted :=
  Json.insertSorted_sorted h

@[simp] theorem ledger_setLedger_self (d : Document) (name : String) (l : Ledger) :
    (d.setLedger name l).ledger name = l := by
  simp [ledger, setLedger, Json.find?_insertSorted_self]

theorem ledger_setLedger_ne (d : Document) {name name' : String} (l : Ledger)
    (hne : name' ≠ name) : (d.setLedger name l).ledger name' = d.ledger name' := by
  simp only [ledger, setLedger, Json.find?_insertSorted_ne l hne]

/-- Touching a field gives it the ledger it already had. -/
theorem ledger_touch (d : Document) (name name' : String) :
    (d.touch name).ledger name' = d.ledger name' := by
  by_cases h : name' = name
  · subst h
    simp [touch]
  · exact ledger_setLedger_ne d _ h

/-! ## What one operation does to its document -/

/-- The field an operation edits; reading a field or recording a failure edits none. -/
def Op.field? : Op → Option String
  | .addText name _ | .addBytes name _ | .addReference name _ | .clear name | .reset name =>
    some name
  | .read _ | .addFailure _ _ => none

/-- The failure an operation records: a failure with an identifier or a message. -/
def Op.failure? : Op → Option Failure
  | .addFailure id? message? => if id?.isNone && message?.isNone then none else some ⟨id?, message?⟩
  | _ => none

variable {σ ω : Type} [ValueStore σ]

/-- Setting a field's ledger twice keeps the second. -/
@[simp] theorem setLedger_setLedger (d : Document) (name : String) (l l' : Ledger) :
    (d.setLedger name l).setLedger name l' = d.setLedger name l' := by
  simp [setLedger, Json.insertSorted_insertSorted]

/-- Editing a field's ledger is setting it, touched or not. -/
theorem editLedger_touch (d : Document) (name : String) (f : Ledger → Ledger) :
    (d.touch name).editLedger name f = d.setLedger name (f (d.ledger name)) := by
  simp [editLedger, touch]

/-- The one thing an operation does, whatever the value store answers: it sets the ledger of
one field, to a new ledger only for the field it edits, or it records a failure. -/
theorem Op.run_cases (ctx : Context) (op : Op) (d : Document) (fx : Effects σ ω) :
    (op.failure? = none ∧ ∃ name l, ((op.run ctx d).run fx).1 = d.setLedger name l ∧
      (op.field? ≠ some name → l = d.ledger name)) ∨
    (op.field? = none ∧
      ((op.run ctx d).run fx).1 = { d with failures := d.failures ++ op.failure?.toList }) := by
  cases op with
  | addText name text =>
      obtain ⟨v, hv⟩ : ∃ v, ((Op.run ctx (.addText name text) d).run fx).1 =
          (d.touch name).editLedger name (·.push v) := ⟨_, rfl⟩
      exact .inl ⟨rfl, name, _, hv.trans (editLedger_touch d name _), fun h => (h rfl).elim⟩
  | addBytes name data =>
      obtain ⟨v, hv⟩ : ∃ v, ((Op.run ctx (.addBytes name data) d).run fx).1 =
          (d.touch name).editLedger name (·.push v) := ⟨_, rfl⟩
      exact .inl ⟨rfl, name, _, hv.trans (editLedger_touch d name _), fun h => (h rfl).elim⟩
  | addReference name reference =>
      have hv : ((Op.run ctx (.addReference name reference) d).run fx).1 =
          (d.touch name).editLedger name (·.push (.reference reference)) := rfl
      exact .inl ⟨rfl, name, _, hv.trans (editLedger_touch d name _), fun h => (h rfl).elim⟩
  | clear name => exact .inl ⟨rfl, name, _, rfl, fun h => absurd rfl h⟩
  | reset name => exact .inl ⟨rfl, name, _, rfl, fun h => absurd rfl h⟩
  | read name => exact .inl ⟨rfl, name, _, rfl, fun _ => rfl⟩
  | addFailure id? message? =>
      refine .inr ⟨rfl, ?_⟩
      show d.addFailure id? message? = _
      simp only [Document.addFailure, Op.failure?]
      split <;> simp
      cases d; rfl

section
variable (ctx : Context) (op : Op) (d : Document) (fx : Effects σ ω)

theorem Op.run_subdocuments : ((op.run ctx d).run fx).1.subdocuments = d.subdocuments := by
  rcases op.run_cases ctx d fx with ⟨-, name, l, h, -⟩ | ⟨-, h⟩ <;> simp [h]

theorem Op.run_fields : ((op.run ctx d).run fx).1.fields = d.fields := by
  rcases op.run_cases ctx d fx with ⟨-, name, l, h, -⟩ | ⟨-, h⟩ <;> simp [h]

theorem Op.run_reference : ((op.run ctx d).run fx).1.reference = d.reference := by
  rcases op.run_cases ctx d fx with ⟨-, name, l, h, -⟩ | ⟨-, h⟩ <;> simp [h]

theorem Op.run_failures :
    ((op.run ctx d).run fx).1.failures = d.failures ++ op.failure?.toList := by
  rcases op.run_cases ctx d fx with ⟨hf, name, l, h, -⟩ | ⟨-, h⟩
  · simp [h, hf]
  · rw [h]

theorem Op.run_ledger {name : String} (hname : op.field? ≠ some name) :
    ((op.run ctx d).run fx).1.ledger name = d.ledger name := by
  rcases op.run_cases ctx d fx with ⟨-, name', l, h, hl⟩ | ⟨-, h⟩
  · rw [h]
    by_cases hn : name = name'
    · subst hn
      rw [ledger_setLedger_self, hl hname]
    · exact ledger_setLedger_ne d l hn
  · rw [h]
    rfl

theorem Op.run_sorted (hd : d.LedgersSorted) : ((op.run ctx d).run fx).1.LedgersSorted := by
  rcases op.run_cases ctx d fx with ⟨-, name, l, h, -⟩ | ⟨-, h⟩
  · rw [h]
    exact setLedger_sorted name l hd
  · rw [h]
    exact hd

end

/-! ## Replacing the subdocument at a path

`replaceAt` is what `visit` does once the edit at the end of the path has a result. A
document's own part (`shallow`: everything but its subdocuments) changes only at the end of
the path, provided the new document keeps the subdocuments of the one it replaces. -/

/-- Puts a document in place of the subdocument at a path; nothing changes when there is none. -/
def replaceAt : List Nat → Document → Document → Document
  | [], n, _ => n
  | i :: rest, n, d =>
    match d.subdocuments[i]? with
    | none => d
    | some s => { d with subdocuments := d.subdocuments.set i (replaceAt rest n s) }

/-- A document without its subdocuments. -/
def shallow (d : Document) : Document := { d with subdocuments := [] }

theorem at?_replaceAt_self (n : Document) :
    ∀ (path : List Nat) (d : Document), (d.at? path).isSome → (replaceAt path n d).at? path = some n
  | [], _, _ => rfl
  | i :: rest, d, h => by
      simp only [at?] at h
      cases hs : d.subdocuments[i]? with
      | none => simp [hs] at h
      | some s =>
          rw [hs, Option.bind_some] at h
          have hi : i < d.subdocuments.length := by
            have := List.getElem?_eq_some_iff.mp hs
            exact this.1
          simp only [replaceAt, hs, at?, List.getElem?_set_self hi, Option.bind_some]
          exact at?_replaceAt_self n rest s h

theorem at?_cons_of_subdocuments {d d' : Document} (h : d'.subdocuments = d.subdocuments)
    (i : Nat) (rest : List Nat) : d'.at? (i :: rest) = d.at? (i :: rest) := by
  simp only [at?, h]

theorem at?_replaceAt_ne (n : Document) :
    ∀ (path : List Nat) (d : Document) (m : Document), d.at? path = some m →
      n.subdocuments = m.subdocuments →
      ∀ other, other ≠ path → ((replaceAt path n d).at? other).map shallow = (d.at? other).map shallow
  | [], d, m, hm, hsub, other, hne => by
      cases other with
      | nil => exact absurd rfl hne
      | cons j rest =>
          simp only [at?, Option.some.injEq] at hm
          subst hm
          simp only [replaceAt, at?_cons_of_subdocuments hsub]
  | i :: path, d, m, hm, hsub, other, hne => by
      simp only [at?] at hm
      cases hs : d.subdocuments[i]? with
      | none => simp [hs] at hm
      | some s =>
          rw [hs, Option.bind_some] at hm
          cases other with
          | nil => simp [replaceAt, hs, at?, shallow]
          | cons j rest =>
              simp only [replaceAt, hs, at?, List.getElem?_set]
              by_cases hij : i = j
              · subst hij
                have hi : i < d.subdocuments.length := (List.getElem?_eq_some_iff.mp hs).1
                have hrest : rest ≠ path := fun h => hne (h ▸ rfl)
                simp only [if_pos hi, reduceIte, Option.bind_some, hs]
                exact at?_replaceAt_ne n path s m hm hsub rest hrest
              · simp [hij]

/-! ## Running an operation at a path -/

omit [ValueStore σ] in
/-- `visit`, run on the effects of processing: the edit runs once, on the subdocument at the
path, which its result replaces. -/
theorem visit_run {α : Type} (f : Document → Work σ ω (Document × α)) :
    ∀ (path : List Nat) (d : Document) (fx : Effects σ ω),
      (visit f path d).run fx =
        match d.at? path with
        | none => (none, fx)
        | some n => (some (replaceAt path ((f n).run fx).1.1 d, ((f n).run fx).1.2), ((f n).run fx).2)
  | [], d, fx => rfl
  | i :: path, d, fx => by
      cases hs : d.subdocuments[i]? with
      | none => simp only [visit, at?, hs]; rfl
      | some s =>
          have ih := visit_run f path s fx
          cases hn : s.at? path with
          | none =>
              simp only [hn] at ih
              simp only [visit, at?, hs, Option.bind_some, hn, StateT.run_bind, ih]
              rfl
          | some n =>
              simp only [hn] at ih
              simp only [visit, at?, hs, Option.bind_some, hn, replaceAt, StateT.run_bind, ih]
              rfl

/-- Running an operation at a path replaces the document there by the operation's result. -/
theorem runAt_run (ctx : Context) (path : List Nat) (op : Op) (d : Document) (fx : Effects σ ω) :
    ((runAt ctx path op d).run fx).1 =
      match d.at? path with
      | none => d
      | some n => replaceAt path ((op.run ctx n).run fx).1 d := by
  have h := visit_run (fun s => do return (← op.run ctx s, ())) path d fx
  cases hn : d.at? path with
  | none =>
      simp only [hn] at h
      simp only [runAt, StateT.run_bind, h]
      rfl
  | some n =>
      simp only [hn] at h
      simp only [runAt, StateT.run_bind, h]
      rfl

end Document

end DocBatch
