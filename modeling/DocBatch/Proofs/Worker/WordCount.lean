import Mathlib.Algebra.GroupWithZero.Nat
import DocBatch.Proofs.Field.Values
import DocBatch.WordCount

/-!
# What the word-count worker leaves

The word-count worker walks a document tree in pre-order. At each node it reads the words of
the node's own values, `WORD_COUNT` aside (`nodeWords`): a value that reads as text, and a
reference read from the value store (its octets as UTF-8, invalid sequences replaced); any
other value holds no word. Then it records `NO_TEXT` when there is none, replaces `WORD_COUNT`
by the count, and goes on with the subdocuments, one after the other.

The count is added as any value is: past the inline threshold it is offered to the store, and
the store it leaves is the one the next node is read with. So a reference in a subdocument is
read from the store as the nodes counted before it left it, not as the worker found it: a
subdocument may refer to the count its parent just stored. `Counts` says how a node's count
goes with the store it starts from, and `countDocument_counts` that counting follows it for
every tree, every store and every outcome of the store's calls. Counting stops at the first
node with a value it cannot read, and the tree it gives back keeps the counts made before.

For a node that arrived untouched, the count is the only change (`recount_changes`), read over
the values the node arrived with (`countedValues_of_untouched`), and counting fails exactly when
one of its references cannot be read from the store it is counted with
(`nodeWords_eq_error_iff`).
-/

namespace DocBatch

namespace WordCount

variable {σ ω : Type} [ValueStore σ]

/-! ## The words of a node -/

/-- The words of one value, with the store `s`: a value that reads as text, or a reference
whose octets the store holds, read as UTF-8 with invalid sequences replaced. Any other value
holds no word; a reference the store cannot read gives the store's error. -/
def wordsIn (s : σ) (v : FieldValue) : Except Error Nat :=
  match v.stringValue? with
  | some text => .ok (Words.count text)
  | none =>
    match v.referenceStr? with
    | some r => (ValueStore.get s r).map fun bs => Words.count (Utf8.decodeLossy bs)
    | none => .ok 0

/-- The values a node counts: those of each of its fields but `WORD_COUNT`, field by field in
the order of their names. -/
def countedValues (d : Document) : List FieldValue :=
  (d.fieldNames.filter (· ≠ field)).flatMap d.values

/-- The words of a node with the store `s`: their sum over the counted values, or the error
of the first one the store cannot read. -/
def nodeWords (s : σ) (d : Document) : Except Error Nat :=
  ((countedValues d).mapM (wordsIn s)).map List.sum

/-- The failure recorded on a node with no word. -/
def noText : Failure := ⟨some "NO_TEXT", some "document has no text to count"⟩

/-- A node once it counted `n` words, its count held by the value `v`: `NO_TEXT` recorded when
there is no word, and `WORD_COUNT` replaced by `v`. -/
def recount (n : Nat) (v : FieldValue) (d : Document) : Document :=
  { d with failures := d.failures ++ (if n = 0 then [noText] else []) }.setLedger field
    ⟨.replace, [v]⟩

/-- The count `text` is kept as the value `v`, from the effects `fx` to `fx'`: within the inline
threshold inline, and nothing changes; past it, the store is offered its octets, and `v` is a
reference to what a call kept, or inline when every call failed. -/
def Kept (settings : WorkerSettings) (text : String) (fx : Effects σ ω) (v : FieldValue)
    (fx' : Effects σ ω) : Prop :=
  ∃ res : Option String, v = res.elim (.text text) .reference ∧
    ((Utf8.encode text).length ≤ settings.inlineThreshold → res = none ∧ fx' = fx) ∧
    (settings.inlineThreshold < (Utf8.encode text).length →
      Offered (Utf8.encode text) (min (settings.storeRetries + 1) Document.attemptLimit) fx.store
        res fx'.store)

mutual
/-- How counting the tree at `d` may go from the effects `fx`: the tree with the counts made,
whether counting failed, and the effects it leaves. -/
inductive Counts (settings : WorkerSettings) : Document → Effects σ ω →
    Document × Except TransientError Unit → Effects σ ω → Prop
  /-- A value of the node cannot be read: counting fails, the node as it was, and nothing was
  kept. -/
  | unreadable {d : Document} {fx : Effects σ ω} {e : Error} :
      nodeWords fx.store d = .error e → Counts settings d fx (d, .error (.ofError e)) fx
  /-- The node has `n` words: its count is kept, then its subdocuments are counted in turn,
  each with the store the one before left; a failure among them keeps the counts made. -/
  | counted {d : Document} {fx fx₁ fx₂ : Effects σ ω} {n : Nat} {v : FieldValue}
      {subs : List Document} {r : Except TransientError Unit} :
      nodeWords fx.store d = .ok n → Kept settings (toString n) fx v fx₁ →
      CountsAll settings d.subdocuments fx₁ (subs, r) fx₂ →
      Counts settings d fx ({ recount n v d with subdocuments := subs }, r) fx₂

/-- How counting a list of trees in turn may go, stopping at the first that fails and leaving
the later ones as they were. -/
inductive CountsAll (settings : WorkerSettings) : List Document → Effects σ ω →
    List Document × Except TransientError Unit → Effects σ ω → Prop
  | nil {fx : Effects σ ω} : CountsAll settings [] fx ([], .ok ()) fx
  | stop {d d' : Document} {ds : List Document} {fx fx₁ : Effects σ ω} {e : TransientError} :
      Counts settings d fx (d', .error e) fx₁ → CountsAll settings (d :: ds) fx (d' :: ds, .error e) fx₁
  | cons {d d' : Document} {ds ds' : List Document} {fx fx₁ fx₂ : Effects σ ω}
      {r : Except TransientError Unit} :
      Counts settings d fx (d', .ok ()) fx₁ → CountsAll settings ds fx₁ (ds', r) fx₂ →
      CountsAll settings (d :: ds) fx (d' :: ds', r) fx₂
end

/-! ## Reading the words changes nothing -/

theorem valueWords_run (v : FieldValue) (fx : Effects σ ω) :
    (valueWords v : Work σ ω _).run fx = pure (wordsIn fx.store v, fx) := by
  unfold valueWords wordsIn
  cases hs : v.stringValue? with
  | some text => rfl
  | none =>
      by_cases hr : v.isReference
      · simp only [hr, FieldValue.referenceStr?, Document.load, if_true, Work.get, StateT.run_bind,
          StateT.run_get, pure_bind, StateT.run_pure]
        cases ValueStore.get fx.store v.data <;> rfl
      · simp only [hr, FieldValue.referenceStr?, Bool.false_eq_true, if_false]
        rfl

theorem valuesWords_run (fx : Effects σ ω) : ∀ vs : List FieldValue,
    (valuesWords vs : Work σ ω _).run fx = pure ((vs.mapM (wordsIn fx.store)).map List.sum, fx)
  | [] => rfl
  | v :: rest => by
      simp only [valuesWords, StateT.run_bind, valueWords_run, pure_bind, List.mapM_cons]
      cases wordsIn fx.store v with
      | error e => rfl
      | ok n =>
          simp only [StateT.run_bind, valuesWords_run fx rest, pure_bind]
          cases rest.mapM (wordsIn fx.store) <;> rfl

theorem fieldsWords_run (d : Document) (fx : Effects σ ω) : ∀ names : List String,
    (fieldsWords d names : Work σ ω _).run fx =
      pure ((((names.filter (· ≠ field)).flatMap d.values).mapM (wordsIn fx.store)).map List.sum, fx)
  | [] => rfl
  | name :: rest => by
      by_cases h : name = field
      · simp [fieldsWords, h, fieldsWords_run d fx rest]
      · have hfilter : (name :: rest).filter (· ≠ field) = name :: rest.filter (· ≠ field) := by
          simp [h]
        rw [hfilter, List.flatMap_cons, List.mapM_append]
        simp only [fieldsWords, beq_iff_eq, h, if_false, StateT.run_bind, valuesWords_run, pure_bind]
        cases (d.values name).mapM (wordsIn fx.store) with
        | error e => rfl
        | ok ns =>
            simp only [Except.map, StateT.run_bind, fieldsWords_run d fx rest, pure_bind]
            cases hrest : ((rest.filter (· ≠ field)).flatMap d.values).mapM (wordsIn fx.store) with
            | error e => rfl
            | ok ms =>
                show (pure (Except.ok (ns.sum + ms.sum), fx) : Id (Except Error Nat × Effects σ ω)) =
                  pure (Except.ok (ns ++ ms).sum, fx)
                rw [List.sum_append]

theorem nodeWords_run (d : Document) (fx : Effects σ ω) :
    (fieldsWords d d.fieldNames : Work σ ω _).run fx = pure (nodeWords fx.store d, fx) :=
  fieldsWords_run d fx d.fieldNames

/-! ## Keeping the count -/

theorem noText_if (n : Nat) (d : Document) :
    (if n = 0 then d.addFailure (some "NO_TEXT") (some "document has no text to count") else d) =
      { d with failures := d.failures ++ (if n = 0 then [noText] else []) } := by
  split
  · rfl
  · simp only [List.append_nil]
    cases d
    rfl

/-- Emptying `WORD_COUNT` and adding the count replaces the field by one value, the count kept
as `Kept` says. -/
theorem count_kept (ctx : Context) (n : Nat) (d : Document) (fx : Effects σ ω) :
    ∃ v fx₁, ((d.clearField field).addText ctx field (toString n)).run fx =
      pure (d.setLedger field ⟨.replace, [v]⟩, fx₁) ∧ Kept ctx.settings (toString n) fx v fx₁ := by
  refine ⟨_, _, ?_, ((Document.offload ctx.settings field (Utf8.encode (toString n))).run fx).1, rfl,
    fun h => ?_, fun h => Document.offload_offered h fx⟩
  · rw [Document.addText, Document.addValue_run]
    simp [Document.clearField, Document.editLedger, Ledger.clear, Ledger.push]
    rfl
  · rw [Document.offload_of_le h]
    exact ⟨rfl, rfl⟩

/-- With the memory store, a count past the inline threshold is kept at the first call, under
the content address of its text. -/
theorem count_kept_memory (ctx : Context) (n : Nat) (d : Document) (fx : Effects MemoryStore ω)
    (h : ctx.settings.inlineThreshold < (Utf8.encode (toString n)).length) :
    ∃ fx₁, ((d.clearField field).addText ctx field (toString n)).run fx =
      pure (d.setLedger field ⟨.replace, [.reference (contentAddress (Utf8.encode (toString n)) none)]⟩,
        fx₁) ∧ fx₁.store = (fx.store.insert (Utf8.encode (toString n)) none).2 := by
  obtain ⟨hres, hstore⟩ :=
    Document.offload_stored field h (MemoryStore.put_eq fx.store (Utf8.encode (toString n)) none)
  refine ⟨_, ?_, hstore⟩
  rw [Document.addText, Document.addValue_run, hres]
  simp [Document.clearField, Document.editLedger, Ledger.clear, Ledger.push]
  rfl

/-! ## What a node reads and what it keeps -/

/-- A value fails to give its words exactly when it is a reference the store cannot read. -/
theorem wordsIn_eq_error_iff {s : σ} {v : FieldValue} {e : Error} :
    wordsIn s v = .error e ↔ ∃ r, v.referenceStr? = some r ∧ ValueStore.get s r = .error e := by
  constructor
  · intro h
    unfold wordsIn at h
    split at h
    · cases h
    · split at h
      · rename_i r hr
        refine ⟨r, hr, ?_⟩
        cases hg : ValueStore.get s r with
        | error e' =>
            rw [hg] at h
            cases h
            rfl
        | ok bs =>
            rw [hg] at h
            cases h
      · cases h
  · rintro ⟨r, hr, hg⟩
    have href : v.isReference = true := by
      unfold FieldValue.referenceStr? at hr
      split at hr
      · assumption
      · cases hr
    unfold wordsIn
    rw [FieldValue.stringValue?_eq_none_of_isReference href, hr]
    show Except.map _ (ValueStore.get s r) = _
    rw [hg]
    rfl

/-- A list of computations that may fail fails exactly when one of them does. -/
theorem mapM_eq_error_iff {α β ε : Type} (f : α → Except ε β) :
    ∀ l : List α, (∃ e, l.mapM f = .error e) ↔ ∃ a ∈ l, ∃ e, f a = .error e
  | [] => by
      constructor
      · rintro ⟨_, he⟩
        cases he
      · rintro ⟨_, ha, _⟩
        cases ha
  | a :: l => by
      rw [List.mapM_cons]
      cases ha : f a with
      | error e => exact ⟨fun _ => ⟨a, List.mem_cons_self, e, ha⟩, fun _ => ⟨e, rfl⟩⟩
      | ok b =>
          have ih := mapM_eq_error_iff f l
          cases hl : l.mapM f with
          | error e =>
              refine ⟨fun _ => ?_, fun _ => ⟨e, rfl⟩⟩
              obtain ⟨a', ha', e', he'⟩ := ih.1 ⟨e, hl⟩
              exact ⟨a', List.mem_cons_of_mem a ha', e', he'⟩
          | ok bs =>
              refine ⟨fun ⟨_, he⟩ => (by cases he), fun ⟨a', ha', e', he'⟩ => ?_⟩
              rcases List.mem_cons.1 ha' with rfl | ha'
              · rw [ha] at he'
                cases he'
              · obtain ⟨e'', he''⟩ := ih.2 ⟨a', ha', e', he'⟩
                rw [hl] at he''
                cases he''

/-- A node's words cannot be read exactly when one of the values it counts is a reference that
the store cannot read. -/
theorem nodeWords_eq_error_iff (s : σ) (d : Document) :
    (∃ e, nodeWords s d = .error e) ↔
      ∃ v ∈ countedValues d, ∃ e r, v.referenceStr? = some r ∧ ValueStore.get s r = .error e := by
  have hmap : (∃ e, nodeWords s d = .error e) ↔ ∃ e, (countedValues d).mapM (wordsIn s) = .error e := by
    unfold nodeWords
    cases (countedValues d).mapM (wordsIn s) <;> simp [Except.map]
  rw [hmap, mapM_eq_error_iff]
  simp only [wordsIn_eq_error_iff]

/-- A node that arrived untouched counts the values it arrived with. -/
theorem countedValues_of_untouched {d : Document} (h : d.ledgers = []) :
    countedValues d = (d.fieldNames.filter (· ≠ field)).flatMap d.original := by
  have hv : d.values = d.original := by
    funext name
    simp [Document.values, Document.ledger, h, Ledger.current]
  rw [countedValues, hv]

/-- The count is the only change of a node that arrived untouched. -/
theorem recount_changes {d : Document} (h : d.ledgers = []) (n : Nat) (v : FieldValue) :
    (recount n v d).changes = [(field, ⟨.replace, [v]⟩)] := by
  simp [recount, Document.changes, Document.setLedger, h, Json.insertSorted, Document.changesOf,
    Ledger.toChange?, Ledger.hasChanges]

@[simp] theorem recount_failures (n : Nat) (v : FieldValue) (d : Document) :
    (recount n v d).failures = d.failures ++ if n = 0 then [noText] else [] := rfl

/-! ## One node -/

/-- A node with a value the store cannot read fails as it was, and keeps nothing. -/
theorem countDocument_run_unreadable (ctx : Context) {d : Document} {fx : Effects σ ω} {e : Error}
    (hw : nodeWords fx.store d = .error e) :
    (countDocument ctx d).run fx = pure ((d, .error (.ofError e)), fx) := by
  cases d
  simp only [countDocument, StateT.run_bind, nodeWords_run, pure_bind, hw]
  rfl

/-- A node with `n` words keeps its count, then counts its subdocuments from the effects that
left. -/
theorem countDocument_run_counted (ctx : Context) {d : Document} {fx fx₁ : Effects σ ω} {n : Nat}
    {v : FieldValue} (hw : nodeWords fx.store d = .ok n)
    (hkeep : (({ d with failures := d.failures ++ (if n = 0 then [noText] else []) }.clearField
      field).addText ctx field (toString n)).run fx = pure (recount n v d, fx₁)) :
    (countDocument ctx d).run fx = (countSubdocuments ctx d.subdocuments).run fx₁ >>= fun p =>
      pure (({ recount n v d with subdocuments := p.1.1 }, p.1.2), p.2) := by
  cases d
  simp only [countDocument, StateT.run_bind, nodeWords_run, pure_bind, hw, noText_if]
  simp only [hkeep, pure_bind]
  rfl

/-! ## Counting a tree -/

mutual
/-- Counting goes as `Counts` says, for every tree, every effects it starts from and every
answer of the store. -/
theorem countDocument_counts (ctx : Context) : ∀ (d : Document) (fx : Effects σ ω),
    Counts ctx.settings d fx ((countDocument ctx d).run fx).1 ((countDocument ctx d).run fx).2
  | ⟨r, fs, cd, ls, fl, subs⟩, fx => by
      cases hw : nodeWords fx.store ⟨r, fs, cd, ls, fl, subs⟩ with
      | error e =>
          rw [countDocument_run_unreadable ctx hw]
          exact .unreadable hw
      | ok n =>
          obtain ⟨v, fx₁, hrun, hkept⟩ := count_kept ctx n
            { (⟨r, fs, cd, ls, fl, subs⟩ : Document) with
              failures := fl ++ (if n = 0 then [noText] else []) } fx
          rw [countDocument_run_counted ctx hw hrun]
          have hall := countSubdocuments_counts ctx subs fx₁
          rcases hs : (countSubdocuments ctx subs).run fx₁ with ⟨⟨subs', res⟩, fx₂⟩
          rw [hs] at hall
          exact .counted hw hkept hall

/-- Counting a list of trees in turn goes as `CountsAll` says. -/
theorem countSubdocuments_counts (ctx : Context) : ∀ (ds : List Document) (fx : Effects σ ω),
    CountsAll ctx.settings ds fx ((countSubdocuments ctx ds).run fx).1
      ((countSubdocuments ctx ds).run fx).2
  | [], _ => .nil
  | d :: ds, fx => by
      have hd := countDocument_counts ctx d fx
      rcases hr : (countDocument ctx d).run fx with ⟨⟨d', res⟩, fx₁⟩
      have hr' : (countDocument ctx d).run fx = pure ((d', res), fx₁) := hr
      rw [hr] at hd
      simp only [countSubdocuments, StateT.run_bind, hr', pure_bind]
      cases res with
      | error e => exact .stop hd
      | ok u =>
          have hrest := countSubdocuments_counts ctx ds fx₁
          rcases hs : (countSubdocuments ctx ds).run fx₁ with ⟨⟨ds', res'⟩, fx₂⟩
          have hs' : (countSubdocuments ctx ds).run fx₁ = pure ((ds', res'), fx₂) := hs
          rw [hs] at hrest
          simp only [StateT.run_bind, hs', pure_bind]
          exact .cons hd hrest
end

/-- The worker reads a reference from the store as the nodes counted before left it. A parent
with one word keeps its count `1` in the memory store (the inline threshold is 0), and its
subdocument holds a reference to that count's content address: the reference is not in the
store the worker started from, yet counting succeeds, and the subdocument counts the one word
its parent's count holds. -/
theorem count_reads_parent_count :
    ValueStore.get ({} : MemoryStore) (contentAddress (Utf8.encode "1") none) =
        .error (.notFound (contentAddress (Utf8.encode "1") none)) ∧
      ∃ d fx, (countDocument ({ settings := { inlineThreshold := 0 } } : Context)
          (Document.ofPayload
            { fields := [("A", [.text "x"])],
              subdocuments :=
                [⟨none, [("R", [.reference (contentAddress (Utf8.encode "1") none)])], []⟩] })).run
          (⟨{}, (), #[]⟩ : Effects MemoryStore Unit) = pure ((d, .ok ()), fx) ∧
        d.subdocuments.map (·.values field) = [[.reference (contentAddress (Utf8.encode "1") none)]] := by
  refine ⟨rfl, ?_⟩
  have hparent : nodeWords ({} : MemoryStore)
      (Document.ofPayload
        { fields := [("A", [.text "x"])],
          subdocuments := [⟨none, [("R", [.reference (contentAddress (Utf8.encode "1") none)])], []⟩] }) =
      .ok 1 := by
    decide +kernel
  obtain ⟨fx₁, hkeep₁, hstore₁⟩ := count_kept_memory ({ settings := { inlineThreshold := 0 } } : Context) 1
    { (Document.ofPayload
        { fields := [("A", [.text "x"])],
          subdocuments := [⟨none, [("R", [.reference (contentAddress (Utf8.encode "1") none)])], []⟩] })
      with failures := [] } (⟨{}, (), #[]⟩ : Effects MemoryStore Unit) (by decide)
  rw [countDocument_run_counted _ hparent hkeep₁]
  have hchild : nodeWords fx₁.store
      (Document.ofSub ⟨none, [("R", [.reference (contentAddress (Utf8.encode "1") none)])], []⟩) =
      .ok 1 := by
    rw [hstore₁]
    decide +kernel
  obtain ⟨fx₂, hkeep₂, -⟩ := count_kept_memory ({ settings := { inlineThreshold := 0 } } : Context) 1
    { Document.ofSub ⟨none, [("R", [.reference (contentAddress (Utf8.encode "1") none)])], []⟩
      with failures := [] } fx₁ (by decide)
  simp only [Document.ofPayload, Document.ofSub.ofSubs, countSubdocuments, StateT.run_bind,
    countDocument_run_counted _ hchild hkeep₂, pure_bind]
  exact ⟨_, _, rfl, rfl⟩

end WordCount

end DocBatch
