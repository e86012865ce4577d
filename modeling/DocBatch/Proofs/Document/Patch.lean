import DocBatch.Proofs.Document.Frame
import DocBatch.Store.Memory

/-!
# A document's patch is exact and minimal

Processing code edits the tree of documents a task carries: it adds values to fields,
clears and resets them, reads them, and records failures, each on the document at a path.
The patch it reports back (`Document.toPatch`) is then, for every path to a document of the
tree (`toPatch_runAll_exact`):

* **exact**: applying the change the patch reports for a field to the values that field
  arrived with gives the field's current values, for every field name — an addition puts the
  new values after the old ones, a replacement puts them in their place, and a field with no
  change keeps its values;
* **faithful on failures**: the failures reported are those recorded at that document, in the
  order they were recorded, each with an identifier or a message;
* **minimal**: a field is reported exactly when its ledger changes it, so a field that was
  only read is never reported; a subdocument is reported only when it has something to
  report, at its own position and with its own reference, in position order.

Positions in the patch are gappy: a subdocument with nothing to report has no entry. That is
why exactness is stated through `Patch.atPath`, which reads a missing entry as the empty patch,
and why the central lemma is that the patch read at a path is the patch of the document at
that path (`toPatch_atPath`).
-/

namespace DocBatch

namespace Document

/-! ## The changes of a node, read back

With the ledgers sorted by name, the change map has at most one entry per name, and the entry
for a name is its ledger's net change. -/

theorem mem_changesOf {ls : List (String × Ledger)} {k : String} {c : Change}
    (h : (k, c) ∈ changesOf ls) : ∃ l, (k, l) ∈ ls ∧ l.toChange? = some c := by
  simp only [changesOf, List.mem_filterMap, Option.map_eq_some_iff, Prod.mk.injEq] at h
  obtain ⟨⟨k', l⟩, hmem, c', hc, rfl, rfl⟩ := h
  exact ⟨l, hmem, hc⟩

theorem changesOf_cons (k : String) (l : Ledger) (rest : List (String × Ledger)) :
    changesOf ((k, l) :: rest) = (l.toChange?.map fun c => (k, c)).toList ++ changesOf rest := by
  cases hc : l.toChange? <;> simp [changesOf, hc]

theorem find?_changesOf {name : String} :
    ∀ {ls : List (String × Ledger)}, ls.Pairwise (·.1 < ·.1) →
      ((changesOf ls).find? (·.1 == name)).map (·.2) =
        ((ls.find? (·.1 == name)).map (·.2)).bind Ledger.toChange?
  | [], _ => rfl
  | (k, l) :: rest, h => by
      have hrest := List.pairwise_cons.mp h
      have ih := @find?_changesOf name rest hrest.2
      by_cases hk : k = name
      · subst hk
        have hnone : (changesOf rest).find? (·.1 == k) = none := by
          rw [List.find?_eq_none]
          intro x hx hxk
          obtain ⟨l', hl', -⟩ := mem_changesOf (k := x.1) (c := x.2) hx
          have := hrest.1 _ hl'
          simp only [beq_iff_eq] at hxk
          rw [hxk] at this
          exact lt_irrefl _ this
        cases hc : l.toChange? with
        | none => simp [changesOf_cons, hc, hnone]
        | some c => simp [changesOf_cons, hc]
      · have hne : (k == name) = false := by simpa using hk
        cases hc : l.toChange? with
        | none => simpa [changesOf_cons, hc, hne] using ih
        | some c => simpa [changesOf_cons, hc, hne] using ih

/-- A ledger's net change, applied to the values a field arrived with, gives its current
values. -/
theorem applyTo_toChange (l : Ledger) (original : List FieldValue) :
    Change.applyTo l.toChange? original = l.current original := by
  unfold Ledger.toChange?
  split
  · rename_i h
    cases ha : l.action <;> simp [Change.applyTo, Ledger.current, ha]
  · rename_i h
    have ha : l.action = .add := by
      cases ha : l.action
      · rfl
      · simp [Ledger.hasChanges, ha] at h
    have hp : l.pending = [] := by
      simpa [Ledger.hasChanges, ha] using h
    simp [Change.applyTo, Ledger.current, ha, hp]

theorem toChange?_isSome (l : Ledger) : l.toChange?.isSome = l.hasChanges := by
  unfold Ledger.toChange?
  split <;> simp_all

/-- The change a document's patch reports for a field is its ledger's net change. -/
theorem toPatch_change? {d : Document} (hd : d.LedgersSorted) (name : String) :
    d.toPatch.change? name = (d.ledger name).toChange? := by
  simp only [Patch.change?, toPatch, changes, find?_changesOf hd, ledger]
  cases (d.ledgers.find? (·.1 == name)).map (·.2) <;> rfl

theorem mem_keys_iff_change? (p : Patch) (name : String) :
    name ∈ p.changes.map (·.1) ↔ (p.change? name).isSome := by
  simp [Patch.change?, List.find?_isSome]

/-! ## Subdocuments in the patch

`subPatches` skips the subdocuments with nothing to report, so the entry of a subdocument is
found by its position, not by where it stands in the list. -/

theorem eq_empty_of_isEmpty {p : Patch} (h : p.isEmpty = true) : p = {} := by
  obtain ⟨cs, fs, ss⟩ := p
  simp only [Patch.isEmpty, Bool.and_eq_true, List.isEmpty_iff] at h
  obtain ⟨⟨rfl, rfl⟩, rfl⟩ := h
  rfl

theorem subPatches_cons (s : Document) (rest : List Document) (i : Nat) :
    subPatches (s :: rest) i =
      if s.toPatch.isEmpty then subPatches rest (i + 1)
      else .mk i s.reference s.changes s.failures (subPatches s.subdocuments 0) ::
        subPatches rest (i + 1) := by
  obtain ⟨r, fs, cd, ls, fl, subs⟩ := s
  rw [subPatches]
  rfl

theorem le_index_of_mem_subPatches :
    ∀ {subs : List Document} {i : Nat} {sp : SubPatch}, sp ∈ subPatches subs i → i ≤ sp.index
  | [], _, _, h => by simp [subPatches] at h
  | s :: rest, i, sp, h => by
      rw [subPatches_cons] at h
      split at h
      · have := le_index_of_mem_subPatches h
        omega
      · rcases List.mem_cons.mp h with rfl | h
        · exact Nat.le_refl _
        · have := le_index_of_mem_subPatches h
          omega

theorem find?_subPatches :
    ∀ (subs : List Document) (i j : Nat),
      (((subPatches subs i).find? (·.index == i + j)).map SubPatch.toPatch).getD {} =
        ((subs[j]?).map toPatch).getD {}
  | [], _, _ => by simp [subPatches]
  | s :: rest, i, 0 => by
      rw [subPatches_cons, Nat.add_zero]
      split
      · rename_i hs
        have hnone : (subPatches rest (i + 1)).find? (·.index == i) = none := by
          rw [List.find?_eq_none]
          intro sp hsp hidx
          have := le_index_of_mem_subPatches hsp
          simp only [beq_iff_eq] at hidx
          omega
        simp [hnone, eq_empty_of_isEmpty hs]
      · simp [SubPatch.index]
        rfl
  | s :: rest, i, j + 1 => by
      have ih := find?_subPatches rest (i + 1) j
      rw [show i + 1 + j = i + (j + 1) by omega] at ih
      rw [subPatches_cons]
      split
      · simpa using ih
      · have hne : (i == i + (j + 1)) = false := by simp
        simpa [List.find?_cons, SubPatch.index, hne] using ih

/-- The patch reads, at a position, the patch of the subdocument there. -/
theorem toPatch_sub (d : Document) (i : Nat) :
    d.toPatch.sub i = ((d.subdocuments[i]?).map toPatch).getD {} := by
  simpa [Patch.sub, toPatch] using find?_subPatches d.subdocuments 0 i

/-- The patch reads, at a path, the patch of the document there. -/
theorem toPatch_atPath :
    ∀ (path : List Nat) (d n : Document), d.at? path = some n → d.toPatch.atPath path = n.toPatch
  | [], d, n, h => by
      simp only [at?, Option.some.injEq] at h
      subst h
      rfl
  | i :: path, d, n, h => by
      simp only [at?] at h
      cases hs : d.subdocuments[i]? with
      | none => simp [hs] at h
      | some s =>
          rw [hs, Option.bind_some] at h
          simp only [Patch.atPath, toPatch_sub, hs, Option.map_some, Option.getD_some]
          exact toPatch_atPath path s n h

theorem mem_subPatches :
    ∀ {subs : List Document} {i : Nat} {sp : SubPatch}, sp ∈ subPatches subs i →
      ∃ j s, sp.index = i + j ∧ subs[j]? = some s ∧ sp.reference = s.reference ∧
        sp.toPatch = s.toPatch ∧ s.toPatch.isEmpty = false
  | [], _, _, h => by simp [subPatches] at h
  | s :: rest, i, sp, h => by
      rw [subPatches_cons] at h
      split at h
      · obtain ⟨j, s', hidx, hs', hrest⟩ := mem_subPatches h
        exact ⟨j + 1, s', by omega, hs', hrest⟩
      · rename_i hne
        rcases List.mem_cons.mp h with rfl | h
        · exact ⟨0, s, rfl, rfl, rfl, rfl, by simpa using hne⟩
        · obtain ⟨j, s', hidx, hs', hrest⟩ := mem_subPatches h
          exact ⟨j + 1, s', by omega, hs', hrest⟩

theorem subPatches_sorted :
    ∀ (subs : List Document) (i : Nat), (subPatches subs i).Pairwise (·.index < ·.index)
  | [], _ => by simp [subPatches]
  | s :: rest, i => by
      rw [subPatches_cons]
      split
      · exact subPatches_sorted rest (i + 1)
      · refine List.pairwise_cons.mpr ⟨fun sp hsp => ?_, subPatches_sorted rest (i + 1)⟩
        have := le_index_of_mem_subPatches hsp
        show i < sp.index
        omega

/-! ## The documents a task carries start with no edits -/

theorem ofSubs_getElem? : ∀ (ss : List SubPayload) (i : Nat),
    (ofSub.ofSubs ss)[i]? = ss[i]?.map ofSub
  | [], _ => rfl
  | _ :: _, 0 => rfl
  | _ :: ss, i + 1 => ofSubs_getElem? ss i

/-- A document with no ledgers and no failures. -/
def Fresh (d : Document) : Prop := d.ledgers = [] ∧ d.failures = []

theorem at?_ofSub_fresh :
    ∀ (path : List Nat) (s : SubPayload) (n : Document), (ofSub s).at? path = some n → n.Fresh
  | [], ⟨_, _, _⟩, n, h => by
      simp only [at?, Option.some.injEq] at h
      subst h
      exact ⟨rfl, rfl⟩
  | i :: path, ⟨_, _, ss⟩, n, h => by
      simp only [at?, ofSub, ofSubs_getElem?] at h
      cases hs : ss[i]? with
      | none => simp [hs] at h
      | some s =>
          rw [hs, Option.map_some, Option.bind_some] at h
          exact at?_ofSub_fresh path s n h

theorem at?_ofPayload_fresh (p : Payload) :
    ∀ (path : List Nat) (n : Document), (ofPayload p).at? path = some n → n.Fresh
  | [], n, h => by
      simp only [at?, Option.some.injEq] at h
      subst h
      exact ⟨rfl, rfl⟩
  | i :: path, n, h => by
      simp only [at?, ofPayload, ofSubs_getElem?] at h
      cases hs : p.subdocuments[i]? with
      | none => simp [hs] at h
      | some s =>
          rw [hs, Option.map_some, Option.bind_some] at h
          exact at?_ofSub_fresh path s n h

theorem Fresh.sorted {d : Document} (h : d.Fresh) : d.LedgersSorted := by
  unfold LedgersSorted
  rw [h.1]
  exact List.Pairwise.nil

theorem Fresh.ledger {d : Document} (h : d.Fresh) (name : String) : d.ledger name = {} := by
  simp [Document.ledger, h.1]

/-! ## What a run of operations leaves of each document

`Follows n₀ n ops` relates a document before and after the operations run on it; `Tracks`
says that every document of a tree follows the one at the same path before, with the
operations run at that path, and that the tree keeps its shape. One operation at a path
keeps `Tracks` (`tracks_runAt`), and a run of them does by induction (`tracks_runAll`). -/

/-- The operations run at a path, in order. -/
def opsAt (ops : List (List Nat × Op)) (path : List Nat) : List Op :=
  ops.filterMap fun e => if e.1 = path then some e.2 else none

/-- What operations leave of the document they run on: its fields and reference, sorted
ledgers, the failures it had followed by those recorded, and the ledgers of the fields no
operation edits. -/
structure Follows (n₀ n : Document) (ops : List Op) : Prop where
  fields : n.fields = n₀.fields
  reference : n.reference = n₀.reference
  sorted : n₀.LedgersSorted → n.LedgersSorted
  failures : n.failures = n₀.failures ++ ops.filterMap Op.failure?
  ledger : ∀ name, (∀ op ∈ ops, op.field? ≠ some name) → n.ledger name = n₀.ledger name

theorem Follows.refl (n : Document) : Follows n n [] :=
  ⟨rfl, rfl, id, by simp, fun _ _ => rfl⟩

theorem Follows.trans {n₀ n₁ n₂ : Document} {ops₁ ops₂ : List Op}
    (h₁ : Follows n₀ n₁ ops₁) (h₂ : Follows n₁ n₂ ops₂) : Follows n₀ n₂ (ops₁ ++ ops₂) where
  fields := h₂.fields.trans h₁.fields
  reference := h₂.reference.trans h₁.reference
  sorted := h₂.sorted ∘ h₁.sorted
  failures := by rw [h₂.failures, h₁.failures, List.filterMap_append, List.append_assoc]
  ledger name h := by
    rw [h₂.ledger name fun op hop => h op (List.mem_append_right _ hop),
      h₁.ledger name fun op hop => h op (List.mem_append_left _ hop)]

/-- Every document of `d` follows the one at the same path of `d₀`. -/
structure Tracks (d₀ d : Document) (ops : List (List Nat × Op)) : Prop where
  shape : ∀ path, (d.at? path).isSome = (d₀.at? path).isSome
  node : ∀ path n, d.at? path = some n → ∃ n₀, d₀.at? path = some n₀ ∧ Follows n₀ n (opsAt ops path)

theorem Tracks.refl (d : Document) : Tracks d d [] :=
  ⟨fun _ => rfl, fun _ n h => ⟨n, h, Follows.refl n⟩⟩

theorem opsAt_append (ops₁ ops₂ : List (List Nat × Op)) (path : List Nat) :
    opsAt (ops₁ ++ ops₂) path = opsAt ops₁ path ++ opsAt ops₂ path := by
  simp [opsAt, List.filterMap_append]

theorem Tracks.trans {d₀ d₁ d₂ : Document} {ops₁ ops₂ : List (List Nat × Op)}
    (h₁ : Tracks d₀ d₁ ops₁) (h₂ : Tracks d₁ d₂ ops₂) : Tracks d₀ d₂ (ops₁ ++ ops₂) where
  shape path := (h₂.shape path).trans (h₁.shape path)
  node path n h := by
    obtain ⟨n₁, hn₁, hf₂⟩ := h₂.node path n h
    obtain ⟨n₀, hn₀, hf₁⟩ := h₁.node path n₁ hn₁
    exact ⟨n₀, hn₀, opsAt_append ops₁ ops₂ path ▸ hf₁.trans hf₂⟩

@[simp] theorem shallow_fields (d : Document) : d.shallow.fields = d.fields := rfl
@[simp] theorem shallow_reference (d : Document) : d.shallow.reference = d.reference := rfl
@[simp] theorem shallow_ledgers (d : Document) : d.shallow.ledgers = d.ledgers := rfl
@[simp] theorem shallow_failures (d : Document) : d.shallow.failures = d.failures := rfl

/-- Two documents with the same own part follow each other with no operation. -/
theorem follows_of_shallow {n₀ n : Document} (h : n.shallow = n₀.shallow) : Follows n₀ n [] where
  fields := by simpa using congrArg Document.fields h
  reference := by simpa using congrArg Document.reference h
  sorted hs := by
    have hl : n.ledgers = n₀.ledgers := by simpa using congrArg Document.ledgers h
    unfold LedgersSorted
    rw [hl]
    exact hs
  failures := by simpa using congrArg Document.failures h
  ledger name _ := by
    have hl : n.ledgers = n₀.ledgers := by simpa using congrArg Document.ledgers h
    simp [Document.ledger, hl]

variable {σ ω : Type} [ValueStore σ]

theorem follows_run (ctx : Context) (op : Op) (n : Document) (fx : Effects σ ω) :
    Follows n ((op.run ctx n).run fx).1 [op] where
  fields := op.run_fields ctx n fx
  reference := op.run_reference ctx n fx
  sorted := op.run_sorted ctx n fx
  failures := by
    rw [op.run_failures ctx n fx]
    cases h : op.failure? <;> simp [h]
  ledger name h := op.run_ledger ctx n fx (h op List.mem_cons_self)

theorem opsAt_single (path other : List Nat) (op : Op) :
    opsAt [(path, op)] other = if other = path then [op] else [] := by
  by_cases h : other = path
  · simp [opsAt, h]
  · simp [opsAt, Ne.symm h, h]

/-- One operation at a path keeps every document of the tree following its former self. -/
theorem tracks_runAt (ctx : Context) (path : List Nat) (op : Op) (d : Document)
    (fx : Effects σ ω) : Tracks d ((runAt ctx path op d).run fx).1 [(path, op)] := by
  rw [runAt_run]
  cases hd : d.at? path with
  | none =>
      refine ⟨fun _ => rfl, fun other n h => ⟨n, h, ?_⟩⟩
      have hne : other ≠ path := by
        rintro rfl
        rw [hd] at h
        cases h
      simpa [opsAt_single, hne] using Follows.refl n
  | some n =>
      have hsub := op.run_subdocuments ctx n fx
      have hself := at?_replaceAt_self ((op.run ctx n).run fx).1 path d (by simp [hd])
      have hne := at?_replaceAt_ne ((op.run ctx n).run fx).1 path d n hd hsub
      refine ⟨fun other => ?_, fun other m h => ?_⟩
      · by_cases h : other = path
        · subst h
          simp [hself, hd]
        · simpa using congrArg Option.isSome (hne other h)
      · by_cases ho : other = path
        · subst ho
          rw [hself, Option.some.injEq] at h
          subst h
          exact ⟨n, hd, by simpa [opsAt_single] using follows_run ctx op n fx⟩
        · have hm := hne other ho
          rw [h, Option.map_some] at hm
          obtain ⟨m₀, hm₀, hshallow⟩ := Option.map_eq_some_iff.mp hm.symm
          exact ⟨m₀, hm₀, by simpa [opsAt_single, ho] using follows_of_shallow hshallow.symm⟩

/-- A run of operations keeps every document of the tree following its former self. -/
theorem tracks_runAll (ctx : Context) :
    ∀ (ops : List (List Nat × Op)) (d : Document) (fx : Effects σ ω),
      Tracks d ((runAll ctx ops d).run fx).1 ops
  | [], d, _ => Tracks.refl d
  | (path, op) :: rest, d, fx => by
      simp only [runAll, StateT.run_bind]
      exact (tracks_runAt ctx path op d fx).trans (tracks_runAll ctx rest _ _)

/-! ## The patch of an edited task -/

/-- **The patch is exact and minimal.** After any operations on the documents of a task, at
every path to a document of the tree the patch reports: for each field, the change that turns
the values it arrived with into its current values; the failures recorded there, in order; a
field exactly when its ledger changes it, so never one that was only read; and only
subdocuments with something to report, each at its own position with its own reference, in
position order. -/
theorem toPatch_runAll_exact (ctx : Context) (p : Payload) (ops : List (List Nat × Op))
    (fx : Effects σ ω) (path : List Nat) (n : Document)
    (hn : ((runAll ctx ops (ofPayload p)).run fx).1.at? path = some n) :
    ∃ orig, (ofPayload p).at? path = some orig ∧
      let r := ((runAll ctx ops (ofPayload p)).run fx).1.toPatch.atPath path
      (∀ name, Change.applyTo (r.change? name) (orig.original name) = n.values name) ∧
      r.failures = (opsAt ops path).filterMap Op.failure? ∧
      (∀ name, name ∈ r.changes.map (·.1) ↔ (n.ledger name).hasChanges) ∧
      (∀ name, (∀ op ∈ opsAt ops path, op.field? ≠ some name) → name ∉ r.changes.map (·.1)) ∧
      (∀ sp ∈ r.subdocuments, ∃ s, n.subdocuments[sp.index]? = some s ∧
        sp.reference = s.reference ∧ sp.toPatch = s.toPatch ∧ sp.toPatch.isEmpty = false) ∧
      r.subdocuments.Pairwise (·.index < ·.index) := by
  obtain ⟨n₀, hn₀, hf⟩ := (tracks_runAll ctx ops (ofPayload p) fx).node path n hn
  have hfresh := at?_ofPayload_fresh p path n₀ hn₀
  have hsorted : n.LedgersSorted := hf.sorted hfresh.sorted
  refine ⟨n₀, hn₀, ?_⟩
  intro r
  have hr : r = n.toPatch := toPatch_atPath path _ n hn
  rw [hr]
  refine ⟨fun name => ?_, ?_, fun name => ?_, fun name hname => ?_, fun sp hsp => ?_,
    subPatches_sorted _ 0⟩
  · rw [toPatch_change? hsorted, applyTo_toChange]
    simp [values, original, hf.fields]
  · show n.failures = _
    rw [hf.failures, hfresh.2, List.nil_append]
  · rw [mem_keys_iff_change?, toPatch_change? hsorted, toChange?_isSome]
  · rw [mem_keys_iff_change?, toPatch_change? hsorted, toChange?_isSome, hf.ledger name hname,
      hfresh.ledger]
    decide
  · obtain ⟨j, s, hidx, hs, href, hpatch, hempty⟩ := mem_subPatches hsp
    exact ⟨s, by rw [hidx, Nat.zero_add]; exact hs, href, hpatch, hpatch ▸ hempty⟩

/-- An edit and a failure on the first subdocument of a task, and a read of a field of the
task itself. -/
theorem toPatch_runAll_exact_subdocument :
    let p : Payload := { fields := [("A", [.text "a"])],
                         subdocuments := [.mk (some "att-1") [("B", [.text "b"])] []] }
    let ops : List (List Nat × Op) :=
      [([0], .addText "B" "c"), ([0], .addFailure (some "E1") none), ([], .read "A")]
    let fx : Effects MemoryStore Unit := { store := {}, own := () }
    ∃ n, ((runAll {} ops (ofPayload p)).run fx).1.at? [0] = some n ∧
      ∃ orig, (ofPayload p).at? [0] = some orig ∧
        let r := ((runAll {} ops (ofPayload p)).run fx).1.toPatch.atPath [0]
        (∀ name, Change.applyTo (r.change? name) (orig.original name) = n.values name) ∧
        r.failures = (opsAt ops [0]).filterMap Op.failure? ∧
        (∀ name, name ∈ r.changes.map (·.1) ↔ (n.ledger name).hasChanges) ∧
        (∀ name, (∀ op ∈ opsAt ops [0], op.field? ≠ some name) →
          name ∉ r.changes.map (·.1)) ∧
        (∀ sp ∈ r.subdocuments, ∃ s, n.subdocuments[sp.index]? = some s ∧
          sp.reference = s.reference ∧ sp.toPatch = s.toPatch ∧ sp.toPatch.isEmpty = false) ∧
        r.subdocuments.Pairwise (·.index < ·.index) :=
  ⟨_, rfl, toPatch_runAll_exact _ _ _ _ [0] _ rfl⟩

end Document

end DocBatch
