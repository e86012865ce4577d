import DocBatch.Proofs.Document.Frame
import DocBatch.Proofs.Document.Wire

/-!
# What typed decoders give

`Json/Reads.lean` shows that a decoder reads back what was written; this module goes the other
way and says what every successful read gives, whatever the text. `Decoder.Yields d P` holds
when every value `d` reads from text satisfies `P`. It passes through `map`, and from an item's
decoder to a list of items (`list_yields`); a dictionary is always read with increasing names,
each named once (`dict_sorted`), since its members are inserted in order as they come and the
last of equal names is kept; and a record is read as its builder made it, so an invariant that
the initial builder has and every slot's change keeps holds of the record read
(`record_yields`), whether it is written as an object or as an array.

Applied to task documents: every document read from a task's data has sorted maps, down to its
deepest subdocument (`Payload.sorted_of_readBytes`), which is the condition under which
`Codec.json_decode_toJson` reads a document's text back as the document.
-/

namespace DocBatch

namespace Json

namespace Decoder

variable {α β σ : Type}

/-- What a computation through a bind gave: the first part's value, and what the rest made of
it. -/
theorem bind_eq_ok {ε : Type} {x : Except ε α} {f : α → Except ε β} {b : β}
    (h : x >>= f = .ok b) : ∃ a, x = .ok a ∧ f a = .ok b := by
  cases hx : x with
  | error e => rw [hx] at h; cases h
  | ok a => exact ⟨a, rfl, by rw [hx] at h; exact h⟩

theorem map_eq_ok {ε : Type} {x : Except ε α} {f : α → β} {b : β} (h : x.map f = .ok b) :
    ∃ a, x = .ok a ∧ f a = b := by
  cases hx : x with
  | error e => rw [hx] at h; cases h
  | ok a => rw [hx] at h; exact ⟨a, rfl, Except.ok.inj h⟩

/-- Everything the decoder reads from text satisfies `P`. -/
def Yields (d : Decoder α) (P : α → Prop) : Prop :=
  ∀ depth c a c', d.text depth c = .ok (a, c') → P a

theorem Yields.mono {d : Decoder α} {P Q : α → Prop} (h : d.Yields P) (hPQ : ∀ a, P a → Q a) :
    d.Yields Q :=
  fun depth c a c' hr => hPQ a (h depth c a c' hr)

theorem Yields.of_forall {d : Decoder α} {P : α → Prop} (h : ∀ a, P a) : d.Yields P :=
  fun _ _ a _ _ => h a

theorem Yields.map {d : Decoder α} {f : α → β} {P : β → Prop} (h : d.Yields fun a => P (f a)) :
    (d.map f).Yields P := by
  intro depth c b c' hr
  obtain ⟨⟨a, c₁⟩, hd, hab⟩ := map_eq_ok hr
  rw [← (Prod.mk.inj hab).1]
  exact h depth c a c₁ hd

/-- A whole text read by a decoder gives what its reads of text give. -/
theorem Yields.readBytes {d : Decoder α} {P : α → Prop} (h : d.Yields P) {bs : Bytes} {a : α}
    (hr : d.readBytes bs = .ok a) : P a := by
  obtain ⟨⟨a', c⟩, hd, hrest⟩ := bind_eq_ok hr
  obtain ⟨u, -, hret⟩ := bind_eq_ok hrest
  cases hret
  exact h _ _ _ _ hd

theorem exhausted_yields (expecting : String) (P : α → Prop) : (exhausted expecting).Yields P := by
  intro depth c a c' hr
  cases hr

/-! ## Lists and dictionaries -/

/-- The items read so far, and each item read next, satisfy `P`: so does the whole list. -/
theorem itemsText_yields {d : Decoder α} {P : α → Prop} (h : d.Yields P) (depth : Nat) :
    ∀ (fuel : Nat) (first : Bool) (acc : List α) (c : Cursor) (xs : List α) (c' : Cursor),
      (∀ x ∈ acc, P x) → itemsText d depth fuel first acc c = .ok (xs, c') → ∀ x ∈ xs, P x
  | 0, _, acc, c, xs, c', hacc, hr => by
    rw [itemsText, Except.ok.injEq, Prod.mk.injEq] at hr
    rw [← hr.1]
    simpa using hacc
  | fuel + 1, first, acc, c, xs, c', hacc, hr => by
    rw [itemsText] at hr
    obtain ⟨⟨more, c₁⟩, -, hr⟩ := bind_eq_ok hr
    dsimp only at hr
    split at hr
    · obtain ⟨⟨a, c₂⟩, hd, hr⟩ := bind_eq_ok hr
      refine itemsText_yields h depth fuel false (a :: acc) c₂ xs c' ?_ hr
      simpa using ⟨h _ _ _ _ hd, hacc⟩
    · cases hr
      simpa using hacc

theorem list_yields {d : Decoder α} {P : α → Prop} (h : d.Yields P) :
    (list d).Yields fun xs => ∀ x ∈ xs, P x := by
  intro depth c xs c' hr
  simp only [list] at hr
  split at hr
  · cases hr
  · split at hr
    · obtain ⟨depth', -, hr⟩ := bind_eq_ok hr
      obtain ⟨⟨ys, c₁⟩, hit, hr⟩ := bind_eq_ok hr
      obtain ⟨c₂, -, hr⟩ := bind_eq_ok hr
      cases hr
      exact itemsText_yields h _ _ _ _ _ _ _ (by simp) hit
    · cases hr

/-- Each member is inserted in its place among those before it, so the names stay increasing. -/
theorem entriesText_sorted (d : Decoder α) (depth : Nat) :
    ∀ (fuel : Nat) (first : Bool) (acc : List (String × α)) (c : Cursor)
      (xs : List (String × α)) (c' : Cursor), acc.Pairwise (·.1 < ·.1) →
      entriesText d depth fuel first acc c = .ok (xs, c') → xs.Pairwise (·.1 < ·.1)
  | 0, _, acc, c, xs, c', hacc, hr => by
    rw [entriesText, Except.ok.injEq, Prod.mk.injEq] at hr
    exact hr.1 ▸ hacc
  | fuel + 1, first, acc, c, xs, c', hacc, hr => by
    rw [entriesText] at hr
    obtain ⟨⟨key, c₁⟩, -, hr⟩ := bind_eq_ok hr
    dsimp only at hr
    split at hr
    · cases hr
      exact hacc
    · obtain ⟨c₂, -, hr⟩ := bind_eq_ok hr
      obtain ⟨⟨a, c₃⟩, -, hr⟩ := bind_eq_ok hr
      exact entriesText_sorted d depth fuel false _ c₃ xs c' (insertSorted_sorted hacc) hr

/-- A dictionary is read with increasing names, each named once. -/
theorem dict_sorted (d : Decoder α) : (dict d).Yields fun xs => xs.Pairwise (·.1 < ·.1) := by
  intro depth c xs c' hr
  simp only [dict] at hr
  split at hr
  · cases hr
  · split at hr
    · obtain ⟨depth', -, hr⟩ := bind_eq_ok hr
      obtain ⟨⟨ys, c₁⟩, hent, hr⟩ := bind_eq_ok hr
      obtain ⟨c₂, -, hr⟩ := bind_eq_ok hr
      cases hr
      exact entriesText_sorted d _ _ _ _ _ _ _ List.Pairwise.nil hent
    · cases hr

/-! ## Records -/

/-- A change of a builder that keeps the invariant `I`. -/
def Keeps (I : σ → Prop) (f : σ → σ) : Prop := ∀ s, I s → I (f s)

variable {slots : List (Slot σ)} {I : σ → Prop}

/-- The members of an object change the builder only through the slots they name; a member of
no slot is skipped. -/
theorem fieldsText_keeps (hslots : ∀ slot ∈ slots, slot.read.Yields (Keeps I)) (depth : Nat) :
    ∀ (fuel : Nat) (first : Bool) (s : σ) (c : Cursor) (s' : σ) (c' : Cursor),
      I s → fieldsText slots depth fuel first s c = .ok (s', c') → I s'
  | 0, _, s, c, s', c', hs, hr => by
    rw [fieldsText, Except.ok.injEq, Prod.mk.injEq] at hr
    exact hr.1 ▸ hs
  | fuel + 1, first, s, c, s', c', hs, hr => by
    rw [fieldsText] at hr
    obtain ⟨⟨key, c₁⟩, -, hr⟩ := bind_eq_ok hr
    dsimp only at hr
    split at hr
    · cases hr
      exact hs
    · split at hr
      · rename_i slot hfind
        split at hr
        · cases hr
        · obtain ⟨c₂, -, hr⟩ := bind_eq_ok hr
          obtain ⟨⟨f, c₃⟩, hread, hr⟩ := bind_eq_ok hr
          have hf := hslots slot (List.mem_of_find?_eq_some hfind) _ _ _ _ hread
          exact fieldsText_keeps hslots depth fuel false (f s) c₃ s' c' (hf s hs) hr
      · obtain ⟨c₂, -, hr⟩ := bind_eq_ok hr
        obtain ⟨c₃, -, hr⟩ := bind_eq_ok hr
        exact fieldsText_keeps hslots depth fuel false s c₃ s' c' hs hr

/-- The items of an array fill the slots in order; a missing item leaves its slot alone. -/
theorem arrayText_keeps (name : String) (count depth : Nat) :
    ∀ (slots : List (Slot σ)), (∀ slot ∈ slots, slot.read.Yields (Keeps I)) →
      ∀ (i : Nat) (first : Bool) (s : σ) (c : Cursor) (r : Except Fault σ) (c' : Cursor),
      I s → arrayText name count depth slots i first s c = .ok (r, c') → ∀ s', r = .ok s' → I s'
  | [], _, i, first, s, c, r, c', hs, hr => by
    rw [arrayText, Except.ok.injEq, Prod.mk.injEq] at hr
    intro s' hs'
    rw [← hr.1, Except.ok.injEq] at hs'
    exact hs' ▸ hs
  | slot :: rest, hslots, i, first, s, c, r, c', hs, hr => by
    rw [arrayText] at hr
    obtain ⟨⟨more, c₁⟩, -, hr⟩ := bind_eq_ok hr
    dsimp only at hr
    have hrest : ∀ slot ∈ rest, slot.read.Yields (Keeps I) :=
      fun x hx => hslots x (List.mem_cons_of_mem _ hx)
    split at hr
    · obtain ⟨⟨f, c₂⟩, hread, hr⟩ := bind_eq_ok hr
      have hf := hslots slot List.mem_cons_self _ _ _ _ hread
      exact arrayText_keeps name count depth rest hrest (i + 1) false (f s) c₂ r c' (hf s hs) hr
    · split at hr
      · cases hr
        intro s' hs'
        cases hs'
      · exact arrayText_keeps name count depth rest hrest (i + 1) first s c₁ r c' hs hr

/-- A record is read as built from a builder that keeps an invariant: the initial builder has
it, and every slot's change keeps it. -/
theorem record_yields {name : String} {init : σ} {build : σ → α} {P : α → Prop}
    (hinit : I init) (hslots : ∀ slot ∈ slots, slot.read.Yields (Keeps I))
    (hbuild : ∀ s, I s → P (build s)) : (record name slots init build).Yields P := by
  intro depth c a c' hr
  simp only [record] at hr
  split at hr
  · cases hr
  · split at hr
    · obtain ⟨depth', -, hr⟩ := bind_eq_ok hr
      obtain ⟨⟨s, c₁⟩, hfields, hr⟩ := bind_eq_ok hr
      obtain ⟨c₂, -, hr⟩ := bind_eq_ok hr
      dsimp only at hr
      split at hr
      · cases hr
      · cases hr
        exact hbuild s (fieldsText_keeps hslots _ _ _ _ _ _ _ hinit hfields)
    · split at hr
      · obtain ⟨depth', -, hr⟩ := bind_eq_ok hr
        obtain ⟨⟨r, c₁⟩, harr, hr⟩ := bind_eq_ok hr
        obtain ⟨c₂, -, hr⟩ := bind_eq_ok hr
        cases r with
        | error f => cases hr
        | ok s =>
          cases hr
          exact hbuild s (arrayText_keeps _ _ _ slots hslots _ _ _ _ _ _ hinit harr s rfl)
      · cases hr

end Decoder

end Json

open Json Decoder

/-! ## Task documents read are sorted -/

/-- A field map read from text has increasing names. -/
theorem FieldMap.decoder_sorted : FieldMap.decoder.Yields fun fs => fs.Pairwise (·.1 < ·.1) :=
  dict_sorted _

namespace SubPayload

/-- What the builder of a subdocument has read so far: sorted fields and sorted subdocuments. -/
def BuilderSorted (s : Option (Option String) × Option FieldMap × Option (List SubPayload)) : Prop :=
  (∀ fs ∈ s.2.1, fs.Pairwise (·.1 < ·.1)) ∧ ∀ ss ∈ s.2.2, ∀ x ∈ ss, x.Sorted

/-- Every subdocument read from text has sorted maps, down to its deepest subdocument. -/
theorem decoder_sorted : ∀ fuel, (decoder fuel).Yields Sorted
  | 0 => exhausted_yields _ _
  | fuel + 1 => by
    refine record_yields (I := BuilderSorted) ⟨by simp, by simp⟩ ?_ ?_
    · simp only [List.mem_cons, List.not_mem_nil, or_false]
      rintro slot (rfl | rfl | rfl) <;> dsimp only
      · apply Yields.map
        exact .of_forall fun _ _ hs => hs
      · apply Yields.map
        refine FieldMap.decoder_sorted.mono fun fs hfs s hs => ?_
        exact ⟨by simpa using hfs, hs.2⟩
      · apply Yields.map
        refine (list_yields (decoder_sorted fuel)).mono fun ss hss s hs => ?_
        exact ⟨hs.1, by simpa using hss⟩
    · rintro ⟨r, fs, ss⟩ ⟨hfs, hss⟩
      refine .mk ?_ ?_
      · cases fs <;> simp_all
      · cases ss <;> simp_all

end SubPayload

namespace Payload

/-- What the builder of a task's document has read so far: sorted maps and sorted
subdocuments. -/
def BuilderSorted (s : Option FieldMap × Option (List (String × String)) × Option (List SubPayload)) :
    Prop :=
  (∀ fs ∈ s.1, fs.Pairwise (·.1 < ·.1)) ∧ (∀ cd ∈ s.2.1, cd.Pairwise (·.1 < ·.1)) ∧
    ∀ ss ∈ s.2.2, ∀ x ∈ ss, x.Sorted

/-- Every task's document read from text has sorted maps, down to its deepest subdocument. -/
theorem decoder_sorted : decoder.Yields Sorted := by
  refine record_yields (I := BuilderSorted) ⟨by simp, by simp, by simp⟩ ?_ ?_
  · simp only [List.mem_cons, List.not_mem_nil, or_false]
    rintro slot (rfl | rfl | rfl) <;> dsimp only
    · apply Yields.map
      refine FieldMap.decoder_sorted.mono fun fs hfs s hs => ?_
      exact ⟨by simpa using hfs, hs.2⟩
    · apply Yields.map
      refine (dict_sorted _).mono fun cd hcd s hs => ?_
      exact ⟨hs.1, by simpa using hcd, hs.2.2⟩
    · apply Yields.map
      refine (list_yields (SubPayload.decoder_sorted _)).mono fun ss hss s hs => ?_
      exact ⟨hs.1, hs.2.1, by simpa using hss⟩
  · rintro ⟨fs, cd, ss⟩ ⟨hfs, hcd, hss⟩
    refine ⟨?_, ?_, ?_⟩
    · cases fs <;> simp_all
    · cases cd <;> simp_all
    · cases ss <;> simp_all

/-- A task's data read as a document gives sorted maps. -/
theorem sorted_of_readBytes {bs : Bytes} {p : Payload} (h : decoder.readBytes bs = .ok p) :
    p.Sorted :=
  decoder_sorted.readBytes h

end Payload

end DocBatch
