import DocBatch.Proofs.Json.Reads

/-!
# Typed decoders refuse what nests too deep

`Decoder.RefusesAt d depth v` says that `d`, allowed `depth` levels of nesting, ends in an error
on the text of `v`, whatever follows it. Reading goes in the order of the text, so a refusal
anywhere is the refusal of the whole: a record refuses an object when a member its builder has
not yet set is refused after members that fill (`record_refusesAt`), an array when its first
item is refused (`list_refusesAt`), and a whole text is refused with its value
(`readBytes_of_refusesAt`). With no level of nesting left, objects are refused outright
(`record_refusesAt_shallow`, `dict_refusesAt_shallow`), and so is everything once a recursive
decoder's budget is spent (`exhausted_refusesAt`).
-/

namespace DocBatch

namespace Json

namespace Decoder

variable {α β σ : Type}

/-- `d` refuses the text of `v` when `depth` levels of nesting are allowed, whatever follows. -/
def RefusesAt (d : Decoder α) (depth : Nat) (v : Value) : Prop :=
  ∀ (c : Cursor) (rest : Bytes), c.rest = Utf8.encode v.render ++ rest →
    ∃ e, d.text depth c = .error e

theorem map_refusesAt {f : α → β} {d : Decoder α} {depth : Nat} {v : Value}
    (h : d.RefusesAt depth v) : (d.map f).RefusesAt depth v := by
  intro c rest hc
  obtain ⟨e, he⟩ := h c rest hc
  exact ⟨e, by simp only [map, he]; rfl⟩

/-- A recursive decoder whose budget is spent refuses everything. -/
theorem exhausted_refusesAt (expecting : String) (depth : Nat) (v : Value) :
    (exhausted expecting : Decoder α).RefusesAt depth v :=
  fun _ _ _ => ⟨_, rfl⟩

/-- With no level of nesting left, a record refuses every object. -/
theorem record_refusesAt_shallow {name : String} {slots : List (Slot σ)} {init : σ}
    {build : σ → α} {depth : Nat} (hd : depth ≤ 1) (ms : List (String × Value)) :
    (record name slots init build).RefusesAt depth (.obj ms) := by
  intro c rest hc
  simp only [encode_render_obj, List.cons_append] at hc
  exact ⟨_, by simp only [record, Cursor.skipBlank_of_rest hc rfl, hc, if_true, Cursor.deeper,
    if_pos hd]; rfl⟩

/-- With no level of nesting left, a dictionary refuses every object. -/
theorem dict_refusesAt_shallow {d : Decoder α} {depth : Nat} (hd : depth ≤ 1)
    (ms : List (String × Value)) : (dict d).RefusesAt depth (.obj ms) := by
  intro c rest hc
  simp only [encode_render_obj, List.cons_append] at hc
  exact ⟨_, by simp only [dict, Cursor.skipBlank_of_rest hc rfl, hc, if_true, Cursor.deeper,
    if_pos hd]; rfl⟩

/-- An array whose first item the item decoder refuses is refused. -/
theorem list_refusesAt {d : Decoder α} {depth : Nat} {v : Value} (vs : List Value)
    (hd : 2 ≤ depth) (hv : v.Opens) (h : d.RefusesAt (depth - 1) v) :
    (list d).RefusesAt depth (.arr (v :: vs)) := by
  intro c rest hc
  obtain ⟨b, r, hvb, hb, h93⟩ := hv
  simp only [encode_render_arr, encode_renderItems_cons, List.cons_append, List.append_assoc] at hc
  have hc₁ := Cursor.bump_rest hc
  obtain ⟨e, he⟩ := h c.bump _ hc₁
  rw [hvb, List.cons_append] at hc₁
  have hitems : ∀ fuel, itemsText d (depth - 1) (fuel + 1) true [] c.bump = .error e :=
    fun fuel => by
    rw [itemsText, Cursor.nextItem_first hc₁ hb h93]
    simp only [bind, Except.bind, if_true, he]
  refine ⟨e, ?_⟩
  simp only [list, Cursor.skipBlank_of_rest hc rfl, hc, if_true, Cursor.deeper_of_two_le hd, bind,
    Except.bind, List.length_cons, hitems]

/-- A member whose slot is not yet set and whose value the slot's decoder refuses ends the
reading with the refusal. -/
theorem fieldsText_refused {slots : List (Slot σ)} {depth : Nat} {first : Bool} {c c₁ : Cursor}
    {k : String} {v : Value} {tail : Bytes} {s : σ} {slot : Slot σ}
    (hkey : c.nextKey first = .ok (some k, c₁))
    (hc₁ : c₁.rest = 58 :: Utf8.encode v.render ++ tail)
    (hslot : slots.find? (·.key == k) = some slot) (hset : slot.isSet s = false)
    (hfail : slot.read.RefusesAt depth v) (fuel : Nat) :
    ∃ e, fieldsText slots depth (fuel + 1) first s c = .error e := by
  rw [List.cons_append] at hc₁
  obtain ⟨e, he⟩ := hfail c₁.bump tail (Cursor.bump_rest hc₁)
  refine ⟨e, ?_⟩
  rw [fieldsText]
  simp only [hkey, bind, Except.bind, hslot, hset, Bool.false_eq_true, if_false,
    Cursor.colon_of_rest hc₁, he]

/-- A record object is refused when, after members that fill the builder, comes a member whose
slot is not yet set and whose value the slot's decoder refuses. -/
theorem record_refusesAt {name : String} {slots : List (Slot σ)} {init s : σ} {build : σ → α}
    {depth : Nat} (ms₁ : List (String × Value)) {k : String} {v : Value}
    {ms₂ : List (String × Value)} {slot : Slot σ} (hd : 2 ≤ depth)
    (h : Fills slots (depth - 1) ms₁ init s) (hslot : slots.find? (·.key == k) = some slot)
    (hset : slot.isSet s = false) (hfail : slot.read.RefusesAt (depth - 1) v) :
    (record name slots init build).RefusesAt depth (.obj (ms₁ ++ (k, v) :: ms₂)) := by
  intro c rest hc
  simp only [encode_render_obj, List.cons_append, List.append_assoc] at hc
  have hc₁ := Cursor.bump_rest hc
  obtain ⟨e, hfields⟩ :
      ∃ e, fieldsText slots (depth - 1) c.rest.length true init c.bump = .error e := by
    cases h with
    | nil =>
      rw [List.nil_append, encode_renderMembers_cons, memberBytes, List.append_assoc,
        List.append_assoc] at hc₁
      obtain ⟨c₂, hkey, hc₂⟩ := Cursor.nextKey_first hc₁
      rw [hc, List.length_cons]
      exact fieldsText_refused hkey hc₂ hslot hset hfail _
    | @cons k₀ v₀ ms₀ _ s₀ slot₀ f hslot₀ hset₀ hread₀ hrest =>
      have hlen : c.rest.length = c.bump.rest.length + 1 := by
        rw [hc, Cursor.bump_rest hc, List.length_cons]
      rw [List.cons_append, encode_renderMembers_cons, List.flatMap_append, List.flatMap_cons,
        memberBytes] at hc₁
      simp only [List.append_assoc, List.cons_append] at hc₁
      have hmin : ms₀.length + 2 ≤ c.bump.rest.length := by
        have := length_le_flatMap_comma (fun m => memberBytes m.1 m.2) ms₀
        rw [hc₁]
        simp only [List.length_append, List.length_cons]
        omega
      obtain ⟨c₂, hkey, hc₂⟩ := Cursor.nextKey_first hc₁
      obtain ⟨c₃, hc₃, hstep⟩ := fieldsText_member hkey hc₂
        (closes_flatMap_comma _ _ (closes_cons _ (.inl rfl))) hslot₀ hset₀ hread₀
        (c.bump.rest.length - ms₀.length - 1 + 1 + ms₀.length)
      obtain ⟨c₄, hc₄, hsteps⟩ := fieldsText_members (closes_cons _ (.inl rfl)) hrest
        (c.bump.rest.length - ms₀.length - 1 + 1) c₃ hc₃
      rw [memberBytes] at hc₄
      simp only [List.cons_append, List.append_assoc] at hc₄
      obtain ⟨c₅, hkey', hc₅⟩ :=
        Cursor.nextKey_comma (k := k) (by rw [hc₄, List.cons_append])
      obtain ⟨e, he⟩ :=
        fieldsText_refused hkey' hc₅ hslot hset hfail (c.bump.rest.length - ms₀.length - 1)
      have hfuel :
          c.rest.length = c.bump.rest.length - ms₀.length - 1 + 1 + ms₀.length + 1 := by
        omega
      refine ⟨e, ?_⟩
      rw [hfuel, hstep, hsteps, he]
  rw [hc] at hfields
  exact ⟨e, by simp only [record, Cursor.skipBlank_of_rest hc rfl, hc, if_true,
    Cursor.deeper_of_two_le hd, bind, Except.bind, hfields]⟩

/-- A whole text is refused with the value it holds, when the decoder refuses that value at the
top level of nesting. -/
theorem readBytes_of_refusesAt {d : Decoder α} {v : Value} (h : d.RefusesAt Cursor.depthLimit v) :
    ∃ e, d.readBytes (Utf8.encode v.render) = .error e := by
  obtain ⟨e, he⟩ := h (Cursor.ofBytes (Utf8.encode v.render)) [] (List.append_nil _).symm
  exact ⟨e, by simp only [readBytes, he, bind, Except.bind]⟩

end Decoder

end Json

end DocBatch
