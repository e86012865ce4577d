import DocBatch.Document.Patch

/-!
# The change ledger of a field

The values a document arrived with are never edited. A ledger records what processing did
to one field instead: whether the new values are added to the old ones or take their place,
and the values pushed since. The field's current values are rebuilt from the two on every
read.

Clearing switches to replacing and drops what was pushed; resetting switches back to adding
and drops what was pushed, which undoes every edit. A ledger reports a change when it
replaces or has pushed something.
-/

namespace DocBatch

/-- The edits made to one field. -/
structure Ledger where
  action : Action := .add
  pending : List FieldValue := []
  deriving Repr, DecidableEq, Inhabited

namespace Ledger

/-- True when the ledger changes the field. -/
def hasChanges (l : Ledger) : Bool := l.action == .replace || !l.pending.isEmpty

/-- True when the field has values, given those it arrived with. -/
def hasValues (l : Ledger) (original : List FieldValue) : Bool :=
  !l.pending.isEmpty || (l.action == .add && !original.isEmpty)

/-- The values the field has now. -/
def current (l : Ledger) (original : List FieldValue) : List FieldValue :=
  match l.action with
  | .add => original ++ l.pending
  | .replace => l.pending

/-- The texts of the field's inline values that read as text: the originals while they are
kept, then the pending values, references skipped. -/
def strings (l : Ledger) (original : List FieldValue) : List String :=
  let visible := match l.action with
    | .add => original
    | .replace => []
  ((visible ++ l.pending).filter (!·.isReference)).filterMap FieldValue.stringValue?

/-- Records one more value. -/
def push (l : Ledger) (v : FieldValue) : Ledger := { l with pending := l.pending ++ [v] }

/-- Drops every value: the field is to be emptied. -/
def clear (_ : Ledger) : Ledger := { action := .replace, pending := [] }

/-- Undoes every edit. -/
def reset (_ : Ledger) : Ledger := {}

/-- The net change, when there is one. -/
def toChange? (l : Ledger) : Option Change :=
  if l.hasChanges then some ⟨l.action, l.pending⟩ else none

@[simp] theorem current_push (l : Ledger) (original : List FieldValue) (v : FieldValue) :
    (l.push v).current original = l.current original ++ [v] := by
  cases h : l.action <;> simp [current, push, h]

@[simp] theorem current_reset (l : Ledger) (original : List FieldValue) :
    l.reset.current original = original := by
  simp [reset, current]

@[simp] theorem current_clear (l : Ledger) (original : List FieldValue) :
    l.clear.current original = [] := rfl

/-- The texts are those of the current values: skipping references loses nothing, since a
reference never reads as text. -/
theorem strings_eq (l : Ledger) (original : List FieldValue) :
    l.strings original = (l.current original).filterMap FieldValue.stringValue? := by
  have hskip : ∀ vs : List FieldValue,
      (vs.filter (!·.isReference)).filterMap FieldValue.stringValue? =
        vs.filterMap FieldValue.stringValue? := by
    intro vs
    induction vs with
    | nil => rfl
    | cons v vs ih =>
      by_cases h : v.isReference = true
      · rw [List.filter_cons_of_neg (by simp [h]), ih,
          List.filterMap_cons_none (FieldValue.stringValue?_eq_none_of_isReference h)]
      · rw [List.filter_cons_of_pos (by simp [h])]
        simp only [List.filterMap_cons, ih]
  cases h : l.action <;> simp [strings, current, h, hskip]

/-- A field has values exactly when its current values are not empty. -/
theorem hasValues_iff (l : Ledger) (original : List FieldValue) :
    l.hasValues original = true ↔ l.current original ≠ [] := by
  cases h : l.action <;> simp [hasValues, current, h, Decidable.imp_iff_not_or, Or.comm]

theorem toChange?_eq_none_iff (l : Ledger) : l.toChange? = none ↔ l.hasChanges = false := by
  cases h : l.hasChanges <;> simp [toChange?, h]

theorem toChange?_of_hasChanges {l : Ledger} (h : l.hasChanges = true) :
    l.toChange? = some ⟨l.action, l.pending⟩ := by
  simp [toChange?, h]

end Ledger

end DocBatch
