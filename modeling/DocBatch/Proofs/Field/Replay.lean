import Mathlib.Data.List.Induction
import DocBatch.Field.Ledger

/-!
# A ledger stands for a list

A field's ledger compresses the history of edits made to the field into an action and the
values pushed since the field was last emptied. Nothing a reader of the field can see is lost
by that. Replay any history of pushes, clears and resets on an unedited ledger, and compare
it with the plain list the same history edits, where pushing appends, clearing empties and
resetting puts the original values back:

* the current values are that list, and the texts are the members of that list that read as
  text, in order, although the texts are computed from the ledger on their own;
* the field has values exactly when that list is not empty;
* a change is reported exactly when something was pushed or cleared since the last reset;
  it replaces the original values exactly when the field was cleared since then, and it
  carries the values pushed since the field was last cleared or reset.

Two arguments carry this. The current values commute with every edit (`current_apply`), so
they follow the list through any history (`current_replay`). What the list cannot show, the
change reported, depends on the history since the last reset; `replay_eq` gives the ledger
after a history in closed form, by induction on the history from its last edit.

The main statement is `replay_refines`.
-/

namespace DocBatch

namespace Ledger

/-- One edit of a field's ledger. -/
inductive Edit where
  | push (v : FieldValue)
  | clear
  | reset
  deriving Repr, DecidableEq

namespace Edit

/-- The value an edit pushes, if it pushes one. -/
def pushed? : Edit → Option FieldValue
  | .push v => some v
  | _ => none

/-- True for pushes. -/
def isPush (e : Edit) : Bool := e.pushed?.isSome

/-- What an edit does to the plain list of a field's values: pushing appends, clearing
empties, resetting restores the original values. -/
def onList (original : List FieldValue) (L : List FieldValue) : Edit → List FieldValue
  | .push v => L ++ [v]
  | .clear => []
  | .reset => original

end Edit

/-- Applies an edit to a ledger. -/
def apply (l : Ledger) : Edit → Ledger
  | .push v => l.push v
  | .clear => l.clear
  | .reset => l.reset

/-- The ledger after a history of edits, from an unedited one. -/
def replay (es : List Edit) : Ledger := es.foldl apply {}

/-- The plain list of a field's values after a history of edits. -/
def listAfter (original : List FieldValue) (es : List Edit) : List FieldValue :=
  es.foldl (Edit.onList original) original

/-- The edits made since the last reset (all of them when there was none): pushes and clears
only. -/
def sinceReset (es : List Edit) : List Edit := (es.reverse.takeWhile (· != .reset)).reverse

/-- The values pushed since the field was last cleared or reset, in the order pushed. -/
def pushedSinceEmptied (es : List Edit) : List FieldValue :=
  (es.reverse.takeWhile Edit.isPush).reverse.filterMap Edit.pushed?

/-! ## The history since the last reset, one edit at a time -/

theorem sinceReset_concat (es : List Edit) (e : Edit) :
    sinceReset (es ++ [e]) = if e = .reset then [] else sinceReset es ++ [e] := by
  by_cases h : e = .reset
  · subst h
    simp [sinceReset]
  · simp [sinceReset, h]

theorem pushedSinceEmptied_concat (es : List Edit) (e : Edit) :
    pushedSinceEmptied (es ++ [e]) = match e with
      | .push v => pushedSinceEmptied es ++ [v]
      | _ => [] := by
  cases e <;> simp [pushedSinceEmptied, Edit.isPush, Edit.pushed?, List.takeWhile_cons]

/-- Something was pushed or cleared since the last reset exactly when the field was cleared
since then or still holds something pushed. -/
theorem sinceReset_ne_nil_iff (es : List Edit) :
    sinceReset es ≠ [] ↔ .clear ∈ sinceReset es ∨ pushedSinceEmptied es ≠ [] := by
  induction es using List.reverseRecOn with
  | nil => simp [sinceReset, pushedSinceEmptied]
  | append_singleton es e _ =>
    cases e <;> simp [sinceReset_concat, pushedSinceEmptied_concat]

/-! ## The ledger after a history -/

/-- Each edit does to the current values what it does to the plain list. -/
theorem current_apply (l : Ledger) (original : List FieldValue) (e : Edit) :
    (l.apply e).current original = e.onList original (l.current original) := by
  cases e <;> simp [apply, Edit.onList]

/-- The current values follow the plain list through any history, from any ledger. -/
theorem current_foldl (original : List FieldValue) (es : List Edit) (l : Ledger) :
    (es.foldl apply l).current original = es.foldl (Edit.onList original) (l.current original) := by
  induction es generalizing l with
  | nil => rfl
  | cons e es ih => simp only [List.foldl_cons, ih, current_apply]

theorem current_replay (original : List FieldValue) (es : List Edit) :
    (replay es).current original = listAfter original es := by
  have hfresh : ({} : Ledger).current original = original := by simp [current]
  rw [replay, current_foldl, hfresh, listAfter]

/-- The ledger after a history: it replaces the original values when the field was cleared
since the last reset, and it holds the values pushed since the field was last emptied. -/
theorem replay_eq (es : List Edit) :
    replay es = { action := if .clear ∈ sinceReset es then .replace else .add,
                  pending := pushedSinceEmptied es } := by
  induction es using List.reverseRecOn with
  | nil => rfl
  | append_singleton es e ih =>
    have hstep : replay (es ++ [e]) = (replay es).apply e := by
      simp [replay, List.foldl_append]
    rw [hstep, ih]
    cases e with
    | push v => simp [apply, push, sinceReset_concat, pushedSinceEmptied_concat]
    | clear => simp [apply, clear, sinceReset_concat, pushedSinceEmptied_concat]
    | reset => simp [apply, reset, sinceReset_concat, pushedSinceEmptied_concat]

theorem hasChanges_replay (es : List Edit) :
    (replay es).hasChanges = true ↔ sinceReset es ≠ [] := by
  rw [sinceReset_ne_nil_iff, replay_eq]
  by_cases h : Edit.clear ∈ sinceReset es <;> simp [hasChanges, h]

/-- Replayed from an unedited ledger, any history of pushes, clears and resets leaves a ledger
that reads as the plain list the history edits: its current values are that list, its texts are
the members of the list that read as text, and it has values exactly when the list is not
empty. It reports a change exactly when something was pushed or cleared since the last reset,
and that change replaces the original values exactly when the field was cleared since then,
with the values pushed since the field was last cleared or reset. -/
theorem replay_refines (original : List FieldValue) (es : List Edit) :
    (replay es).current original = listAfter original es ∧
      (replay es).strings original = (listAfter original es).filterMap FieldValue.stringValue? ∧
      ((replay es).hasValues original = true ↔ listAfter original es ≠ []) ∧
      ((replay es).hasChanges = true ↔ sinceReset es ≠ []) ∧
      ((replay es).toChange? = none ↔ (replay es).hasChanges = false) ∧
      ∀ c, (replay es).toChange? = some c →
        (c.action = .replace ↔ .clear ∈ sinceReset es) ∧ c.values = pushedSinceEmptied es := by
  refine ⟨current_replay original es, ?_, ?_, hasChanges_replay es, toChange?_eq_none_iff _, ?_⟩
  · rw [strings_eq, current_replay]
  · rw [hasValues_iff, current_replay]
  · intro c hc
    have hchanged : (replay es).hasChanges = true := by
      cases h : (replay es).hasChanges
      · simp [toChange?, h] at hc
      · rfl
    rw [toChange?_of_hasChanges hchanged, Option.some.injEq] at hc
    subst hc
    rw [replay_eq]
    by_cases h : Edit.clear ∈ sinceReset es <;> simp [h]

/-- Clearing, pushing and then resetting leaves no change to report. -/
example : (replay [.push (.text "c"), .clear, .push (.text "d"), .reset]).toChange? = none := by
  rfl

end Ledger

end DocBatch
