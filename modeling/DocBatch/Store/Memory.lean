import DocBatch.Store.Basic

/-!
# A value store in memory

The memory store keeps each value under its content address. A value stored again leaves
the store as it is: the first octets kept under a reference stay. Looking up a reference
that was never stored fails with `notFound`.
-/

namespace DocBatch

/-- Values kept in memory, in the order they were first stored. -/
structure MemoryStore where
  entries : List (String × Bytes) := []
  deriving Inhabited

namespace MemoryStore

/-- The value under a reference, if any. -/
def find? (s : MemoryStore) (reference : String) : Option Bytes :=
  (s.entries.find? (·.1 == reference)).map (·.2)

/-- Keeps octets under their content address unless that address is taken. -/
def insert (s : MemoryStore) (data : Bytes) (hint : Option String) : String × MemoryStore :=
  let reference := contentAddress data hint
  match s.find? reference with
  | some _ => (reference, s)
  | none => (reference, { entries := s.entries ++ [(reference, data)] })

/-- The number of distinct references kept. -/
def size (s : MemoryStore) : Nat := s.entries.length

/-- True when nothing is kept. -/
def isEmpty (s : MemoryStore) : Bool := s.entries.isEmpty

instance : ValueStore MemoryStore where
  put s data hint := let (r, s) := s.insert data hint; (.ok r, s)
  get s reference :=
    match s.find? reference with
    | some bs => .ok bs
    | none => .error (.notFound reference)

theorem find?_insert (s : MemoryStore) (data : Bytes) (hint : Option String) :
    (s.insert data hint).2.find? (s.insert data hint).1 =
      (s.find? (contentAddress data hint)).getD data := by
  unfold insert
  cases h : s.find? (contentAddress data hint) with
  | some bs => simp only [h, Option.getD_some]
  | none =>
    simp only [h, Option.getD_none]
    unfold find? at h ⊢
    simp only [Option.map_eq_none_iff] at h
    simp [List.find?_append, h]

end MemoryStore

end DocBatch
