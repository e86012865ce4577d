import DocBatch.Error
import DocBatch.Hash.Blake3

/-!
# Value stores

A value store keeps octets under a reference and gives them back. Values too large to travel
inline in a document are kept in one, and the document carries the reference instead.

A reference is a content address: the lowercase hex BLAKE3 hash of the octets, under the
hint as a prefix (`hint/hash`) when a non-empty hint is given. Storing the same octets twice
gives the same reference.

A store is any state with two operations: `put`, which may change the state (and may fail),
and `get`, which reads it.
-/

namespace DocBatch

/-- The reference under which octets are stored: their hash, prefixed by a non-empty hint. -/
def contentAddress (data : Bytes) (hint : Option String) : String :=
  let hash := Blake3.hex data
  match hint with
  | some prefixText => if prefixText.isEmpty then hash else prefixText ++ "/" ++ hash
  | none => hash

/-- A state that keeps values under references. -/
class ValueStore (σ : Type) where
  /-- Keeps octets, with an optional hint for the reference, and answers the reference. -/
  put : σ → Bytes → Option String → Except Error String × σ
  /-- The octets kept under a reference. -/
  get : σ → String → Except Error Bytes

theorem contentAddress_none (data : Bytes) :
    contentAddress data none = Blake3.hex data := rfl

end DocBatch
