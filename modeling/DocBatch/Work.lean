import DocBatch.Log
import DocBatch.Store.Basic

/-!
# What processing acts on

Processing code works on a document, but it also reaches outside it: it keeps large values
in the value store, keeps state of its own (counters, notes), and logs events. `Work σ ω`
is a computation over these three: a store of state `σ`, the code's own state `ω`, and the
events logged so far, in order.
-/

namespace DocBatch

/-- The state processing acts on besides the document. -/
structure Effects (σ ω : Type) where
  store : σ
  own : ω
  events : Array Event := #[]

/-- A computation of processing code. -/
abbrev Work (σ ω : Type) := StateM (Effects σ ω)

namespace Work

variable {σ ω : Type}

/-- Logs an event. -/
def emit (e : Event) : Work σ ω Unit :=
  modify fun s => { s with events := s.events.push e }

/-- Keeps octets in the value store. -/
def put [ValueStore σ] (data : Bytes) (hint : Option String) : Work σ ω (Except Error String) :=
  modifyGet fun s =>
    let (r, store) := ValueStore.put s.store data hint
    (r, { s with store := store })

/-- Reads octets from the value store. -/
def get [ValueStore σ] (reference : String) : Work σ ω (Except Error Bytes) :=
  return ValueStore.get (← MonadState.get).store reference

/-- The code's own state. -/
def own : Work σ ω ω := return (← MonadState.get).own

/-- Replaces the code's own state. -/
def setOwn (o : ω) : Work σ ω Unit := modify fun s => { s with own := o }

end Work

end DocBatch
