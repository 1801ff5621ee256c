import Http2.Frame.Basic
import Http2.Stream.Basic

/-!
The streams of a connection. A client's streams have the odd numbers in order, and a stream that
ended stays until it is dropped.
-/

namespace Http2.Stream

/-- The streams of a connection, and the number of the next one. -/
structure Registry where
  streams : List Stream := []
  nextId : Nat := 1
  deriving DecidableEq, Repr

namespace Registry

def empty : Registry := {}

/-- Gives out the next number and a stream with it. -/
def create (r : Registry) : Except Error Nat × Registry :=
  if r.nextId ≤ maxStreamId then
    (.ok r.nextId, ⟨r.streams ++ [.new r.nextId], r.nextId + 2⟩)
  else (.error .streamIdsExhausted, r)

def find? (r : Registry) (id : Nat) : Option Stream :=
  r.streams.find? fun s => s.id == id

def state? (r : Registry) (id : Nat) : Option State :=
  (r.find? id).map Stream.state

def contains (r : Registry) (id : Nat) : Bool :=
  (r.find? id).isSome

/-- Changes the stream of a number, if there is one. -/
def modify (r : Registry) (id : Nat) (f : Stream → Stream) : Registry :=
  { r with streams := r.streams.map fun s => if s.id = id then f s else s }

/-- The number of streams that have not ended. -/
def activeCount (r : Registry) : Nat :=
  r.streams.countP fun s => s.state != .closed

/-- Drops the streams that ended. -/
def dropClosed (r : Registry) : Registry :=
  { r with streams := r.streams.filter fun s => s.state != .closed }

@[simp] theorem nextId_modify (r : Registry) (id : Nat) (f : Stream → Stream) :
    (r.modify id f).nextId = r.nextId := rfl

@[simp] theorem nextId_dropClosed (r : Registry) : r.dropClosed.nextId = r.nextId := rfl

theorem find?_modify_self (r : Registry) (id : Nat) (f : Stream → Stream)
    (hf : ∀ s, (f s).id = s.id) : (r.modify id f).find? id = (r.find? id).map f := by
  simp only [find?, modify]
  induction r.streams with
  | nil => rfl
  | cons s ss ih =>
    by_cases h : s.id = id
    · simp [h, hf]
    · simpa [h] using ih

end Registry

end Http2.Stream
