import Http2.Error
import Http2.Field.Basic

/-!
One request's stream and the response that gathers on it. Interim responses leave no trace, the
first final status stays, later blocks add their fields, and data adds to the body. Main
statement: no operation takes a stream back in the order of its states.
-/

namespace Http2

structure Response where
  streamId : Nat
  /-- The status, if a block named one. -/
  status : Option Nat
  /-- Regular fields, those of trailers included, in the order of arrival. -/
  headers : List Field
  body : Bytes
  deriving DecidableEq, Repr

namespace Response

/-- The value of the first field of a name, in any ASCII case. -/
def header? (r : Response) (name : String) : Option String :=
  (r.headers.find? fun f => Text.sameIgnoringCase f.1 name).map Prod.snd

def bodyText (r : Response) : Except Text.Utf8.Fault String :=
  Text.Utf8.decode r.body

end Response

/-- A stream and what arrived on it and was not taken yet. -/
structure Stream where
  id : Nat
  state : Stream.State := .idle
  status : Option Nat := none
  headers : List Field := []
  body : Bytes := []
  deriving DecidableEq, Repr

namespace Stream

def new (id : Nat) : Stream := { id }

/-- The stream once the request went out. -/
def sent (s : Stream) : Stream :=
  { s with state := .headersSent }

/-- Records that the request went out, which happens only once. -/
def sendHeaders (s : Stream) : Except Error Stream :=
  if s.state = .idle then .ok s.sent else .error (.protocol (.alreadySent s.id s.state))

/-- Records that a frame was read while the response is due. -/
def frameReceived (s : Stream) : Stream :=
  if s.state = .headersSent then { s with state := .awaitingFrames } else s

def close (s : Stream) : Stream :=
  { s with state := .closed }

/-! ### What arrives -/

/-- Reads a status from 100 to 999. -/
def parseStatus (value : String) : Except Error Nat :=
  match Text.word16? value.toList with
  | some n =>
    if 100 ≤ n ∧ n ≤ 999 then .ok n else .error (.protocol (.status value))
  | none => .error (.protocol (.status value))

/-- A status of a response that another one follows. -/
def isInterim (status : Nat) : Bool :=
  100 ≤ status && status < 200 && status != 101

/-- The status that a block names first, if any. -/
def blockStatus (fs : List Field) : Except Error (Option Nat) :=
  match fs.find? fun f => f.1 == ":status" with
  | none => .ok none
  | some f => (parseStatus f.2).map some

def regularFields (fs : List Field) : List Field :=
  fs.filter fun f => !Field.isPseudoName f.1

/-- A block without a status of its own, or with one that comes after the final one, adds its
fields; the first final status is kept; interim blocks before it are dropped. -/
def applyBlock (s : Stream) (status : Option Nat) (fs : List Field) : Stream :=
  match s.status, status with
  | none, some n =>
    if isInterim n then s
    else { s with status := some n, headers := s.headers ++ regularFields fs }
  | _, _ => { s with headers := s.headers ++ regularFields fs }

def receiveHeaders (s : Stream) (fs : List Field) : Except Error Stream :=
  (blockStatus fs).map fun status => s.applyBlock status fs

def receiveData (s : Stream) (data : Bytes) : Stream :=
  { s with body := s.body ++ data }

def response (s : Stream) : Response :=
  ⟨s.id, s.status, s.headers, s.body⟩

/-- The stream after its response was taken; the status stays. -/
def taken (s : Stream) : Stream :=
  { s with headers := [], body := [] }

/-! ### The order of states -/

theorem rank_frameReceived (s : Stream) : s.state.rank ≤ s.frameReceived.state.rank := by
  unfold frameReceived
  split
  · next h => simp [h, State.rank]
  · exact Nat.le_refl _

theorem rank_close (s : Stream) : s.state.rank ≤ s.close.state.rank := by
  cases h : s.state <;> simp [close, State.rank]

theorem rank_sendHeaders {s t : Stream} (h : s.sendHeaders = .ok t) :
    s.state.rank ≤ t.state.rank := by
  unfold sendHeaders at h
  split at h
  · next hs =>
    cases h
    simp [hs, sent, State.rank]
  · cases h

@[simp] theorem state_receiveData (s : Stream) (data : Bytes) :
    (s.receiveData data).state = s.state := rfl

@[simp] theorem state_applyBlock (s : Stream) (status : Option Nat) (fs : List Field) :
    (s.applyBlock status fs).state = s.state := by
  unfold applyBlock
  split
  · split <;> rfl
  · rfl

@[simp] theorem id_applyBlock (s : Stream) (status : Option Nat) (fs : List Field) :
    (s.applyBlock status fs).id = s.id := by
  unfold applyBlock
  split
  · split <;> rfl
  · rfl

@[simp] theorem id_frameReceived (s : Stream) : s.frameReceived.id = s.id := by
  unfold frameReceived
  split <;> rfl

end Stream

end Http2
