import Http2.Bytes
import Http2.Transport.Fault

/-!
A transport whose future is written down: what the next reads, writes, flushes and closings will
do. It keeps what was written, the polls that were made and the number of closings. Main
statements: a read never gives more bytes than it takes off the input, and a failing one takes an
event off; likewise for writes and their events.
-/

namespace Http2

inductive Direction where
  | read | write
  deriving DecidableEq, Repr

/-- What becomes of a read. -/
inductive ReadEvent where
  /-- Bytes that arrive. -/
  | data (bytes : Bytes)
  | fail (cause : TransportError)
  /-- The poll before the read fails. -/
  | pollFail (cause : TransportError)
  /-- The poll before the read runs out of time. -/
  | notReady
  /-- One read gives nothing. -/
  | eof
  deriving DecidableEq, Repr

/-- What becomes of a write. -/
inductive WriteEvent where
  /-- At most so many bytes are taken. -/
  | accept (limit : Nat)
  | fail (cause : TransportError)
  /-- The poll before the write fails. -/
  | pollFail (cause : TransportError)
  /-- The poll before the write runs out of time. -/
  | notReady
  deriving DecidableEq, Repr

/-- A transport. Past the end of a list of events reads give nothing, and the rest succeeds. -/
structure Transport where
  input : List ReadEvent := []
  /-- The most bytes that one read gives. -/
  chunk : Option Nat := none
  writes : List WriteEvent := []
  flushes : List (Option TransportError) := []
  closes : List (Option TransportError) := []
  /-- The protocol that the handshake selected. -/
  protocol : Option Bytes := none
  /-- The bytes that were taken. -/
  written : Bytes := []
  /-- The polls with their timeouts, the last first. -/
  polls : List (Direction × Option Nat) := []
  closeCalls : Nat := 0
  deriving DecidableEq, Repr

namespace Transport

/-- Adds events to the input; data without bytes says nothing. -/
def feed (t : Transport) (events : List ReadEvent) : Transport :=
  { t with input := t.input ++ events.filter (· ≠ .data []) }

/-! ### Operations -/

/-- Asks whether a read or write can be made. -/
def poll (t : Transport) (direction : Direction) (timeout : Option Nat) :
    Except TransportError Bool × Transport :=
  let t := { t with polls := (direction, timeout) :: t.polls }
  match direction with
  | .read =>
    match t.input with
    | .pollFail cause :: rest => (.error cause, { t with input := rest })
    | .notReady :: rest => (.ok false, { t with input := rest })
    | _ => (.ok true, t)
  | .write =>
    match t.writes with
    | .pollFail cause :: rest => (.error cause, { t with writes := rest })
    | .notReady :: rest => (.ok false, { t with writes := rest })
    | _ => (.ok true, t)

/-- The most bytes that a read for `want` ones gives. -/
def readLimit (t : Transport) (want : Nat) : Nat :=
  min want (t.chunk.getD want)

/-- The input without the first `n` bytes of the data in front. -/
def afterData (bytes : Bytes) (n : Nat) (rest : List ReadEvent) : List ReadEvent :=
  match bytes.drop n with
  | [] => rest
  | left => .data left :: rest

/-- Reads at most `want` bytes. -/
def read (t : Transport) (want : Nat) : Except TransportError Bytes × Transport :=
  match t.input with
  | .data bytes :: rest =>
    let n := t.readLimit want
    (.ok (bytes.take n), { t with input := afterData bytes n rest })
  | .fail cause :: rest => (.error cause, { t with input := rest })
  | .eof :: rest => (.ok [], { t with input := rest })
  | _ => (.ok [], t)

/-- Writes bytes, and says how many were taken. -/
def write (t : Transport) (bytes : Bytes) : Except TransportError Nat × Transport :=
  match t.writes with
  | .accept limit :: rest =>
    let taken := bytes.take limit
    (.ok taken.length, { t with writes := rest, written := t.written ++ taken })
  | .fail cause :: rest => (.error cause, { t with writes := rest })
  | _ => (.ok bytes.length, { t with written := t.written ++ bytes })

def nextOutcome : List (Option TransportError) → Except TransportError Unit ×
    List (Option TransportError)
  | [] => (.ok (), [])
  | none :: rest => (.ok (), rest)
  | some cause :: rest => (.error cause, rest)

def flush (t : Transport) : Except TransportError Unit × Transport :=
  let (r, rest) := nextOutcome t.flushes
  (r, { t with flushes := rest })

def close (t : Transport) : Except TransportError Unit × Transport :=
  let (r, rest) := nextOutcome t.closes
  (r, { t with closes := rest, closeCalls := t.closeCalls + 1 })

/-! ### How much is left -/

/-- The data that was not read yet. -/
def unread (t : Transport) : Bytes :=
  t.input.flatMap fun
    | .data bytes => bytes
    | _ => []

/-- What an event counts: one, and one for each byte. -/
def eventSize : ReadEvent → Nat
  | .data bytes => bytes.length + 1
  | _ => 1

/-- What is left of the input, in events and bytes together. -/
def inputSize (t : Transport) : Nat :=
  (t.input.map eventSize).sum

theorem inputSize_poll_le (t : Transport) (d : Direction) (timeout : Option Nat) :
    (t.poll d timeout).2.inputSize ≤ t.inputSize := by
  unfold poll
  cases d with
  | read =>
    simp only
    split <;> simp_all [inputSize]
  | write =>
    simp only
    split <;> simp [inputSize]

theorem inputSize_poll_lt {t : Transport} {timeout : Option Nat} {cause : TransportError}
    (h : (t.poll .read timeout).1 = .error cause) :
    (t.poll .read timeout).2.inputSize < t.inputSize := by
  revert h
  unfold poll
  simp only
  split
  · next hi => simp [inputSize, hi, eventSize]
  · simp
  · simp

theorem length_take_afterData (bytes : Bytes) (n : Nat) (rest : List ReadEvent) :
    (bytes.take n).length + ((afterData bytes n rest).map eventSize).sum ≤
      bytes.length + 1 + (rest.map eventSize).sum := by
  have h : (bytes.take n).length + (bytes.drop n).length = bytes.length := by
    rw [← List.length_append, List.take_append_drop]
  unfold afterData
  split
  · omega
  · simp only [List.map_cons, List.sum_cons, eventSize]
    omega

theorem inputSize_read_le {t : Transport} {want : Nat} {bytes : Bytes}
    (h : (t.read want).1 = .ok bytes) : bytes.length + (t.read want).2.inputSize ≤ t.inputSize := by
  revert h
  unfold read
  split
  · next data rest hi =>
    intro h
    cases h
    have := length_take_afterData data (t.readLimit want) rest
    simp only [inputSize, hi, List.map_cons, List.sum_cons, eventSize]
    omega
  · simp
  · next rest hi =>
    intro h
    cases h
    simp [inputSize, hi, eventSize]
  · intro h
    cases h
    simp

theorem inputSize_read_lt {t : Transport} {want : Nat} {cause : TransportError}
    (h : (t.read want).1 = .error cause) : (t.read want).2.inputSize < t.inputSize := by
  revert h
  unfold read
  split
  · simp
  · next hi => simp [inputSize, hi, eventSize]
  · simp
  · simp

theorem length_writes_poll_le (t : Transport) (d : Direction) (timeout : Option Nat) :
    (t.poll d timeout).2.writes.length ≤ t.writes.length := by
  unfold poll
  cases d with
  | read =>
    simp only
    split <;> simp
  | write =>
    simp only
    split <;> simp_all

theorem length_writes_poll_lt {t : Transport} {timeout : Option Nat} {cause : TransportError}
    (h : (t.poll .write timeout).1 = .error cause) :
    (t.poll .write timeout).2.writes.length < t.writes.length := by
  revert h
  unfold poll
  simp only
  split
  · next hi => simp [hi]
  · simp
  · simp

theorem length_writes_write_le (t : Transport) (bytes : Bytes) :
    (t.write bytes).2.writes.length ≤ t.writes.length := by
  unfold write
  split <;> simp_all

theorem length_writes_write_lt {t : Transport} {bytes : Bytes} {cause : TransportError}
    (h : (t.write bytes).1 = .error cause) :
    (t.write bytes).2.writes.length < t.writes.length := by
  revert h
  unfold write
  split
  · simp
  · next hi => simp [hi]
  · simp

@[simp] theorem inputSize_write (t : Transport) (bytes : Bytes) :
    (t.write bytes).2.inputSize = t.inputSize := by
  unfold write
  split <;> rfl

@[simp] theorem inputSize_flush (t : Transport) : t.flush.2.inputSize = t.inputSize := rfl

end Transport

end Http2
