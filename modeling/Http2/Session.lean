import Http2.Transport.Basic

/-!
A session: a transport with a timeout, polled before each read and write, and cut off once it was
closed. On it stand the loops that read until a buffer is full and write until all is taken; both
go on after an interruption. Main statement: each round of a loop takes a byte or an event, so
both end.
-/

namespace Http2

/-- A transport with a timeout in milliseconds, and whether it was closed. -/
structure Session where
  transport : Transport
  timeout : Option Nat := some 30000
  closed : Bool := false
  deriving DecidableEq, Repr

namespace Session

/-- A session with the default timeout. -/
def new (t : Transport) : Session := { transport := t }

def setTimeout (s : Session) (timeout : Option Nat) : Session :=
  { s with timeout := timeout }

/-! ### Single operations -/

/-- Polls, and runs an operation on the transport if the answer is yes. -/
def whenReady {α : Type} (s : Session) (direction : Direction)
    (run : Transport → Except TransportError α × Transport) : Except TransportError α × Session :=
  if s.closed then (.error .closed, s)
  else
    match s.transport.poll direction s.timeout with
    | (.error cause, t) => (.error cause, { s with transport := t })
    | (.ok false, t) => (.error .timeout, { s with transport := t })
    | (.ok true, t) =>
      let (r, t) := run t
      (r, { s with transport := t })

def read (s : Session) (want : Nat) : Except TransportError Bytes × Session :=
  s.whenReady .read fun t => t.read want

def write (s : Session) (bytes : Bytes) : Except TransportError Nat × Session :=
  s.whenReady .write fun t => t.write bytes

/-- Closes the transport, the first time. -/
def close (s : Session) : Except TransportError Unit × Session :=
  if s.closed then (.ok (), s)
  else
    let (r, t) := s.transport.close
    (r, { s with transport := t, closed := true })

/-! ### The same operations as a stream of bytes -/

/-- Reads at most `want` bytes, with the failures of a byte stream. -/
def pull (s : Session) (want : Nat) : Except SystemError Bytes × Session :=
  let (r, s) := s.read want
  (r.mapError TransportError.toSystem, s)

/-- Writes bytes, with the failures of a byte stream. -/
def push (s : Session) (bytes : Bytes) : Except SystemError Nat × Session :=
  let (r, s) := s.write bytes
  (r.mapError TransportError.toSystem, s)

/-- Flushes the transport, closed or not. -/
def flush (s : Session) : Except SystemError Unit × Session :=
  let (r, t) := s.transport.flush
  (r.mapError TransportError.toSystem, { s with transport := t })

/-! ### Progress -/

/-- What is left of the input, in events and bytes together. -/
def inputSize (s : Session) : Nat := s.transport.inputSize

theorem toSystem_ne_interrupted {cause : TransportError} (h : cause = .timeout ∨ cause = .closed) :
    cause.toSystem.kind ≠ .interrupted := by
  rcases h with rfl | rfl <;> decide

theorem inputSize_read_le {s : Session} {want : Nat} {bytes : Bytes}
    (h : (s.read want).1 = .ok bytes) : bytes.length + (s.read want).2.inputSize ≤ s.inputSize := by
  revert h
  unfold read whenReady
  split
  · simp
  · split
    · simp
    · simp
    · next t hp =>
      intro h
      have h₁ := Transport.inputSize_poll_le s.transport .read s.timeout
      simp only [hp] at h₁
      have h₂ := Transport.inputSize_read_le h
      simp only [inputSize]
      omega

/-- A failure other than a timeout and a closed session took an event off the input. -/
theorem inputSize_read_lt {s : Session} {want : Nat} {cause : TransportError}
    (h : (s.read want).1 = .error cause) (ht : cause ≠ .timeout) (hc : cause ≠ .closed) :
    (s.read want).2.inputSize < s.inputSize := by
  revert h
  unfold read whenReady
  split
  · intro h
    cases h
    exact absurd rfl hc
  · split
    · next e t hp =>
      intro h
      have h₁ : (s.transport.poll .read s.timeout).1 = .error e := by rw [hp]
      have h₂ := Transport.inputSize_poll_lt h₁
      rw [hp] at h₂
      exact h₂
    · intro h
      cases h
      exact absurd rfl ht
    · next t hp =>
      intro h
      have h₁ := Transport.inputSize_poll_le s.transport .read s.timeout
      simp only [hp] at h₁
      have h₂ := Transport.inputSize_read_lt h
      simp only [inputSize]
      omega

theorem length_writes_write_le (s : Session) (bytes : Bytes) :
    (s.write bytes).2.transport.writes.length ≤ s.transport.writes.length := by
  have h₁ := Transport.length_writes_poll_le s.transport .write s.timeout
  unfold write whenReady
  split
  · exact Nat.le_refl _
  · split
    · next hp => simpa [hp] using h₁
    · next hp => simpa [hp] using h₁
    · next t hp =>
      rw [hp] at h₁
      exact Nat.le_trans (Transport.length_writes_write_le t bytes) h₁

theorem length_writes_write_lt {s : Session} {bytes : Bytes} {cause : TransportError}
    (h : (s.write bytes).1 = .error cause) (ht : cause ≠ .timeout) (hc : cause ≠ .closed) :
    (s.write bytes).2.transport.writes.length < s.transport.writes.length := by
  revert h
  unfold write whenReady
  split
  · intro h
    cases h
    exact absurd rfl hc
  · split
    · next e t hp =>
      intro h
      have h₁ : (s.transport.poll .write s.timeout).1 = .error e := by rw [hp]
      have h₂ := Transport.length_writes_poll_lt h₁
      rw [hp] at h₂
      exact h₂
    · intro h
      cases h
      exact absurd rfl ht
    · next t hp =>
      intro h
      have h₁ := Transport.length_writes_poll_le s.transport .write s.timeout
      rw [hp] at h₁
      have h₂ := Transport.length_writes_write_lt h
      exact Nat.lt_of_lt_of_le h₂ h₁

theorem mapError_eq_ok {ε δ α : Type} {f : ε → δ} {r : Except ε α} {a : α}
    (h : r.mapError f = .ok a) : r = .ok a := by
  cases r with
  | error e => cases h
  | ok b =>
    cases h
    rfl

theorem mapError_eq_error {ε δ α : Type} {f : ε → δ} {r : Except ε α} {d : δ}
    (h : r.mapError f = .error d) : ∃ e, r = .error e ∧ f e = d := by
  cases r with
  | error e => exact ⟨e, rfl, by cases h; rfl⟩
  | ok b => cases h

theorem inputSize_pull_le {s s' : Session} {want : Nat} {bytes : Bytes}
    (h : s.pull want = (.ok bytes, s')) : bytes.length + s'.inputSize ≤ s.inputSize := by
  simp only [pull, Prod.mk.injEq] at h
  obtain ⟨h₁, rfl⟩ := h
  exact inputSize_read_le (mapError_eq_ok h₁)

theorem inputSize_pull_lt {s s' : Session} {want : Nat} {e : SystemError}
    (h : s.pull want = (.error e, s')) (hi : e.kind = .interrupted) :
    s'.inputSize < s.inputSize := by
  simp only [pull, Prod.mk.injEq] at h
  obtain ⟨h₁, rfl⟩ := h
  obtain ⟨cause, h₂, rfl⟩ := mapError_eq_error h₁
  exact inputSize_read_lt h₂ (fun hc => toSystem_ne_interrupted (.inl hc) hi)
    (fun hc => toSystem_ne_interrupted (.inr hc) hi)

theorem length_writes_push_le {s s' : Session} {bytes : Bytes} {r : Except SystemError Nat}
    (h : s.push bytes = (r, s')) :
    s'.transport.writes.length ≤ s.transport.writes.length := by
  simp only [push, Prod.mk.injEq] at h
  obtain ⟨-, rfl⟩ := h
  exact length_writes_write_le s bytes

theorem length_writes_push_lt {s s' : Session} {bytes : Bytes} {e : SystemError}
    (h : s.push bytes = (.error e, s')) (hi : e.kind = .interrupted) :
    s'.transport.writes.length < s.transport.writes.length := by
  simp only [push, Prod.mk.injEq] at h
  obtain ⟨h₁, rfl⟩ := h
  obtain ⟨cause, h₂, rfl⟩ := mapError_eq_error h₁
  exact length_writes_write_lt h₂ (fun hc => toSystem_ne_interrupted (.inl hc) hi)
    (fun hc => toSystem_ne_interrupted (.inr hc) hi)

/-! ### Loops -/

/-- Reads `want` more bytes, with those so far in `done`, last first. -/
def fillFrom (s : Session) (want : Nat) (done : Bytes) : Except SystemError Bytes × Session :=
  if want = 0 then (.ok done.reverse, s)
  else
    match h : s.pull want with
    | (.ok [], s') => (.ok done.reverse, s')
    | (.ok (b :: bs), s') =>
      have : s'.inputSize < s.inputSize := by
        have := inputSize_pull_le h
        simp only [List.length_cons] at this
        omega
      fillFrom s' (want - (bs.length + 1)) (bs.reverse ++ b :: done)
    | (.error e, s') =>
      if hi : e.kind = .interrupted then
        have := inputSize_pull_lt h hi
        fillFrom s' want done
      else (.error e, s')
termination_by s.inputSize

/-- Reads until `want` bytes are there, or the input ends. -/
def fill (s : Session) (want : Nat) : Except SystemError Bytes × Session :=
  s.fillFrom want []

/-- Reads `want` bytes, and refuses an input that ends before. -/
def readExact (s : Session) (want : Nat) : Except SystemError Bytes × Session :=
  match s.fill want with
  | (.error e, s) => (.error e, s)
  | (.ok bytes, s) =>
    if bytes.length < want then (.error .unexpectedEof, s) else (.ok bytes, s)

def writeAll (s : Session) (bytes : Bytes) : Except SystemError Unit × Session :=
  if hb : bytes = [] then (.ok (), s)
  else
    match h : s.push bytes with
    | (.ok 0, s') => (.error .writeZero, s')
    | (.ok (n + 1), s') =>
      have : bytes.length - (n + 1) + s'.transport.writes.length <
          bytes.length + s.transport.writes.length := by
        have := length_writes_push_le h
        have := List.length_pos_iff.2 hb
        omega
      writeAll s' (bytes.drop (n + 1))
    | (.error e, s') =>
      if hi : e.kind = .interrupted then
        have := length_writes_push_lt h hi
        writeAll s' bytes
      else (.error e, s')
termination_by bytes.length + s.transport.writes.length

theorem inputSize_fillFrom_le (s : Session) (want : Nat) (done bytes : Bytes)
    (h : (s.fillFrom want done).1 = .ok bytes) :
    bytes.length + (s.fillFrom want done).2.inputSize ≤ done.length + s.inputSize := by
  fun_induction fillFrom s want done with
  | case1 s done =>
    cases h
    simp
  | case2 s want done _ s' hp =>
    cases h
    have := inputSize_pull_le hp
    simp only [List.length_nil] at this
    simp
    omega
  | case3 s want done _ b bs s' hp _ ih =>
    have h₁ := ih h
    have h₂ := inputSize_pull_le hp
    simp only [List.length_append, List.length_reverse, List.length_cons] at h₁ h₂
    omega
  | case4 s want done _ e s' hp hi _ ih =>
    have h₁ := ih h
    have h₂ := inputSize_pull_lt hp hi
    omega
  | case5 => cases h

theorem inputSize_fill_le {s s' : Session} {want : Nat} {bytes : Bytes}
    (h : s.fill want = (.ok bytes, s')) : bytes.length + s'.inputSize ≤ s.inputSize := by
  have := inputSize_fillFrom_le s want [] bytes (by
    have : (s.fill want).1 = .ok bytes := by rw [h]
    exact this)
  have h' : s' = (s.fillFrom want []).2 := by
    have : (s.fill want).2 = s' := by rw [h]
    exact this.symm
  rw [h']
  simpa using this

@[simp] theorem inputSize_write (s : Session) (bytes : Bytes) :
    (s.write bytes).2.inputSize = s.inputSize := by
  unfold write whenReady
  split
  · rfl
  · have hp : (s.transport.poll .write s.timeout).2.inputSize = s.transport.inputSize := by
      unfold Transport.poll
      simp only
      split <;> rfl
    split
    · next h => simpa [h, inputSize] using hp
    · next h => simpa [h, inputSize] using hp
    · next h => simpa [h, inputSize] using hp

theorem inputSize_writeAll (s : Session) (bytes : Bytes) :
    (s.writeAll bytes).2.inputSize = s.inputSize := by
  have push_eq {s s' : Session} {bytes : Bytes} {r : Except SystemError Nat}
      (h : s.push bytes = (r, s')) : s'.inputSize = s.inputSize := by
    simp only [push, Prod.mk.injEq] at h
    rw [← h.2, inputSize_write]
  fun_induction writeAll s bytes with
  | case1 => rfl
  | case2 s bytes _ s' hp => exact push_eq hp
  | case3 s bytes _ n s' hp _ ih => rw [ih, push_eq hp]
  | case4 s bytes _ e s' hp hi _ ih => rw [ih, push_eq hp]
  | case5 s bytes _ e s' hp hi => exact push_eq hp

@[simp] theorem inputSize_flush (s : Session) : s.flush.2.inputSize = s.inputSize := rfl

end Session

end Http2
