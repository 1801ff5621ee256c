import Http2.Session

/-!
What the operations of a session do to its two directions: which bytes leave the input and which
ones are written. Reading touches the input alone and writing the output alone, and neither closes
anything.
-/

namespace Http2

/-! ### Transports -/

namespace Transport

/-- A transport but for its input and its record of polls. -/
def withoutInput (t : Transport) : Transport :=
  { t with input := [], polls := [] }

def withoutOutput (t : Transport) : Transport :=
  { t with writes := [], flushes := [], written := [], polls := [] }

@[simp] theorem withoutInput_poll_read (t : Transport) (timeout : Option Nat) :
    (t.poll .read timeout).2.withoutInput = t.withoutInput := by
  unfold poll
  simp only
  split <;> rfl

@[simp] theorem withoutOutput_poll_write (t : Transport) (timeout : Option Nat) :
    (t.poll .write timeout).2.withoutOutput = t.withoutOutput := by
  unfold poll
  simp only
  split <;> rfl

@[simp] theorem unread_poll_read (t : Transport) (timeout : Option Nat) :
    (t.poll .read timeout).2.unread = t.unread := by
  unfold poll
  simp only
  split
  · next h => simp [unread, h]
  · next h => simp [unread, h]
  · rfl

@[simp] theorem written_poll_write (t : Transport) (timeout : Option Nat) :
    (t.poll .write timeout).2.written = t.written := by
  unfold poll
  simp only
  split <;> rfl

@[simp] theorem withoutInput_read (t : Transport) (want : Nat) :
    (t.read want).2.withoutInput = t.withoutInput := by
  unfold read
  split <;> rfl

theorem unread_afterData (bytes : Bytes) (n : Nat) (rest : List ReadEvent) (t : Transport) :
    bytes.take n ++ ({ t with input := afterData bytes n rest } : Transport).unread =
      bytes ++ ({ t with input := rest } : Transport).unread := by
  have h : bytes.take n ++ bytes.drop n = bytes := List.take_append_drop n bytes
  unfold afterData unread
  split
  · next hd =>
    rw [hd, List.append_nil] at h
    rw [h]
  · rw [List.flatMap_cons, ← List.append_assoc, h]

theorem unread_read {t : Transport} {want : Nat} {bytes : Bytes}
    (h : (t.read want).1 = .ok bytes) : t.unread = bytes ++ (t.read want).2.unread := by
  revert h
  unfold read
  split
  · next data rest hi =>
    intro h
    cases h
    rw [unread_afterData]
    simp [unread, hi]
  · simp
  · next rest hi =>
    intro h
    cases h
    simp [unread, hi]
  · intro h
    cases h
    rfl

theorem unread_read_of_error {t : Transport} {want : Nat} {cause : TransportError}
    (h : (t.read want).1 = .error cause) : (t.read want).2.unread = t.unread := by
  revert h
  unfold read
  split
  · simp
  · next hi => simp [unread, hi]
  · simp
  · simp

theorem length_read_le {t : Transport} {want : Nat} {bytes : Bytes}
    (h : (t.read want).1 = .ok bytes) : bytes.length ≤ want := by
  revert h
  unfold read
  split
  · next data rest hi =>
    intro h
    cases h
    have hl : t.readLimit want ≤ want := Nat.min_le_left _ _
    rw [List.length_take]
    omega
  · simp
  · intro h
    cases h
    exact Nat.zero_le _
  · intro h
    cases h
    exact Nat.zero_le _

@[simp] theorem withoutOutput_write (t : Transport) (bytes : Bytes) :
    (t.write bytes).2.withoutOutput = t.withoutOutput := by
  unfold write
  split <;> rfl

theorem written_write {t : Transport} {bytes : Bytes} {n : Nat}
    (h : (t.write bytes).1 = .ok n) :
    (t.write bytes).2.written = t.written ++ bytes.take n := by
  revert h
  unfold write
  split
  · next limit rest hw =>
    intro h
    cases h
    rw [List.length_take, ← List.take_take, List.take_length]
  · simp
  · intro h
    cases h
    rw [List.take_length]

theorem written_write_of_error {t : Transport} {bytes : Bytes} {cause : TransportError}
    (h : (t.write bytes).1 = .error cause) : (t.write bytes).2.written = t.written := by
  revert h
  unfold write
  split <;> simp

end Transport

/-! ### Single operations of a session -/

namespace Session

/-- From `s` to `s'` exactly `bytes` left the input, and nothing but the input changed. -/
structure Pulled (s s' : Session) (bytes : Bytes) : Prop where
  unread : s.transport.unread = bytes ++ s'.transport.unread
  transport : s'.transport.withoutInput = s.transport.withoutInput
  closed : s'.closed = s.closed
  timeout : s'.timeout = s.timeout

/-- From `s` to `s'` exactly `bytes` were written, and nothing but the output changed. -/
structure Pushed (s s' : Session) (bytes : Bytes) : Prop where
  written : s'.transport.written = s.transport.written ++ bytes
  transport : s'.transport.withoutOutput = s.transport.withoutOutput
  closed : s'.closed = s.closed
  timeout : s'.timeout = s.timeout

variable {s s' s'' : Session}

namespace Pulled

theorem refl (s : Session) : Pulled s s [] := ⟨rfl, rfl, rfl, rfl⟩

theorem trans {a b : Bytes} (h₁ : Pulled s s' a) (h₂ : Pulled s' s'' b) :
    Pulled s s'' (a ++ b) where
  unread := by rw [h₁.unread, h₂.unread, List.append_assoc]
  transport := h₂.transport.trans h₁.transport
  closed := h₂.closed.trans h₁.closed
  timeout := h₂.timeout.trans h₁.timeout

variable {bytes : Bytes} (h : Pulled s s' bytes)
include h

theorem written : s'.transport.written = s.transport.written :=
  (congrArg Transport.written h.transport :)

theorem writes : s'.transport.writes = s.transport.writes :=
  (congrArg Transport.writes h.transport :)

theorem flushes : s'.transport.flushes = s.transport.flushes :=
  (congrArg Transport.flushes h.transport :)

theorem closes : s'.transport.closes = s.transport.closes :=
  (congrArg Transport.closes h.transport :)

theorem closeCalls : s'.transport.closeCalls = s.transport.closeCalls :=
  (congrArg Transport.closeCalls h.transport :)

theorem protocol : s'.transport.protocol = s.transport.protocol :=
  (congrArg Transport.protocol h.transport :)

end Pulled

namespace Pushed

theorem refl (s : Session) : Pushed s s [] := ⟨(List.append_nil _).symm, rfl, rfl, rfl⟩

theorem trans {a b : Bytes} (h₁ : Pushed s s' a) (h₂ : Pushed s' s'' b) :
    Pushed s s'' (a ++ b) where
  written := by rw [h₂.written, h₁.written, List.append_assoc]
  transport := h₂.transport.trans h₁.transport
  closed := h₂.closed.trans h₁.closed
  timeout := h₂.timeout.trans h₁.timeout

variable {bytes : Bytes} (h : Pushed s s' bytes)
include h

theorem input : s'.transport.input = s.transport.input :=
  (congrArg Transport.input h.transport :)

theorem unread : s'.transport.unread = s.transport.unread :=
  (congrArg Transport.unread h.transport :)

theorem chunk : s'.transport.chunk = s.transport.chunk :=
  (congrArg Transport.chunk h.transport :)

theorem closes : s'.transport.closes = s.transport.closes :=
  (congrArg Transport.closes h.transport :)

theorem closeCalls : s'.transport.closeCalls = s.transport.closeCalls :=
  (congrArg Transport.closeCalls h.transport :)

theorem protocol : s'.transport.protocol = s.transport.protocol :=
  (congrArg Transport.protocol h.transport :)

end Pushed

theorem pulled_read {want : Nat} {bytes : Bytes} (h : s.read want = (.ok bytes, s')) :
    Pulled s s' bytes ∧ bytes.length ≤ want := by
  have hu := Transport.unread_poll_read s.transport s.timeout
  have ho := Transport.withoutInput_poll_read s.transport s.timeout
  unfold read whenReady at h
  split at h
  · cases h
  · split at h
    · cases h
    · cases h
    · next t hp =>
      rw [Prod.mk.injEq] at h
      obtain ⟨hr, rfl⟩ := h
      rw [hp] at hu ho
      refine ⟨⟨?_, ?_, rfl, rfl⟩, Transport.length_read_le hr⟩
      · rw [← hu, Transport.unread_read hr]
      · rw [Transport.withoutInput_read, ho]

theorem pulled_read_of_error {want : Nat} {cause : TransportError}
    (h : s.read want = (.error cause, s')) : Pulled s s' [] := by
  have hu := Transport.unread_poll_read s.transport s.timeout
  have ho := Transport.withoutInput_poll_read s.transport s.timeout
  unfold read whenReady at h
  split at h
  · cases h
    exact .refl s
  · split at h
    · next hp =>
      rw [hp] at hu ho
      cases h
      exact ⟨hu.symm, ho, rfl, rfl⟩
    · next hp =>
      rw [hp] at hu ho
      cases h
      exact ⟨hu.symm, ho, rfl, rfl⟩
    · next t hp =>
      rw [Prod.mk.injEq] at h
      obtain ⟨hr, rfl⟩ := h
      rw [hp] at hu ho
      refine ⟨?_, ?_, rfl, rfl⟩
      · rw [← hu, List.nil_append, Transport.unread_read_of_error hr]
      · rw [Transport.withoutInput_read, ho]

theorem pushed_write {bytes : Bytes} {n : Nat} (h : s.write bytes = (.ok n, s')) :
    Pushed s s' (bytes.take n) := by
  have hw := Transport.written_poll_write s.transport s.timeout
  have hi := Transport.withoutOutput_poll_write s.transport s.timeout
  unfold write whenReady at h
  split at h
  · cases h
  · split at h
    · cases h
    · cases h
    · next t hp =>
      rw [Prod.mk.injEq] at h
      obtain ⟨hr, rfl⟩ := h
      rw [hp] at hw hi
      refine ⟨?_, ?_, rfl, rfl⟩
      · rw [Transport.written_write hr, hw]
      · rw [Transport.withoutOutput_write, hi]

theorem pushed_write_of_error {bytes : Bytes} {cause : TransportError}
    (h : s.write bytes = (.error cause, s')) : Pushed s s' [] := by
  have hw := Transport.written_poll_write s.transport s.timeout
  have hi := Transport.withoutOutput_poll_write s.transport s.timeout
  unfold write whenReady at h
  split at h
  · cases h
    exact .refl s
  · split at h
    · next hp =>
      rw [hp] at hw hi
      cases h
      exact ⟨by rw [hw, List.append_nil], hi, rfl, rfl⟩
    · next hp =>
      rw [hp] at hw hi
      cases h
      exact ⟨by rw [hw, List.append_nil], hi, rfl, rfl⟩
    · next t hp =>
      rw [Prod.mk.injEq] at h
      obtain ⟨hr, rfl⟩ := h
      rw [hp] at hw hi
      refine ⟨?_, ?_, rfl, rfl⟩
      · rw [Transport.written_write_of_error hr, hw, List.append_nil]
      · rw [Transport.withoutOutput_write, hi]

theorem pulled_pull {want : Nat} {bytes : Bytes} (h : s.pull want = (.ok bytes, s')) :
    Pulled s s' bytes ∧ bytes.length ≤ want := by
  simp only [pull, Prod.mk.injEq] at h
  obtain ⟨h₁, rfl⟩ := h
  exact pulled_read (Prod.ext (mapError_eq_ok h₁) rfl)

theorem pulled_pull_of_error {want : Nat} {e : SystemError} (h : s.pull want = (.error e, s')) :
    Pulled s s' [] := by
  simp only [pull, Prod.mk.injEq] at h
  obtain ⟨h₁, rfl⟩ := h
  obtain ⟨cause, h₂, -⟩ := mapError_eq_error h₁
  exact pulled_read_of_error (Prod.ext h₂ rfl)

theorem pushed_push {bytes : Bytes} {n : Nat} (h : s.push bytes = (.ok n, s')) :
    Pushed s s' (bytes.take n) := by
  simp only [push, Prod.mk.injEq] at h
  obtain ⟨h₁, rfl⟩ := h
  exact pushed_write (Prod.ext (mapError_eq_ok h₁) rfl)

theorem pushed_push_of_error {bytes : Bytes} {e : SystemError}
    (h : s.push bytes = (.error e, s')) : Pushed s s' [] := by
  simp only [push, Prod.mk.injEq] at h
  obtain ⟨h₁, rfl⟩ := h
  obtain ⟨cause, h₂, -⟩ := mapError_eq_error h₁
  exact pushed_write_of_error (Prod.ext h₂ rfl)

theorem pushed_flush (s : Session) : Pushed s s.flush.2 [] :=
  ⟨(List.append_nil _).symm, rfl, rfl, rfl⟩

/-! ### Loops -/

/-- Reading until a buffer is full takes bytes off the input, at most as many as are wanted; where
it succeeds, they are what it gives. -/
theorem pulled_fillFrom (s : Session) (want : Nat) (done : Bytes) :
    ∃ got : Bytes, Pulled s (s.fillFrom want done).2 got ∧ got.length ≤ want ∧
      ∀ bytes, (s.fillFrom want done).1 = .ok bytes → bytes = done.reverse ++ got := by
  fun_induction fillFrom s want done with
  | case1 s done =>
    refine ⟨[], .refl s, Nat.le_refl _, fun bytes h => ?_⟩
    cases h
    rw [List.append_nil]
  | case2 s want done _ s' hp =>
    refine ⟨[], (pulled_pull hp).1, Nat.zero_le _, fun bytes h => ?_⟩
    cases h
    rw [List.append_nil]
  | case3 s want done _ b bs s' hp _ ih =>
    obtain ⟨got, hg, hl, hb⟩ := ih
    obtain ⟨h₁, h₂⟩ := pulled_pull hp
    rw [List.length_cons] at h₂
    refine ⟨(b :: bs) ++ got, h₁.trans hg, ?_, fun bytes h => ?_⟩
    · rw [List.length_append, List.length_cons]
      omega
    · rw [hb bytes h]
      simp
  | case4 s want done _ e s' hp hi _ ih =>
    obtain ⟨got, hg, hl, hb⟩ := ih
    exact ⟨got, (pulled_pull_of_error hp).trans hg, hl, hb⟩
  | case5 s want done _ e s' hp hi =>
    refine ⟨[], pulled_pull_of_error hp, Nat.zero_le _, fun bytes h => ?_⟩
    cases h

theorem pulled_fill {want : Nat} {bytes : Bytes} (h : s.fill want = (.ok bytes, s')) :
    Pulled s s' bytes ∧ bytes.length ≤ want := by
  obtain ⟨got, hg, hl, hb⟩ := pulled_fillFrom s want []
  unfold fill at h
  rw [h] at hg hb
  rw [hb bytes rfl, List.reverse_nil, List.nil_append]
  exact ⟨hg, hl⟩

theorem pulled_fill_of_error {want : Nat} {e : SystemError} (h : s.fill want = (.error e, s')) :
    ∃ got, Pulled s s' got ∧ got.length ≤ want := by
  obtain ⟨got, hg, hl, -⟩ := pulled_fillFrom s want []
  unfold fill at h
  rw [h] at hg
  exact ⟨got, hg, hl⟩

/-- Writing until all bytes are taken adds a beginning of them, and all where it succeeds. -/
theorem pushed_writeAll (s : Session) (bytes : Bytes) :
    ∃ sent, Pushed s (s.writeAll bytes).2 sent ∧ sent <+: bytes ∧
      ((s.writeAll bytes).1 = .ok () → sent = bytes) := by
  fun_induction writeAll s bytes with
  | case1 s => exact ⟨[], .refl s, List.prefix_refl _, fun _ => rfl⟩
  | case2 s bytes _ s' hp =>
    refine ⟨[], ?_, List.nil_prefix, fun h => by cases h⟩
    simpa using pushed_push hp
  | case3 s bytes _ n s' hp _ ih =>
    obtain ⟨sent, hs, hpre, hall⟩ := ih
    have hsplit := List.take_append_drop (n + 1) bytes
    refine ⟨bytes.take (n + 1) ++ sent, (pushed_push hp).trans hs, ?_, fun h => ?_⟩
    · conv => rhs; rw [← hsplit]
      exact (List.prefix_append_right_inj _).2 hpre
    · rw [hall h, hsplit]
  | case4 s bytes _ e s' hp hi _ ih =>
    obtain ⟨sent, hs, hpre, hall⟩ := ih
    exact ⟨sent, (pushed_push_of_error hp).trans hs, hpre, hall⟩
  | case5 s bytes _ e s' hp hi =>
    exact ⟨[], pushed_push_of_error hp, List.nil_prefix, fun h => by cases h⟩

theorem pushed_of_writeAll {bytes : Bytes} (h : s.writeAll bytes = (.ok (), s')) :
    Pushed s s' bytes := by
  obtain ⟨sent, hs, -, hall⟩ := pushed_writeAll s bytes
  rw [h] at hs hall
  rwa [hall rfl] at hs

theorem length_written_of_writeAll_error {bytes : Bytes} {e : SystemError}
    (h : (s.writeAll bytes).1 = .error e) :
    (s.writeAll bytes).2.transport.written.length <
      s.transport.written.length + bytes.length := by
  fun_induction writeAll s bytes with
  | case1 => cases h
  | case2 s bytes hb s' hp =>
    have hw := congrArg List.length (pushed_push hp).written
    have hpos := List.length_pos_iff.2 hb
    simp only [List.take_zero, List.append_nil] at hw
    change s'.transport.written.length < _
    omega
  | case3 s bytes _ n s' hp _ ih =>
    have hlater := ih h
    have hw := congrArg List.length (pushed_push hp).written
    simp only [List.length_append, List.length_take, List.length_drop] at hw hlater
    omega
  | case4 s bytes _ e s' hp hi _ ih =>
    have hlater := ih h
    rwa [(pushed_push_of_error hp).written, List.append_nil] at hlater
  | case5 s bytes hb e s' hp hi =>
    have hpos := List.length_pos_iff.2 hb
    rw [(pushed_push_of_error hp).written, List.append_nil]
    omega

@[simp] theorem flushes_write (s : Session) (bytes : Bytes) :
    (s.write bytes).2.transport.flushes = s.transport.flushes := by
  have hpoll : (s.transport.poll .write s.timeout).2.flushes = s.transport.flushes := by
    unfold Transport.poll
    simp only
    split <;> rfl
  have hwrite (t : Transport) : (t.write bytes).2.flushes = t.flushes := by
    unfold Transport.write
    split <;> rfl
  unfold write whenReady
  split
  · rfl
  · split
    · next hp => rwa [hp] at hpoll
    · next hp => rwa [hp] at hpoll
    · next t hp =>
      rw [hp] at hpoll
      exact (hwrite t).trans hpoll

@[simp] theorem flushes_writeAll (s : Session) (bytes : Bytes) :
    (s.writeAll bytes).2.transport.flushes = s.transport.flushes := by
  have hpush {s s' : Session} {bytes : Bytes} {r : Except SystemError Nat}
      (hp : s.push bytes = (r, s')) : s'.transport.flushes = s.transport.flushes := by
    rw [push, Prod.mk.injEq] at hp
    rw [← hp.2, flushes_write]
  fun_induction writeAll s bytes with
  | case1 => rfl
  | case2 s bytes _ s' hp => exact hpush hp
  | case3 s bytes _ n s' hp _ ih => rw [ih, hpush hp]
  | case4 s bytes _ e s' hp hi _ ih => rw [ih, hpush hp]
  | case5 s bytes _ e s' hp hi => exact hpush hp

end Session

end Http2
