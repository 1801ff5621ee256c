import Http2.Proofs.Transport.Calls

/-!
Where reading stops, and why. The events of a transport say which bytes come before the first stop:
an interruption is none. Filling a buffer gives these bytes, and what it says when they do not
suffice depends on the stop alone.
-/

namespace Http2

/-- Why a reader gets no more bytes for now. -/
inductive Stop where
  /-- A read gives nothing. -/
  | ending
  /-- A poll runs out of time. -/
  | notReady
  /-- A poll or a read fails. -/
  | failure (cause : TransportError)
  deriving DecidableEq, Repr

namespace Stop

variable {stop : Stop}

/-- The failure that a reader of bytes sees; an ending is none. -/
def cause? : Stop → Option SystemError
  | ending => none
  | notReady => some .timedOut
  | failure cause => some cause.toSystem

/-- What a reader that has `got` so far answers at the stop. -/
def outcome (stop : Stop) (got : Bytes) : Except SystemError Bytes :=
  match stop.cause? with
  | none => .ok got
  | some cause => .error cause

theorem outcome_of_ok {got bytes : Bytes} (h : stop.outcome got = .ok bytes) (got' : Bytes) :
    stop.outcome got' = .ok got' := by
  unfold outcome at *
  split at h
  · rfl
  · cases h

theorem outcome_of_error {got : Bytes} {cause : SystemError} (h : stop.outcome got = .error cause)
    (got' : Bytes) : stop.outcome got' = .error cause := by
  unfold outcome at *
  split at h
  · cases h
  · exact h

theorem outcome_eq_error_iff {got : Bytes} {cause : SystemError} :
    stop.outcome got = .error cause ↔ stop.cause? = some cause := by
  unfold outcome
  split <;> simp_all

/-- Time ran out: in a poll, in the transport or in the system below it. -/
def IsTimeout : Stop → Prop
  | notReady | failure .timeout => True
  | failure (.io cause) => cause.kind = .timedOut ∨ cause.kind = .wouldBlock
  | ending | failure _ => False

instance (stop : Stop) : Decidable stop.IsTimeout := by
  unfold IsTimeout
  split <;> infer_instance

/-- It is no interruption. -/
def IsFinal : Stop → Prop
  | failure cause => ¬ cause.IsInterruption
  | ending | notReady => True

theorem isTimeout_iff : stop.IsTimeout ↔
    ∃ cause, stop.cause? = some cause ∧ (cause.kind = .timedOut ∨ cause.kind = .wouldBlock) := by
  cases stop with
  | ending => simp [IsTimeout, cause?]
  | notReady => simp [IsTimeout, cause?, SystemError.timedOut]
  | failure cause =>
    cases cause <;>
      simp [IsTimeout, cause?, TransportError.toSystem, SystemError.timedOut,
        SystemError.notConnected]

theorem IsFinal.kind_ne (h : stop.IsFinal) {cause : SystemError} (hc : stop.cause? = some cause) :
    cause.kind ≠ .interrupted := by
  cases stop with
  | ending => cases hc
  | notReady =>
    cases hc
    decide
  | failure cause =>
    cases hc
    exact h

end Stop

/-! ### Events -/

/-- The bytes that events bring before reading stops, and why it stops. Behind the last event the
input ends. -/
def ReadEvent.untilStop : List ReadEvent → Bytes × Stop
  | [] => ([], .ending)
  | .data bytes :: rest =>
    if bytes = [] then ([], .ending) else (bytes ++ (untilStop rest).1, (untilStop rest).2)
  | .fail cause :: rest | .pollFail cause :: rest =>
    if cause.IsInterruption then untilStop rest else ([], .failure cause)
  | .notReady :: _ => ([], .notReady)
  | .eof :: _ => ([], .ending)

theorem ReadEvent.isFinal_untilStop (events : List ReadEvent) :
    (untilStop events).2.IsFinal := by
  induction events with
  | nil => exact trivial
  | cons e rest ih =>
    cases e with
    | data bytes =>
      rw [untilStop]
      split
      · exact trivial
      · exact ih
    | fail cause | pollFail cause =>
      rw [untilStop]
      split
      · exact ih
      · next h => exact h
    | notReady | eof => exact trivial

/-- What a read leaves of the data in front still comes before the stop. -/
theorem ReadEvent.untilStop_afterData (b : UInt8) (bs : Bytes) (n : Nat) (rest : List ReadEvent) :
    untilStop (.data (b :: bs) :: rest) =
      ((b :: bs).take n ++ (untilStop (Transport.afterData (b :: bs) n rest)).1,
        (untilStop (Transport.afterData (b :: bs) n rest)).2) := by
  have hsplit : b :: bs = (b :: bs).take n ++ (b :: bs).drop n := (List.take_append_drop n _).symm
  rw [untilStop, if_neg (List.cons_ne_nil b bs)]
  unfold Transport.afterData
  split
  · next hd =>
    rw [hd, List.append_nil] at hsplit
    rw [← hsplit]
  · next hd =>
    rw [untilStop, if_neg hd, ← List.append_assoc, ← hsplit]

/-- An event as a read meets it that gives at most `chunk` bytes: one cut down to nothing takes no
data. -/
def ReadEvent.cutTo (chunk : Option Nat) : ReadEvent → ReadEvent
  | .data bytes => if chunk = some 0 then .eof else .data bytes
  | e => e

theorem ReadEvent.map_cutTo {chunk : Option Nat} (hk : chunk ≠ some 0) (events : List ReadEvent) :
    events.map (cutTo chunk) = events := by
  refine List.map_id'' (fun e => ?_) events
  cases e with
  | data bytes => exact if_neg hk
  | fail | pollFail | notReady | eof => rfl

/-! ### Sessions -/

namespace Session

variable {s s' : Session} {want : Nat} {r : Except SystemError Bytes}

/-- The bytes that a session gives before reading stops, and why it stops. -/
def untilStop (s : Session) : Bytes × Stop :=
  if s.closed then ([], .failure .closed)
  else ReadEvent.untilStop (s.transport.input.map (ReadEvent.cutTo s.transport.chunk))

theorem untilStop_of_open (hc : s.closed = false) :
    s.untilStop =
      ReadEvent.untilStop (s.transport.input.map (ReadEvent.cutTo s.transport.chunk)) := by
  rw [untilStop, hc]
  rfl

theorem isFinal_untilStop (s : Session) : s.untilStop.2.IsFinal := by
  unfold untilStop
  split
  · exact (by decide : TransportError.closed.toSystem.kind ≠ .interrupted)
  · exact ReadEvent.isFinal_untilStop _

/-- A read gives the next bytes, is interrupted, or meets the stop. -/
theorem untilStop_pull (hw : want ≠ 0) (hp : s.pull want = (r, s')) :
    (∃ b bs, r = .ok (b :: bs) ∧ s.untilStop = (b :: bs ++ s'.untilStop.1, s'.untilStop.2)) ∨
      (∃ e, r = .error e ∧ e.kind = .interrupted ∧ s.untilStop = s'.untilStop) ∨
      ∃ stop, s.untilStop = ([], stop) ∧ r = stop.outcome [] := by
  by_cases hc : s.closed = true
  · rw [pull_of_closed hc] at hp
    cases hp
    exact .inr (.inr ⟨.failure .closed, if_pos hc, rfl⟩)
  · have hopen : s.closed = false := by simpa using hc
    rw [pull_of_open hopen] at hp
    have hafter (input : List ReadEvent) (polls : List (Direction × Option Nat)) :
        ({ s with transport := { s.transport with input, polls } } : Session).untilStop =
          ReadEvent.untilStop (input.map (ReadEvent.cutTo s.transport.chunk)) :=
      untilStop_of_open hopen
    simp only at hp
    rw [untilStop_of_open hopen]
    rcases hin : s.transport.input with _ | ⟨e, rest⟩
    · rw [hin] at hp
      cases hp
      exact .inr (.inr ⟨.ending, rfl, rfl⟩)
    · rw [hin] at hp
      rw [List.map_cons]
      cases e with
      | data bytes =>
        by_cases hk : s.transport.chunk = some 0
        · have hlimit : s.transport.readLimit want = 0 := by simp [Transport.readLimit, hk]
          rw [hlimit] at hp
          cases hp
          rw [ReadEvent.cutTo, if_pos hk]
          exact .inr (.inr ⟨.ending, rfl, rfl⟩)
        · have hlimit := Transport.readLimit_pos hk (Nat.pos_of_ne_zero hw)
          obtain ⟨n, hn⟩ := Nat.exists_eq_succ_of_ne_zero (Nat.ne_of_gt hlimit)
          rw [ReadEvent.cutTo, if_neg hk, ReadEvent.map_cutTo hk]
          rw [hn] at hp
          cases bytes with
          | nil =>
            cases hp
            exact .inr (.inr ⟨.ending, rfl, rfl⟩)
          | cons b bs =>
            cases hp
            refine .inl ⟨b, bs.take n, rfl, ?_⟩
            rw [hafter, ReadEvent.map_cutTo hk]
            exact ReadEvent.untilStop_afterData b bs (n + 1) rest
      | fail cause | pollFail cause =>
        cases hp
        by_cases hi : cause.IsInterruption
        · refine .inr (.inl ⟨_, rfl, hi, ?_⟩)
          rw [hafter]
          exact if_pos hi
        · exact .inr (.inr ⟨.failure cause, if_neg hi, rfl⟩)
      | notReady =>
        cases hp
        exact .inr (.inr ⟨.notReady, rfl, rfl⟩)
      | eof =>
        cases hp
        exact .inr (.inr ⟨.ending, rfl, rfl⟩)

/-- **A reader** of no more than comes before the stop gets it, and the rest still comes; one that
wants more is told of the stop. -/
theorem fillFrom_untilStop (s : Session) (want : Nat) (done : Bytes) :
    (want ≤ s.untilStop.1.length →
        (s.fillFrom want done).1 = .ok (done.reverse ++ s.untilStop.1.take want) ∧
          (s.fillFrom want done).2.untilStop = (s.untilStop.1.drop want, s.untilStop.2)) ∧
      (s.untilStop.1.length < want →
        (s.fillFrom want done).1 = s.untilStop.2.outcome (done.reverse ++ s.untilStop.1)) := by
  fun_induction fillFrom s want done with
  | case1 s done => exact ⟨fun _ => ⟨by simp, rfl⟩, fun h => absurd h (Nat.not_lt_zero _)⟩
  | case2 s want done hw s' hp =>
    obtain ⟨b, bs, hr, -⟩ | ⟨e, hr, -⟩ | ⟨stop, hs, hr⟩ := untilStop_pull hw hp
    · cases hr
    · cases hr
    · rw [hs]
      refine ⟨fun h => absurd (Nat.le_zero.1 h) hw, fun _ => ?_⟩
      rw [List.append_nil, Stop.outcome_of_ok hr.symm]
  | case3 s want done hw b bs s' hp _ ih =>
    obtain ⟨b', bs', hr, hs⟩ | ⟨e, hr, -⟩ | ⟨stop, hs, hr⟩ := untilStop_pull hw hp
    · cases hr
      obtain ⟨hle, hlt⟩ := ih
      obtain ⟨-, hl⟩ := pulled_pull hp
      obtain ⟨n, rfl⟩ := Nat.exists_eq_add_of_le hl
      have hleft : (b :: bs).length + n - (bs.length + 1) = n := Nat.add_sub_cancel_left ..
      rw [hleft] at hle hlt ⊢
      simp only [List.reverse_append, List.reverse_reverse, List.reverse_cons, List.append_assoc,
        List.singleton_append] at hle hlt
      rw [hs, List.length_append, List.take_length_add_append, List.drop_length_add_append]
      refine ⟨fun h => ?_, fun h => ?_⟩
      · exact hle (Nat.le_of_add_le_add_left h)
      · exact hlt (Nat.lt_of_add_lt_add_left h)
    · cases hr
    · rw [Stop.outcome_of_ok hr.symm []] at hr
      cases hr
  | case4 s want done hw e s' hp hi _ ih =>
    obtain ⟨b, bs, hr, -⟩ | ⟨e', -, -, hs⟩ | ⟨stop, hs, hr⟩ := untilStop_pull hw hp
    · cases hr
    · rw [hs]
      exact ih
    · have hfinal := s.isFinal_untilStop
      rw [hs] at hfinal
      exact absurd hi (hfinal.kind_ne (Stop.outcome_eq_error_iff.1 hr.symm))
  | case5 s want done hw e s' hp hi =>
    obtain ⟨b, bs, hr, -⟩ | ⟨e', hr, hi', -⟩ | ⟨stop, hs, hr⟩ := untilStop_pull hw hp
    · cases hr
    · cases hr
      exact absurd hi' hi
    · rw [hs]
      refine ⟨fun h => absurd (Nat.le_zero.1 h) hw, fun _ => ?_⟩
      exact (Stop.outcome_of_error hr.symm _).symm

theorem fill_of_le (h : want ≤ s.untilStop.1.length) :
    ∃ s', s.fill want = (.ok (s.untilStop.1.take want), s') ∧
      s'.untilStop = (s.untilStop.1.drop want, s.untilStop.2) := by
  obtain ⟨hfst, hsnd⟩ := (fillFrom_untilStop s want []).1 h
  exact ⟨_, Prod.ext hfst rfl, hsnd⟩

theorem fill_of_lt (h : s.untilStop.1.length < want) :
    ∃ s', s.fill want = (s.untilStop.2.outcome s.untilStop.1, s') :=
  ⟨_, Prod.ext ((fillFrom_untilStop s want []).2 h) rfl⟩

end Session

end Http2
