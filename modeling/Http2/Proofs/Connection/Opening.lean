import Http2.Proofs.Connection.Framing

/-!
Opening a connection. It succeeds with the preface and the empty settings written, or it fails with
a beginning of them written at most, and then the transport was closed once. Without the protocol
`h2` nothing is tried at all.
-/

namespace Http2

/-- What a client writes when it opens a connection: the preface and empty settings. -/
def Session.opening : Bytes := preface ++ [0, 0, 0, 4, 0, 0, 0, 0, 0]

theorem Session.opening_eq : opening = preface ++ Frame.initialSettings.encode := by
  have h : Frame.initialSettings.encode = [0, 0, 0, 4, 0, 0, 0, 0, 0] := by decide
  rw [h, opening]

/-- The preface has 24 bytes, and the settings 9. -/
example : Session.preface.length = 24 ∧ Session.opening.length = 33 := by cbv

/-- The next flush fails with `cause`. -/
def Transport.FlushFails (t : Transport) (cause : TransportError) : Prop :=
  t.flushes.head? = some (some cause)

namespace Session

variable {s s' : Session}

theorem flushFails_of_flush_error {e : SystemError} (h : s.flush = (.error e, s')) :
    ∃ cause, s.transport.FlushFails cause ∧ e = cause.toSystem := by
  unfold flush Transport.flush at h
  rcases hf : s.transport.flushes with _ | ⟨_ | cause, rest⟩
  all_goals rw [hf] at h
  · cases h
  · cases h
  · cases h
    exact ⟨cause, by rw [Transport.FlushFails, hf]; rfl, rfl⟩

/-- Where a frame could not be written, it is whole on the output only after a failed flush. -/
theorem flushFails_of_writeFrame_error {f : Frame} {e : Error} (h : s.writeFrame f = (.error e, s'))
    (hw : s'.transport.written = s.transport.written ++ f.encode) :
    ∃ cause, s.transport.FlushFails cause ∧ e = .io cause.toSystem := by
  unfold writeFrame at h
  split at h
  · next cause s₁ hwrite =>
    cases h
    have hlt := length_written_of_writeAll_error (s := s) (congrArg Prod.fst hwrite)
    rw [hwrite, hw, List.length_append] at hlt
    exact absurd hlt (Nat.lt_irrefl _)
  · next s₁ hwrite =>
    split at h
    · next hflush =>
      cases h
      obtain ⟨cause, hfails, rfl⟩ := flushFails_of_flush_error hflush
      have hsame := flushes_writeAll s f.encode
      rw [hwrite] at hsame
      exact ⟨cause, by rwa [Transport.FlushFails, ← hsame], rfl⟩
    · cases h

/-- **A preface that could not be written** is a beginning of it on the output, and all of it only
after a failed flush. -/
theorem pushed_sendPreface_of_error {e : Error} (h : s.sendPreface = (.error e, s')) :
    (∃ cause, e = .io cause) ∧ ∃ sent, Pushed s s' sent ∧ sent <+: opening ∧
      (sent = opening → ∃ cause, s.transport.FlushFails cause ∧ e = .io cause.toSystem) := by
  unfold sendPreface at h
  obtain ⟨sent, hs, hpre, -⟩ := pushed_writeAll s preface
  split at h
  · next hwrite =>
    cases h
    have hlt := length_written_of_writeAll_error (s := s) (congrArg Prod.fst hwrite)
    rw [hs.written, List.length_append] at hlt
    rw [hwrite] at hs
    refine ⟨⟨_, rfl⟩, sent, hs, hpre.trans (List.prefix_append _ _), fun hall => ?_⟩
    rw [hall, opening, List.length_append] at hlt
    omega
  · next s₁ hwrite =>
    have hp := pushed_of_writeAll hwrite
    obtain ⟨hio, sent, hs', hpre'⟩ := pushed_writeFrame_of_error h
    refine ⟨hio, preface ++ sent, hp.trans hs', ?_, fun hall => ?_⟩
    · rw [opening_eq]
      exact (List.prefix_append_right_inj _).2 hpre'
    · rw [opening_eq] at hall
      obtain rfl := List.append_cancel_left hall
      obtain ⟨cause, hfails, he⟩ := flushFails_of_writeFrame_error h hs'.written
      have hsame := flushes_writeAll s preface
      rw [hwrite] at hsame
      exact ⟨cause, by rwa [Transport.FlushFails, ← hsame], he⟩

end Session

namespace Connection

variable {t : Transport} {timeout : Option Nat}

theorem protocolName_eq : protocolName = [104, 50] := by cbv

theorem closeCalls_abandon {c : Connection} (hc : c.session.closed = false) :
    c.abandon.session.transport.closeCalls = c.session.transport.closeCalls + 1 := by
  simp [abandon, Session.close, hc, Transport.close]

theorem openOn_of_other_protocol (hp : t.protocol ≠ some protocolName) :
    openOn t timeout = (.error (.alpnMismatch t.protocol),
      (ofSession ((Session.new t).setTimeout timeout)).abandon) := by
  simp [openOn, verifyProtocol, hp]

/-- With the protocol `h2`, opening is sending the preface, and the closing after a failure does
not hide it. -/
theorem openOn_of_protocol (hp : t.protocol = some protocolName) :
    openOn t timeout =
      match ((Session.new t).setTimeout timeout).sendPreface with
      | (.error e, session) => (.error e, abandon (ofSession session))
      | (.ok (), session) => (.ok (), ofSession session) := by
  simp only [openOn, verifyProtocol, hp, if_true]
  rfl

/-- **Opening releases the transport on every failure.** It fails for the protocol, which it names,
exactly if that is not `h2`; then nothing was polled, read, written or flushed, and the transport was
closed once. With the protocol `h2` the outcome is that of sending the preface, whatever a closing
answers. If that succeeds, the connection is open, the preface and the empty settings were written
and the transport was not closed; and if it fails, a beginning of them was written, all of it only
after a failed flush, and the transport was closed once. -/
theorem openOn_releases (t : Transport) (timeout : Option Nat) :
    ((∃ selected, (openOn t timeout).1 = .error (.alpnMismatch selected)) ↔
      t.protocol ≠ some [104, 50]) ∧
    (t.protocol ≠ some [104, 50] →
      (openOn t timeout).1 = .error (.alpnMismatch t.protocol) ∧
      (openOn t timeout).2.session.transport.withoutClosing = t.withoutClosing ∧
      (openOn t timeout).2.session.transport.closeCalls = t.closeCalls + 1) ∧
    (t.protocol = some [104, 50] →
      (openOn t timeout).1 = ((Session.new t).setTimeout timeout).sendPreface.1 ∧
      ((openOn t timeout).1 = .ok () →
        (openOn t timeout).2.phase = .ready ∧
        (openOn t timeout).2.session.transport.written = t.written ++ Session.opening ∧
        (openOn t timeout).2.session.transport.closeCalls = t.closeCalls) ∧
      ∀ e, (openOn t timeout).1 = .error e → ∃ sent,
        (openOn t timeout).2.session.transport.written = t.written ++ sent ∧
        sent <+: Session.opening ∧
        (sent = Session.opening → ∃ cause, t.FlushFails cause ∧ e = .io cause.toSystem) ∧
        (openOn t timeout).2.session.transport.closeCalls = t.closeCalls + 1) := by
  rw [← protocolName_eq]
  set s := (Session.new t).setTimeout timeout with hs
  by_cases hp : t.protocol = some protocolName
  · have hopen : openOn t timeout = _ := openOn_of_protocol hp
    rcases hsend : s.sendPreface with ⟨e | u, session⟩
    all_goals
      rw [← hs, hsend] at hopen
      simp only at hopen
      rw [hopen]
    · obtain ⟨⟨cause, rfl⟩, sent, hpushed, hpre, hall⟩ := Session.pushed_sendPreface_of_error hsend
      refine ⟨⟨fun h => ?_, fun h => absurd hp h⟩, fun h => absurd hp h,
        fun _ => ⟨rfl, nofun, fun e he => ⟨sent, ?_, hpre, fun h => ?_, ?_⟩⟩⟩
      · obtain ⟨selected, h⟩ := h
        cases h
      · exact (congrArg Transport.written (Session.withoutClosing_close session) :).trans
          hpushed.written
      · cases he
        exact hall h
      · rw [closeCalls_abandon hpushed.closed]
        exact congrArg (· + 1) hpushed.closeCalls
    · have hpushed := Session.pushed_sendPreface hsend
      rw [← Session.opening_eq] at hpushed
      refine ⟨⟨fun h => ?_, fun h => absurd hp h⟩, fun h => absurd hp h,
        fun _ => ⟨rfl, fun _ => ⟨rfl, hpushed.written, hpushed.closeCalls⟩, nofun⟩⟩
      obtain ⟨selected, h⟩ := h
      cases h
  · rw [openOn_of_other_protocol hp]
    exact ⟨⟨fun _ => hp, fun _ => ⟨_, rfl⟩⟩,
      fun _ => ⟨rfl, Session.withoutClosing_close s, closeCalls_abandon rfl⟩, fun h => absurd h hp⟩

/-- A transport that is interrupted, takes all of the preface in parts, and fails to flush and to
close. -/
def flushless : Transport :=
  { writes := [.fail (.io ⟨.interrupted, ""⟩), .accept 20, .accept 4, .accept 9]
    flushes := [some .timeout]
    closes := [some (.io ⟨.brokenPipe, ""⟩)]
    protocol := some protocolName }

/-- Opening fails with the timeout of the flush after all 33 bytes, and the transport is closed. -/
theorem openOn_releases_flushless :
    (openOn flushless none).1 = .error (.io .timedOut) ∧
    (openOn flushless none).2.session.transport.written = Session.opening ∧
    (openOn flushless none).2.session.transport.closeCalls = 1 := by
  have hp : flushless.protocol = some [104, 50] := by cbv
  have herr : (openOn flushless none).1 = .error (.io .timedOut) := by cbv
  have hlen : (openOn flushless none).2.session.transport.written.length = 33 := by cbv
  obtain ⟨-, -, hopen⟩ := openOn_releases flushless none
  obtain ⟨-, -, hfail⟩ := hopen hp
  obtain ⟨sent, hw, hpre, -, hclosed⟩ := hfail _ herr
  refine ⟨herr, ?_, hclosed⟩
  have hnone : flushless.written = [] := rfl
  rw [hnone, List.nil_append] at hw
  rw [hw] at hlen ⊢
  have hwhole : Session.opening.length = 33 := by cbv
  exact hpre.eq_of_length (hlen.trans hwhole.symm)

end Connection

end Http2
