import Http2.Proofs.Connection.LifeCycle

/-!
Frame boundaries. While a connection is in use, whole frames went out and whole frames were taken
in; the first failure inside a frame, in either direction, takes the connection out of use for
good, and then no byte moves any more.
-/

namespace Http2

/-- A transport but for how it is closed. -/
def Transport.withoutClosing (t : Transport) : Transport :=
  { t with closes := [], closeCalls := 0 }

theorem Session.withoutClosing_close (s : Session) :
    s.close.2.transport.withoutClosing = s.transport.withoutClosing := by
  unfold close
  split <;> rfl

/-- The session stands between frames on a connection that was opened on `t`: what was written is
the preface, the empty settings and whole frames, and what was taken off the input is whole
frames. -/
structure Session.BetweenFrames (t : Transport) (s : Session) : Prop where
  written : ∃ fs : List Frame, s.transport.written =
    t.written ++ preface ++ Frame.initialSettings.encode ++ fs.flatMap Frame.encode
  taken : ∃ bytes, t.unread = bytes ++ s.transport.unread ∧ (Frame.decodeAll bytes).2 = []

namespace Session.BetweenFrames

variable {t : Transport} {s s' : Session}

theorem pulled (h : s.BetweenFrames t) {raw : Bytes} {f : Frame} (hp : s.Pulled s' raw)
    (hd : Frame.decode? raw = some (f, [])) : s'.BetweenFrames t where
  written := by
    rw [hp.written]
    exact h.written
  taken := by
    obtain ⟨bytes, hu, hall⟩ := h.taken
    refine ⟨bytes ++ raw, by rw [hu, hp.unread, List.append_assoc], ?_⟩
    rw [Frame.decodeAll_append hall, Frame.decodeAll_of_whole hd]

theorem pushed (h : s.BetweenFrames t) {f : Frame} (hp : s.Pushed s' f.encode) :
    s'.BetweenFrames t where
  written := by
    obtain ⟨fs, hw⟩ := h.written
    refine ⟨fs ++ [f], ?_⟩
    rw [hp.written, hw]
    simp
  taken := by
    rw [hp.unread]
    exact h.taken

end Session.BetweenFrames

namespace Connection

variable {t : Transport} {c c' : Connection} {target : Nat}

/-! ### Opening -/

theorem betweenFrames_of_openOn {timeout : Option Nat}
    (h : openOn t timeout = (.ok (), c)) : c.session.BetweenFrames t := by
  unfold openOn at h
  simp only at h
  split at h
  · cases h
  · split at h
    · cases h
    · next session hs =>
      cases h
      have hp := Session.pushed_sendPreface hs
      refine ⟨⟨[], ?_⟩, [], ?_, by rw [Frame.decodeAll_nil]⟩
      · rw [hp.written]
        simp [ofSession, Session.setTimeout, Session.new]
      · rw [hp.unread]
        rfl

/-! ### Rounds -/

/-- Between frames, a frame that was read and handled ends between frames, unless its answer could
not be written. -/
theorem betweenFrames_of_handle {f : Frame} {read : Connection} {outcome : Except Error Bool}
    (h : c.session.BetweenFrames t) (hread : c.readFrame = (.ok f, read))
    (hh : (read.noted target).handle target f = (outcome, c')) :
    c'.session.BetweenFrames t ∨ ∃ cause, outcome = .error (.io cause) := by
  obtain ⟨-, raw, hp, hd⟩ := readFrame_ok hread
  have hr : (read.noted target).session.BetweenFrames t := h.pulled hp hd
  obtain ⟨r, -, ⟨-, hcase⟩ | ⟨g, session, -, -, ⟨hs, hcase⟩ | ⟨cause, sent, -, hcase⟩⟩⟩ :=
    handle_cases (read.noted target) target f
  · rw [hh] at hcase
    cases hcase
    exact .inl hr
  · rw [hh] at hcase
    cases hcase
    exact .inl (hr.pushed hs)
  · rw [hh] at hcase
    cases hcase
    exact .inr ⟨cause, rfl⟩

theorem Round.betweenFrames (hr : Round target c c') (h : c.session.BetweenFrames t) :
    c'.session.BetweenFrames t := by
  obtain ⟨f, read, hread, hh⟩ := hr
  rcases betweenFrames_of_handle h hread hh with hb | ⟨cause, hc⟩
  · exact hb
  · cases hc

theorem LastRound.betweenFrames {outcome : Except Error Unit}
    (hl : LastRound target c outcome c') (h : c.session.BetweenFrames t)
    (hu : c'.phase.IsUsable) : c'.session.BetweenFrames t := by
  cases hl with
  | unread hread =>
    obtain ⟨he, -, -⟩ := readFrame_error hread
    rw [he] at hu
    exact hu.elim
  | failed hread hh =>
    rw [session_afterFailure]
    rcases betweenFrames_of_handle h hread hh with hb | ⟨cause, hc⟩
    · exact hb
    · -- the answer stopped somewhere, and no such failure leaves a connection in use
      cases hc
      exact hu.elim
  | ended hread hh =>
    rcases betweenFrames_of_handle h hread hh with hb | ⟨cause, hc⟩
    · exact hb
    · cases hc

/-! ### Calls -/

theorem betweenFrames_sendRequest (method authority path : String) (extra : List Field)
    (h : c.phase.IsUsable → c.session.BetweenFrames t)
    (hu : (c.sendRequest method authority path extra).2.phase.IsUsable) :
    (c.sendRequest method authority path extra).2.session.BetweenFrames t := by
  obtain ⟨ep, hp, ⟨e, -, heq⟩ | ⟨f, session, -, ⟨cause, sent, -, heq⟩ | ⟨hs, heq⟩⟩⟩ :=
    sendRequest_cases c method authority path extra
  · rw [heq] at hu ⊢
    exact h (hp ▸ hu)
  · rw [heq] at hu
    exact hu.elim
  · rw [heq] at hu ⊢
    exact (h (hp ▸ hu)).pushed hs

theorem betweenFrames_recvResponse (target : Nat)
    (h : c.phase.IsUsable → c.session.BetweenFrames t)
    (hu : (c.recvResponse target).2.phase.IsUsable) :
    (c.recvResponse target).2.session.BetweenFrames t := by
  cases hf : c.awaitFault? target with
  | some e =>
    simp only [recvResponse, hf] at hu ⊢
    exact h hu
  | none =>
    obtain ⟨hc, -⟩ := of_awaitFault?_eq_none hf
    obtain ⟨mid, outcome, d, hr, hl, hcases⟩ := recvResponse_rounds hf
    have hmid : mid.session.BetweenFrames t :=
      rounds_induction (P := fun d => d.session.BetweenFrames t)
        (fun _ _ h hr => hr.betweenFrames h) (h hc) hr
    rcases hcases with ⟨e, -, heq⟩ | ⟨-, heq⟩
    · rw [heq] at hu ⊢
      exact hl.betweenFrames hmid hu
    · rw [heq] at hu ⊢
      exact hl.betweenFrames hmid hu

/-! ### Runs -/

/-- Out of use, a connection makes no poll, read, write or flush any more. -/
theorem withoutClosing_run (hc : ¬ c.phase.IsUsable) (calls : List Call) :
    (c.run calls).session.transport.withoutClosing = c.session.transport.withoutClosing := by
  refine (run_induction (P := fun d => ¬ d.phase.IsUsable ∧
    d.session.transport.withoutClosing = c.session.transport.withoutClosing)
    ?_ ?_ ?_ calls ⟨hc, rfl⟩).2
  · rintro d method authority path extra ⟨hd, heq⟩
    have hn : d.phase ≠ .ready := fun hr => hd (by rw [hr]; trivial)
    rw [sendRequest_of_not_ready hn]
    exact ⟨hd, heq⟩
  · rintro d target ⟨hd, heq⟩
    rw [recvResponse_of_not_usable hd]
    exact ⟨hd, heq⟩
  · rintro d ⟨-, heq⟩
    refine ⟨by rw [phase_close]; exact id, ?_⟩
    rw [← heq]
    unfold close
    split
    · rfl
    · exact Session.withoutClosing_close d.session

/-- **Frame boundaries.** On a connection that was opened, whatever is called and whatever the
transport does: while the connection is in use, both directions stand between frames; where one of
them stopped inside a frame, the connection has failed or is closed, and then nothing more is
polled, read, written or flushed. -/
theorem frame_boundaries {timeout : Option Nat} (hopen : openOn t timeout = (.ok (), c))
    (calls : List Call) :
    ((c.run calls).phase.IsUsable → (c.run calls).session.BetweenFrames t) ∧
    (¬ (c.run calls).session.BetweenFrames t →
      ((c.run calls).phase = .failed ∨ (c.run calls).phase = .closed) ∧
      ∀ more : List Call,
        ((c.run calls).run more).session.transport.withoutClosing =
          (c.run calls).session.transport.withoutClosing) := by
  -- out of use nothing is claimed, so every call may assume a connection in use
  have hbetween : (c.run calls).phase.IsUsable → (c.run calls).session.BetweenFrames t := by
    refine run_induction (P := fun d => d.phase.IsUsable → d.session.BetweenFrames t)
      ?_ ?_ ?_ calls fun _ => betweenFrames_of_openOn hopen
    · intro d method authority path extra h hu
      exact betweenFrames_sendRequest method authority path extra h hu
    · intro d target h hu
      exact betweenFrames_recvResponse target h hu
    · intro d _ hu
      rw [phase_close] at hu
      exact hu.elim
  refine ⟨hbetween, fun hn => ?_⟩
  have hout : ¬ (c.run calls).phase.IsUsable := fun hu => hn (hbetween hu)
  exact ⟨Phase.not_isUsable_iff.1 hout, withoutClosing_run hout⟩

/-- A transport that takes the preface, the settings and three bytes more. -/
def breaksOff : Transport :=
  { writes := [.accept 24, .accept 9, .accept 3, .fail .closed], protocol := some protocolName }

/-- Opened on it, a connection stands between frames until its first request breaks off, and then
nothing moves any more. -/
theorem frame_boundaries_breaksOff : ∃ c, openOn breaksOff none = (.ok (), c) ∧
    c.session.BetweenFrames breaksOff ∧
    ¬ (c.run [.sendRequest "GET" "a" "/" []]).session.BetweenFrames breaksOff ∧
    ∀ more : List Call,
      ((c.run [.sendRequest "GET" "a" "/" []]).run more).session.transport.withoutClosing =
        (c.run [.sendRequest "GET" "a" "/" []]).session.transport.withoutClosing := by
  have hopen : openOn breaksOff none = (.ok (), (openOn breaksOff none).2) := Prod.ext (by cbv) rfl
  have hready : (openOn breaksOff none).2.phase = .ready := by cbv
  have hwritten : ((openOn breaksOff none).2.run
      [.sendRequest "GET" "a" "/" []]).session.transport.written.length = 36 := by cbv
  have hinside : ¬ ((openOn breaksOff none).2.run
      [.sendRequest "GET" "a" "/" []]).session.BetweenFrames breaksOff := by
    rintro ⟨⟨fs, hw⟩, -⟩
    have hlen : (breaksOff.written ++ Session.preface ++ Frame.initialSettings.encode).length =
        33 := by cbv
    -- three bytes are no frames
    rw [hw, List.length_append, hlen] at hwritten
    cases fs with
    | nil => exact absurd hwritten (by decide)
    | cons f fs =>
      rw [List.flatMap_cons, List.length_append, Frame.length_encode, Frame.size,
        Frame.headerSize] at hwritten
      omega
  refine ⟨_, hopen, (frame_boundaries hopen []).1 ?_, hinside,
    ((frame_boundaries hopen _).2 hinside).2⟩
  change Phase.IsUsable (openOn breaksOff none).2.phase
  rw [hready]
  trivial

end Connection

end Http2
