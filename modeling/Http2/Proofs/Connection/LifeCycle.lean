import Mathlib.Tactic.ByContra
import Http2.Proofs.Connection.Run

/-!
The life of a connection. Its phase only moves forward, a connection that failed or was closed
takes no more calls, a wait that fails leaves the connection failed unless the failure belongs to
the awaited stream alone, and the transport is closed once at most.
-/

namespace Http2

/-- The place of a phase in the order of a connection's life. -/
def Phase.rank : Phase → Nat
  | .ready => 0
  | .draining _ => 1
  | .failed => 2
  | .closed => 3

theorem Phase.rank_le_one {p : Phase} (hu : p.IsUsable) : p.rank ≤ 1 := by
  cases p with
  | ready => exact Nat.zero_le _
  | draining _ => exact Nat.le_refl _
  | failed | closed => exact hu.elim

/-- The phase `p` goes over to `p'` while frames are handled: it stays, or the peer shuts down. -/
def Phase.Drains (p p' : Phase) : Prop := p' = p ∨ ∃ last, p' = .draining last

theorem Phase.Drains.isUsable {p p' : Phase} (h : p.Drains p') (hu : p.IsUsable) :
    p'.IsUsable := by
  rcases h with rfl | ⟨last, rfl⟩
  · exact hu
  · exact trivial

theorem Phase.Drains.rank_le {p p' : Phase} (h : p.Drains p') (hu : p.IsUsable) :
    p.rank ≤ p'.rank := by
  rcases h with rfl | ⟨last, rfl⟩
  · exact Nat.le_refl _
  · exact rank_le_one hu

namespace Connection

variable {c c' : Connection} {target : Nat}

/-! ### Calls that are refused -/

theorem sendRequest_of_not_ready (h : c.phase ≠ .ready) (method authority path : String)
    (extra : List Field) :
    c.sendRequest method authority path extra = (.error .notConnected, c) := by
  simp [sendRequest, Endpoint.prepare, h]

theorem recvResponse_of_not_usable (h : ¬ c.phase.IsUsable) (target : Nat) :
    c.recvResponse target = (.error .notConnected, c) := by
  rcases Phase.not_isUsable_iff.1 h with hp | hp <;>
    simp [recvResponse, Endpoint.awaitFault?, hp]

theorem of_awaitFault?_eq_none (h : c.awaitFault? target = none) :
    c.phase.IsUsable ∧ ∃ s, c.streams.find? target = some s ∧ s.state.isAwaiting = true := by
  have hs (h : c.streamFault? target = none) :
      ∃ s, c.streams.find? target = some s ∧ s.state.isAwaiting = true := by
    simp only [Endpoint.streamFault?, Stream.Registry.state?] at h
    cases hf : c.streams.find? target with
    | none => simp [hf] at h
    | some s => exact ⟨s, rfl, by simpa [hf] using h⟩
  unfold Endpoint.awaitFault? at h
  split at h
  · cases h
  · cases h
  · next last hp =>
    split at h
    · cases h
    · exact ⟨by rw [hp]; trivial, hs h⟩
  · next hp => exact ⟨by rw [hp]; trivial, hs h⟩

/-! ### Rounds -/

theorem pushed_handle (c : Connection) (target : Nat) (f : Frame) :
    ∃ sent, c.session.Pushed (c.handle target f).2.session sent := by
  obtain ⟨r, -, ⟨-, h⟩ | ⟨g, session, -, -, ⟨hs, h⟩ | ⟨cause, sent, hs, h⟩⟩⟩ :=
    handle_cases c target f
  · rw [h]
    exact ⟨[], .refl _⟩
  · rw [h]
    exact ⟨_, hs⟩
  · rw [h]
    exact ⟨_, hs⟩

/-- The endpoint after a frame that was read and handled is the one after its effect, whose outcome
stands unless an answer could not be written. -/
theorem effect_of_handle {f : Frame} {read : Connection} {outcome : Except Error Bool}
    (hread : c.readFrame = (.ok f, read))
    (hh : (read.noted target).handle target f = (outcome, c')) :
    ∃ r, (c.noteFrame target).Effect target f r ∧ c'.toEndpoint = r.endpoint ∧
      (r.outcome = outcome ∨ ∃ cause, outcome = .error (.io cause)) := by
  obtain ⟨r, heff, hcases⟩ := handle_cases (read.noted target) target f
  rw [toEndpoint_noted hread] at heff
  rw [hh] at hcases
  refine ⟨r, heff, ?_⟩
  rcases hcases with ⟨-, h⟩ | ⟨g, session, -, hout, ⟨-, h⟩ | ⟨cause, sent, -, h⟩⟩
  · cases h
    exact ⟨rfl, .inl rfl⟩
  · cases h
    exact ⟨rfl, .inl hout⟩
  · cases h
    exact ⟨rfl, .inr ⟨cause, rfl⟩⟩

theorem drains_of_handle {f : Frame} {read : Connection} {outcome : Except Error Bool}
    (hread : c.readFrame = (.ok f, read))
    (hh : (read.noted target).handle target f = (outcome, c')) : c.phase.Drains c'.phase := by
  obtain ⟨r, heff, hr, -⟩ := effect_of_handle hread hh
  rw [hr]
  exact heff.phase.imp id fun h => ⟨_, h⟩

theorem Round.drains (h : Round target c c') : c.phase.Drains c'.phase := by
  obtain ⟨f, read, hread, hh⟩ := h
  exact drains_of_handle hread hh

/-- A frame changes no stream but the awaited one, and what ends the wait and leaves the
connection in use closes that one. -/
theorem streams_of_handle {f : Frame} {read : Connection} {outcome : Except Error Bool}
    (hread : c.readFrame = (.ok f, read))
    (hh : (read.noted target).handle target f = (outcome, c')) :
    ∃ g : Stream → Stream, (∀ s, (g s).id = s.id) ∧
      c'.streams = c.streams.modify target g ∧
      (outcome = .ok true ∨ (∃ e, outcome = .error e ∧ e.EndsStream) →
        ∀ s, (g s).state = .closed) := by
  have modify_note (g : Stream → Stream) : (c.noteFrame target).streams.modify target g =
      c.streams.modify target fun s => g s.frameReceived :=
    Stream.Registry.modify_modify _ _ _ _ Stream.id_frameReceived
  obtain ⟨r, heff, hend, hout⟩ := effect_of_handle hread hh
  by_cases hc : outcome = .ok true ∨ ∃ e, outcome = .error e ∧ e.EndsStream
  · -- a failure to write an answer ends no stream, so the outcome is that of the effect
    have hr : r.outcome = outcome := by
      refine hout.resolve_right ?_
      rintro ⟨cause, rfl⟩
      rcases hc with h | ⟨e, h, hn⟩
      · cases h
      · cases h
        exact hn.elim
    obtain ⟨g, hg, hst⟩ := heff.closes (by rw [hr]; exact hc)
    exact ⟨fun s => g s.frameReceived, fun s => by rw [(hg _).1, Stream.id_frameReceived],
      by rw [hend, hst, modify_note], fun _ s => (hg _).2⟩
  · obtain ⟨g, hg, hst⟩ := heff.streams
    exact ⟨fun s => g s.frameReceived, fun s => by rw [hg, Stream.id_frameReceived],
      by rw [hend, hst, modify_note], fun h => absurd h hc⟩

theorem Round.isSome_find? (h : Round target c c') (hs : (c.streams.find? target).isSome) :
    (c'.streams.find? target).isSome := by
  obtain ⟨f, read, hread, hh⟩ := h
  obtain ⟨g, hg, hst, -⟩ := streams_of_handle hread hh
  rw [hst, Stream.Registry.find?_modify_self _ _ _ hg]
  simpa using hs

theorem state?_modify_closed {r : Stream.Registry} {g : Stream → Stream}
    (hg : ∀ s, (g s).id = s.id) (hcl : ∀ s, (g s).state = .closed)
    (hs : (r.find? target).isSome) : (r.modify target g).state? target = some .closed := by
  obtain ⟨s, hs⟩ := Option.isSome_iff_exists.1 hs
  rw [Stream.Registry.state?, Stream.Registry.find?_modify_self r target g hg, hs]
  exact congrArg some (hcl s)

/-! ### How a wait ends -/

/-- How a failed wait leaves the connection: `before` is its phase before the last frame. -/
def LeftBy (target : Nat) (before : Phase) (c' : Connection) : Error → Prop
  | .streamReset .. => c'.phase = before ∧ c'.streams.state? target = some .closed
  | .goAway last .. => c'.phase = .draining last ∧ c'.streams.state? target = some .closed
  | _ => c'.phase = .failed

theorem leftBy_of_failed {before : Phase} {e : Error} (he : ¬ e.EndsStream)
    (hp : c'.phase = .failed) : LeftBy target before c' e := by
  cases e with
  | streamReset => exact absurd trivial he
  | goAway => exact absurd trivial he
  | _ => exact hp

theorem afterFailure_of_not_endsStream {e : Error} (he : ¬ e.EndsStream) :
    c.afterFailure e = c.fail := by
  cases e with
  | streamReset => exact absurd trivial he
  | goAway => exact absurd trivial he
  | _ => rfl

@[simp] theorem session_afterFailure (c : Connection) (e : Error) :
    (c.afterFailure e).session = c.session := by
  cases e <;> rfl

/-- **A wait that fails** leaves the connection failed, or ends the awaited stream. -/
theorem LastRound.leftBy {e : Error} (h : LastRound target c (.error e) c')
    (hs : (c.streams.find? target).isSome) : LeftBy target c.phase c' e := by
  cases h with
  | unread hread =>
    obtain ⟨he, hne, -⟩ := readFrame_error hread
    exact leftBy_of_failed hne (by rw [he])
  | @failed f read d _ hread hh =>
    by_cases he : e.EndsStream
    · -- the failure is not that of an answer, so the effect of the frame tells the phase
      obtain ⟨g, hg, hst, hcl⟩ := streams_of_handle hread hh
      have hclosed : d.streams.state? target = some .closed := by
        rw [hst]
        exact state?_modify_closed hg (hcl (.inr ⟨e, rfl, he⟩)) hs
      obtain ⟨r, heff, hend, hout⟩ := effect_of_handle hread hh
      have hr : r.outcome = .error e := by
        refine hout.resolve_right ?_
        rintro ⟨cause, hio⟩
        cases hio
        exact he.elim
      cases e with
      | streamReset id code =>
        refine ⟨?_, hclosed⟩
        change d.phase = c.phase
        rw [hend, heff.phase_of_streamReset hr]
        rfl
      | goAway last code debug =>
        refine ⟨?_, hclosed⟩
        change d.phase = .draining last
        rw [hend, heff.phase_of_goAway hr]
      | _ => exact he.elim
    · rw [afterFailure_of_not_endsStream he]
      exact leftBy_of_failed he rfl

theorem LastRound.drains (h : LastRound target c (.ok ()) c') : c.phase.Drains c'.phase := by
  cases h with
  | ended hread hh => exact drains_of_handle hread hh

theorem LastRound.rank_le {outcome : Except Error Unit} (h : LastRound target c outcome c')
    (hu : c.phase.IsUsable) (hs : (c.streams.find? target).isSome) :
    c.phase.rank ≤ c'.phase.rank := by
  cases outcome with
  | ok u => exact h.drains.rank_le hu
  | error e =>
    have hl := h.leftBy hs
    have hlow := Phase.rank_le_one hu
    cases e with
    | streamReset => exact Nat.le_of_eq (congrArg Phase.rank hl.1.symm)
    | goAway =>
      rw [hl.1]
      exact hlow
    | _ =>
      have hp : c'.phase = .failed := hl
      rw [hp]
      exact Nat.le_trans hlow (by decide)

/-! ### Whole waits -/

/-- What a wait leads from and to: its rounds, its last one, and the response that is taken. -/
theorem recvResponse_rounds (h : c.awaitFault? target = none) :
    ∃ mid outcome d, Relation.ReflTransGen (Round target) c mid ∧
      LastRound target mid outcome d ∧
      ((∃ e, outcome = .error e ∧ c.recvResponse target = (.error e, d)) ∨
        (outcome = .ok () ∧ c.recvResponse target =
          (.ok (d.responseOn target), { d with toEndpoint := d.taken target }))) := by
  obtain ⟨mid, hr, hl⟩ := awaitEnd_rounds c target
  refine ⟨mid, _, _, hr, hl, ?_⟩
  unfold recvResponse
  rw [h]
  simp only
  rcases c.awaitEnd target with ⟨e | u, d⟩
  · exact .inl ⟨e, rfl, rfl⟩
  · exact .inr ⟨rfl, rfl⟩

theorem session_recvResponse (hf : c.awaitFault? target = none) :
    (c.recvResponse target).2.session = (c.awaitEnd target).2.session := by
  unfold recvResponse
  rw [hf]
  simp only
  rcases c.awaitEnd target with ⟨e | u, d⟩ <;> rfl

/-- During a wait the connection stays in use, its phase does not go back, and the awaited stream
stays among the streams. -/
theorem rounds_keep {mid : Connection} (hr : Relation.ReflTransGen (Round target) c mid)
    (hu : c.phase.IsUsable) (hs : (c.streams.find? target).isSome) :
    mid.phase.IsUsable ∧ c.phase.rank ≤ mid.phase.rank ∧
      (mid.streams.find? target).isSome := by
  refine rounds_induction (P := fun d => d.phase.IsUsable ∧ c.phase.rank ≤ d.phase.rank ∧
    (d.streams.find? target).isSome) ?_ ⟨hu, Nat.le_refl _, hs⟩ hr
  rintro d d' ⟨hu, hle, hs⟩ hround
  exact ⟨hround.drains.isUsable hu, Nat.le_trans hle (hround.drains.rank_le hu),
    hround.isSome_find? hs⟩

theorem rank_le_recvResponse (c : Connection) (target : Nat) :
    c.phase.rank ≤ (c.recvResponse target).2.phase.rank := by
  cases hf : c.awaitFault? target with
  | some e => simp [recvResponse, hf]
  | none =>
    obtain ⟨hu, s, hs, -⟩ := of_awaitFault?_eq_none hf
    obtain ⟨mid, outcome, d, hr, hl, hcases⟩ := recvResponse_rounds hf
    obtain ⟨hum, hle, hsm⟩ := rounds_keep hr hu (by rw [hs]; rfl)
    have hle' := Nat.le_trans hle (hl.rank_le hum hsm)
    rcases hcases with ⟨e, -, heq⟩ | ⟨-, heq⟩
    · rw [heq]
      exact hle'
    · rw [heq]
      exact hle'

/-! ### Requests -/

@[simp] theorem phase_prepare (e : Endpoint) (fs : List Field) :
    (e.prepare fs).2.phase = e.phase := by
  unfold Endpoint.prepare
  split
  · simp only
    split
    · rfl
    · split
      · rfl
      · split <;> rfl
  · rfl

/-- What a request leads to: it is refused before anything is written, or its frame could not be
written, or it went out. -/
theorem sendRequest_cases (c : Connection) (method authority path : String)
    (extra : List Field) :
    ∃ ep, ep.phase = c.phase ∧
      ((∃ e, c.toEndpoint.prepare (Endpoint.requestFields method authority path extra) =
            (.error e, ep) ∧
          c.sendRequest method authority path extra = (.error e, { c with toEndpoint := ep })) ∨
        ∃ (f : Frame) (session : Session),
          c.toEndpoint.prepare (Endpoint.requestFields method authority path extra) =
            (.ok f, ep) ∧
          ((∃ cause sent, c.session.Pushed session sent ∧
              c.sendRequest method authority path extra =
                (.error (.io cause), fail ⟨ep, session⟩)) ∨
            (c.session.Pushed session f.encode ∧
              c.sendRequest method authority path extra =
                (.ok f.streamId, ⟨ep.markSent f.streamId, session⟩)))) := by
  have hp := phase_prepare c.toEndpoint (Endpoint.requestFields method authority path extra)
  unfold sendRequest
  rcases hprep : c.toEndpoint.prepare (Endpoint.requestFields method authority path extra) with
    ⟨e | f, ep⟩
  all_goals rw [hprep] at hp
  · exact ⟨ep, hp, .inl ⟨e, rfl, rfl⟩⟩
  · refine ⟨ep, hp, .inr ?_⟩
    simp only
    rcases hw : c.session.writeFrame f with ⟨e | u, session⟩
    · obtain ⟨⟨cause, rfl⟩, sent, hs, -⟩ := Session.pushed_writeFrame_of_error hw
      exact ⟨f, session, rfl, .inl ⟨cause, sent, hs, rfl⟩⟩
    · exact ⟨f, session, rfl, .inr ⟨Session.pushed_writeFrame hw, rfl⟩⟩

theorem rank_le_sendRequest (c : Connection) (method authority path : String)
    (extra : List Field) :
    c.phase.rank ≤ (c.sendRequest method authority path extra).2.phase.rank := by
  by_cases hp : c.phase = .ready
  · rw [hp]
    exact Nat.zero_le _
  · simp only [sendRequest_of_not_ready hp, Nat.le_refl]

/-! ### Closing -/

theorem phase_close (c : Connection) : c.close.2.phase = .closed := by
  unfold close
  split
  · next h => exact h
  · rfl

theorem rank_le_close (c : Connection) : c.phase.rank ≤ c.close.2.phase.rank := by
  rw [phase_close]
  cases c.phase with
  | ready | draining | failed | closed => simp [Phase.rank]

/-- How often the session's transport was closed, and once more if the session is open still. -/
def closings (s : Session) : Nat :=
  s.transport.closeCalls + if s.closed then 0 else 1

theorem closings_of_pulled {s s' : Session} {bytes : Bytes} (h : s.Pulled s' bytes) :
    closings s' = closings s := by
  rw [closings, h.closeCalls, h.closed, closings]

theorem closings_of_pushed {s s' : Session} {bytes : Bytes} (h : s.Pushed s' bytes) :
    closings s' = closings s := by
  rw [closings, h.closeCalls, h.closed, closings]

theorem closings_sessionClose (s : Session) : closings s.close.2 = closings s := by
  unfold Session.close closings
  split
  · rfl
  · next h => simp [Transport.close]

theorem closings_close (c : Connection) : closings c.close.2.session = closings c.session := by
  unfold close
  split
  · rfl
  · exact closings_sessionClose c.session

theorem closings_of_handle {f : Frame} {read : Connection} {outcome : Except Error Bool}
    (hread : c.readFrame = (.ok f, read))
    (hh : (read.noted target).handle target f = (outcome, c')) :
    closings c'.session = closings c.session := by
  obtain ⟨-, raw, hp, -⟩ := readFrame_ok hread
  obtain ⟨sent, hs⟩ := pushed_handle (read.noted target) target f
  rw [hh] at hs
  rw [closings_of_pushed hs]
  exact closings_of_pulled hp

theorem LastRound.closings_eq {outcome : Except Error Unit} (h : LastRound target c outcome c') :
    closings c'.session = closings c.session := by
  cases h with
  | unread hread =>
    obtain ⟨-, -, raw, hp⟩ := readFrame_error hread
    exact closings_of_pulled hp
  | failed hread hh =>
    rw [session_afterFailure]
    exact closings_of_handle hread hh
  | ended hread hh => exact closings_of_handle hread hh

theorem closings_recvResponse (c : Connection) (target : Nat) :
    closings (c.recvResponse target).2.session = closings c.session := by
  cases hf : c.awaitFault? target with
  | some e => simp [recvResponse, hf]
  | none =>
    obtain ⟨mid, outcome, d, hr, hl, hcases⟩ := recvResponse_rounds hf
    have hmid : closings mid.session = closings c.session := by
      refine rounds_induction (P := fun d => closings d.session = closings c.session) ?_ rfl hr
      rintro d d' hd ⟨f, read, hread, hh⟩
      rw [closings_of_handle hread hh, hd]
    rcases hcases with ⟨e, -, heq⟩ | ⟨-, heq⟩
    · rw [heq, hl.closings_eq, hmid]
    · rw [heq]
      exact hl.closings_eq.trans hmid

theorem closings_sendRequest (c : Connection) (method authority path : String)
    (extra : List Field) :
    closings (c.sendRequest method authority path extra).2.session = closings c.session := by
  obtain ⟨ep, -, ⟨e, -, h⟩ | ⟨f, session, -, ⟨cause, sent, hs, h⟩ | ⟨hs, h⟩⟩⟩ :=
    sendRequest_cases c method authority path extra
  · rw [h]
  · rw [h]
    exact closings_of_pushed hs
  · rw [h]
    exact closings_of_pushed hs

/-! ### The whole life -/

theorem rank_le_run (c : Connection) (calls : List Call) :
    c.phase.rank ≤ (c.run calls).phase.rank := by
  refine run_induction (P := fun d => c.phase.rank ≤ d.phase.rank) ?_ ?_ ?_ calls (Nat.le_refl _)
  · intro d method authority path extra h
    exact Nat.le_trans h (rank_le_sendRequest d method authority path extra)
  · intro d target h
    exact Nat.le_trans h (rank_le_recvResponse d target)
  · intro d h
    exact Nat.le_trans h (rank_le_close d)

theorem closings_run (c : Connection) (calls : List Call) :
    closings (c.run calls).session = closings c.session := by
  -- closing spends the one that an open session has left, and nothing else counts
  refine run_induction (P := fun d => closings d.session = closings c.session) ?_ ?_ ?_ calls rfl
  · intro d method authority path extra h
    rw [closings_sendRequest, h]
  · intro d target h
    rw [closings_recvResponse, h]
  · intro d h
    rw [closings_close, h]

theorem isReady_iff : c.isReady = true ↔ c.phase.rank = 0 := by
  unfold Endpoint.isReady
  cases c.phase <;> simp [Phase.rank]

theorem isReady_run (h : c.isReady = false) (calls : List Call) :
    (c.run calls).isReady = false := by
  by_contra hr
  have h₁ := isReady_iff.1 (by simpa using hr)
  have h₂ := rank_le_run c calls
  have h₃ : c.isReady = true := isReady_iff.2 (by omega)
  rw [h] at h₃
  cases h₃

theorem refuses_of_not_usable (h : c.phase = .failed ∨ c.phase = .closed) :
    (∀ method authority path extra,
      c.sendRequest method authority path extra = (.error .notConnected, c)) ∧
    ∀ target, c.recvResponse target = (.error .notConnected, c) := by
  have hu : ¬ c.phase.IsUsable := Phase.not_isUsable_iff.2 h
  have hn : c.phase ≠ .ready := fun hr => hu (by rw [hr]; trivial)
  exact ⟨sendRequest_of_not_ready hn, recvResponse_of_not_usable hu⟩

theorem leftBy_recvResponse {e : Error} (hf : c.awaitFault? target = none)
    (he : (c.recvResponse target).1 = .error e) :
    ∃ mid, Relation.ReflTransGen (Round target) c mid ∧
      LastRound target mid (.error e) (c.recvResponse target).2 ∧
      LeftBy target mid.phase (c.recvResponse target).2 e := by
  obtain ⟨hu, s, hs, -⟩ := of_awaitFault?_eq_none hf
  obtain ⟨mid, outcome, d, hr, hl, ⟨e', rfl, heq⟩ | ⟨-, heq⟩⟩ := recvResponse_rounds hf
  · rw [heq] at he
    cases he
    rw [heq]
    obtain ⟨-, -, hsm⟩ := rounds_keep hr hu (by rw [hs]; rfl)
    exact ⟨mid, hr, hl, hl.leftBy hsm⟩
  · rw [heq] at he
    cases he

theorem isUsable_recvResponse {response : Response}
    (hok : (c.recvResponse target).1 = .ok response) :
    (c.recvResponse target).2.phase.IsUsable := by
  cases hf : c.awaitFault? target with
  | some e =>
    simp only [recvResponse, hf] at hok
    cases hok
  | none =>
    obtain ⟨hu, s, hs, -⟩ := of_awaitFault?_eq_none hf
    obtain ⟨mid, outcome, d, hr, hl, ⟨e', rfl, heq⟩ | ⟨rfl, heq⟩⟩ := recvResponse_rounds hf
    · rw [heq] at hok
      cases hok
    · rw [heq]
      obtain ⟨hum, -, -⟩ := rounds_keep hr hu (by rw [hs]; rfl)
      exact hl.drains.isUsable hum

theorem closeCalls_run_le (c : Connection) (calls : List Call) :
    (c.run calls).session.transport.closeCalls ≤ c.session.transport.closeCalls + 1 := by
  have := closings_run c calls
  unfold closings at this
  split at this <;> split at this <;> omega

/-- **The life of a connection.** Over all calls its phase moves from open over draining and
failed to closed and never back. A connection that failed or was closed refuses requests and
waits, and one that drains refuses requests, with `notConnected` and no change at all. A wait that
was begun and fails leaves the connection failed, but for a reset, which leaves the phase that
there was before its frame, and a shutdown, which leaves it draining; these two close the awaited
stream. A wait that succeeds leaves the connection in use. Closing always closes, and the
transport is closed once at most. -/
theorem life_cycle (c : Connection) (calls : List Call) :
    c.phase.rank ≤ (c.run calls).phase.rank ∧
    (c.isReady = false → (c.run calls).isReady = false) ∧
    (c.phase = .failed ∨ c.phase = .closed →
      (∀ method authority path extra,
        c.sendRequest method authority path extra = (.error .notConnected, c)) ∧
      ∀ target, c.recvResponse target = (.error .notConnected, c)) ∧
    (∀ last, c.phase = .draining last → ∀ method authority path extra,
      c.sendRequest method authority path extra = (.error .notConnected, c)) ∧
    (∀ target e, c.awaitFault? target = none → (c.recvResponse target).1 = .error e →
      ∃ mid, Relation.ReflTransGen (Round target) c mid ∧
        LastRound target mid (.error e) (c.recvResponse target).2 ∧
        LeftBy target mid.phase (c.recvResponse target).2 e) ∧
    (∀ target response, (c.recvResponse target).1 = .ok response →
      (c.recvResponse target).2.phase.IsUsable) ∧
    c.close.2.phase = .closed ∧
    (c.run calls).session.transport.closeCalls ≤ c.session.transport.closeCalls + 1 := by
  refine ⟨rank_le_run c calls, fun h => isReady_run h calls, refuses_of_not_usable, ?_, ?_, ?_,
    phase_close c, closeCalls_run_le c calls⟩
  · intro last h
    exact sendRequest_of_not_ready (by rw [h]; intro hn; cases hn)
  · intro target e hf he
    exact leftBy_recvResponse hf he
  · intro target response hok
    exact isUsable_recvResponse hok

end Connection

end Http2
