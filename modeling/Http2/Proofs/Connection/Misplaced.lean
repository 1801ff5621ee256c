import Http2.Proofs.Connection.Evaluation
import Http2.Proofs.Connection.LifeCycle

/-!
Frames on the wrong kind of stream: SETTINGS, PING and GOAWAY belong to the connection and to stream
0, DATA, HEADERS and RST_STREAM to a stream of their own. A wait breaks off at a misplaced frame and
takes nothing of it in, except that a GOAWAY is taken on every stream as it is on stream 0.
-/

namespace Http2

/-- A frame of the connection on another stream than 0, or a frame of a stream on stream 0. -/
def Frame.Misplaced (f : Frame) : Prop :=
  match f.kind with
  | .settings | .ping | .goaway => f.streamId ≠ 0
  | .data | .headers | .rstStream => f.streamId = 0
  | .priority | .pushPromise | .windowUpdate | .continuation | .unknown _ => False

instance (f : Frame) : Decidable f.Misplaced := by
  unfold Frame.Misplaced
  generalize f.kind = k
  match k with
  | .data | .headers | .priority | .rstStream | .settings | .pushPromise | .ping | .goaway
  | .windowUpdate | .continuation | .unknown _ => infer_instance

namespace Endpoint

variable {e : Endpoint} {target : Nat} {f g : Frame}

theorem receive_of_misplaced (e : Endpoint) (target : Nat) (hm : f.Misplaced)
    (hs : ¬ f.IsShutdown) : ∃ err, e.receive target f = .fail e err ∧ err.IsBreach := by
  unfold Frame.Misplaced at hm
  unfold receive
  split at hm
  · next hk =>
    simp only [hk, onSettings, if_neg hm]
    exact ⟨_, rfl, trivial⟩
  · next hk =>
    obtain ⟨err, he, hb⟩ := Frame.Ping.parse_of_bad hk (.inl hm)
    simp only [hk, onPing, he]
    exact ⟨err, rfl, hb⟩
  · next hk =>
    have hl : f.payload.length < 8 := Nat.lt_of_not_le fun hl => hs ⟨hk, hl⟩
    simp only [hk, onGoaway, Frame.Goaway.parse_eq hk, if_pos hl]
    exact ⟨_, rfl, trivial⟩
  · next hk =>
    simp only [hk, onData, if_pos hm]
    exact ⟨_, rfl, trivial⟩
  · next hk =>
    simp only [hk, onHeaders, if_pos hm]
    exact ⟨_, rfl, trivial⟩
  · next hk =>
    -- the length is looked at first, so it decides which failure this is
    simp only [hk, onRstStream, Frame.RstStream.parse_eq hk]
    by_cases hl : f.payload.length = 4
    · simp only [hl, if_true, hm]
      exact ⟨_, rfl, trivial⟩
    · simp only [hl, if_false]
      exact ⟨_, rfl, trivial⟩
  all_goals exact hm.elim

/-- Of a GOAWAY only the payload counts, neither its stream nor its flags. -/
theorem receive_goaway_congr (hf : f.kind = .goaway) (hg : g.kind = .goaway)
    (hp : g.payload = f.payload) : e.receive target g = e.receive target f := by
  simp only [receive, hf, hg, onGoaway, Frame.Goaway.parse_eq hf, Frame.Goaway.parse_eq hg, hp,
    Frame.lastStream]

end Endpoint

namespace Connection

variable {c mid read : Connection} {target : Nat} {f : Frame} {e : Error}

theorem recvResponse_of_fail {ep : Endpoint} (hf : c.awaitFault? target = none)
    (hr : Relation.ReflTransGen (Round target) c mid) (hread : mid.readFrame = (.ok f, read))
    (hrec : (mid.noteFrame target).receive target f = .fail ep e) :
    c.recvResponse target = (.error e, afterFailure ⟨ep, read.session⟩ e) := by
  rw [← toEndpoint_noted hread] at hrec
  have hh : (read.noted target).handle target f = (.error e, ⟨ep, read.session⟩) := by
    rw [handle_of_reply_none (by rw [hrec]; rfl), hrec]
    rfl
  unfold recvResponse
  rw [hf]
  simp only
  rw [awaitEnd_eq_of_rounds hr, awaitEnd_of_handle_error hread hh]

/-- The wait of `c` breaks off at the frame `f`, which `mid` reads next: it fails with `e` and leaves
the connection failed, no reply is written, and the frame has no effect on what was announced and
acknowledged, on the table and on the response. -/
structure BreaksOff (c mid : Connection) (target : Nat) (f : Frame) (e : Error) : Prop where
  outcome : (c.recvResponse target).1 = .error e
  phase : (c.recvResponse target).2.phase = .failed
  written : (c.recvResponse target).2.session.transport.written = mid.session.transport.written
  remote : (c.recvResponse target).2.remote = mid.remote
  settingsAcked : (c.recvResponse target).2.settingsAcked = mid.settingsAcked
  decoder : (c.recvResponse target).2.decoder = mid.decoder
  response : (c.recvResponse target).2.responseOn target = mid.responseOn target
  /-- The frame is refused with nothing changed, also the limit of a shutdown before it. -/
  refused : (mid.noteFrame target).receive target f = .fail (mid.noteFrame target) e

theorem breaksOff_of_breach (hf : c.awaitFault? target = none)
    (hr : Relation.ReflTransGen (Round target) c mid) (hread : mid.readFrame = (.ok f, read))
    (hrec : (mid.noteFrame target).receive target f = .fail (mid.noteFrame target) e)
    (he : e.IsBreach) : BreaksOff c mid target f e := by
  obtain ⟨-, raw, hpull, -⟩ := readFrame_ok hread
  have hwait := recvResponse_of_fail hf hr hread hrec
  rw [afterFailure_of_not_endsStream he.not_endsStream] at hwait
  refine ⟨?_, ?_, ?_, ?_, ?_, ?_, ?_, hrec⟩
  all_goals rw [hwait]
  · rfl
  · exact hpull.written
  · rfl
  · rfl
  · rfl
  · exact Endpoint.responseOn_noteFrame mid.toEndpoint target

/-- No wait breaks off at a shutdown: it goes on, or it fails and the connection stays in use. -/
theorem not_breaksOff_of_isShutdown (hf : c.awaitFault? target = none)
    (hr : Relation.ReflTransGen (Round target) c mid) (hread : mid.readFrame = (.ok f, read))
    (hs : f.IsShutdown) (hb : BreaksOff c mid target f e) : False := by
  have hrec := Endpoint.receive_of_isShutdown (mid.noteFrame target) target hs
  split at hrec
  · have hfailed := hb.phase
    rw [recvResponse_of_fail hf hr hread hrec] at hfailed
    cases hfailed
  · have hout := congrArg Endpoint.Reaction.outcome (hb.refused.symm.trans hrec)
    cases hout

/-- **A wait breaks off at a misplaced frame** without any other effect, exactly if the frame is no
GOAWAY that can be read. Such a GOAWAY is taken as it is on stream 0. -/
theorem breaksOff_iff (hf : c.awaitFault? target = none)
    (hr : Relation.ReflTransGen (Round target) c mid) (hread : mid.readFrame = (.ok f, read))
    (hm : f.Misplaced) :
    ((∃ e, BreaksOff c mid target f e) ↔ ¬ f.IsShutdown) ∧
    (f.IsShutdown → ∀ g : Frame, g.kind = .goaway → g.streamId = 0 → g.payload = f.payload →
      ∀ ep : Endpoint, ep.receive target f = ep.receive target g) := by
  refine ⟨⟨?_, fun hs => ?_⟩, fun hs g hg _ hp ep => ?_⟩
  · rintro ⟨e, hb⟩ hs
    exact not_breaksOff_of_isShutdown hf hr hread hs hb
  · obtain ⟨err, hrec, hbreach⟩ :=
      Endpoint.receive_of_misplaced (mid.noteFrame target) target hm hs
    exact ⟨err, breaksOff_of_breach hf hr hread hrec hbreach⟩
  · exact (Endpoint.receive_goaway_congr hs.1 hg hp).symm

def strayPing : Frame :=
  ⟨.ping, ⟨0⟩, 3, [1, 2, 3, 4, 5, 6, 7, 8], eight_le_maxPayload, three_le_maxStreamId⟩

/-- It comes after the settings. -/
def pinging : Transport :=
  { input := [.data Frame.initialSettings.encode, .data strayPing.encode]
    protocol := some protocolName }

def pinged : Connection := (openOn pinging none).2.perform (.sendRequest "GET" "a" "/" [])

def pingedNext : Connection := ((pinged.readFrame.2.noted 1).handle 1 .initialSettings).2

/-- The wait breaks off at the PING, after the settings. -/
theorem breaksOff_iff_strayPing :
    pinged.awaitFault? 1 = none ∧ Relation.ReflTransGen (Round 1) pinged pingedNext ∧
      strayPing.Misplaced ∧ ∃ e, BreaksOff pinged pingedNext 1 strayPing e := by
  have hf : pinged.awaitFault? 1 = none := by cbv
  have hsettings : pinged.readFrame = (.ok .initialSettings, pinged.readFrame.2) :=
    Prod.ext (by cbv) rfl
  have hround : Round 1 pinged pingedNext := ⟨_, _, hsettings, Prod.ext (by cbv) rfl⟩
  have hread : pingedNext.readFrame = (.ok strayPing, pingedNext.readFrame.2) :=
    Prod.ext (by cbv) rfl
  obtain ⟨hiff, -⟩ := breaksOff_iff hf (.single hround) hread (by decide)
  exact ⟨hf, .single hround, by decide, hiff.2 (by decide)⟩

/-- A shutdown on stream 1, which still serves this stream. -/
def strayShutdown : Frame :=
  ⟨.goaway, ⟨0⟩, 1, [0, 0, 0, 1, 0, 0, 0, 0], eight_le_maxPayload, one_le_maxStreamId⟩

/-- The end of the response comes after it. -/
def shuttingDown : Transport :=
  { input := [.data strayShutdown.encode, .data [0, 0, 0, 0, 1, 0, 0, 0, 1]]
    protocol := some protocolName }

def shutDown : Connection := (openOn shuttingDown none).2.perform (.sendRequest "GET" "a" "/" [])

/-- **No misplaced shutdown is refused**: the wait succeeds, and the connection drains from then on. -/
theorem not_breaksOff_strayShutdown :
    shutDown.awaitFault? 1 = none ∧
      (∃ read, shutDown.readFrame = (.ok strayShutdown, read)) ∧ strayShutdown.Misplaced ∧
      (shutDown.recvResponse 1).1 = .ok ⟨1, none, [], []⟩ ∧
      (shutDown.recvResponse 1).2.phase = .draining 1 ∧
      ¬ ∃ e, BreaksOff shutDown shutDown 1 strayShutdown e := by
  have hf : shutDown.awaitFault? 1 = none := by cbv
  have hread : shutDown.readFrame = (.ok strayShutdown, shutDown.readFrame.2) :=
    Prod.ext (by cbv) rfl
  have hrun : (shutDown.recvWithin 1 2).map (fun x => (x.1, x.2.phase)) =
      some (.ok ⟨1, none, [], []⟩, .draining 1) := by cbv
  obtain ⟨x, hx, hview⟩ := Option.map_eq_some_iff.1 hrun
  obtain ⟨houtcome, hphase⟩ := Prod.mk.inj hview
  rw [recvResponse_of_recvWithin hx]
  refine ⟨hf, ⟨_, hread⟩, by decide, houtcome, hphase, ?_⟩
  rintro ⟨e, hb⟩
  exact not_breaksOff_of_isShutdown hf .refl hread (by decide) hb

end Connection

end Http2
