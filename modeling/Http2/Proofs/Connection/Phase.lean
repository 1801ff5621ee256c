import Mathlib.Tactic.ByContra
import Http2.Proofs.Connection.Reaction

/-!
The phase of an endpoint and the frames that arrive. Only a shutdown changes it, and no handler looks
at it: what a frame does is the same in every phase.
-/

namespace Http2.Endpoint

variable (e : Endpoint) (target : Nat) (f : Frame) (p : Phase)

/-- The endpoint in another phase. -/
def inPhase (e : Endpoint) (p : Phase) : Endpoint := { e with phase := p }

def Reaction.inPhase (r : Reaction) (p : Phase) : Reaction :=
  { r with endpoint := r.endpoint.inPhase p }

/-! ### Handlers -/

theorem done_inPhase (id : Nat) (ends : Bool) :
    Reaction.done ((e.inPhase p).closeStreamIf id ends) ends =
      (Reaction.done (e.closeStreamIf id ends) ends).inPhase p := by
  cases ends <;> rfl

theorem onData_inPhase : (e.inPhase p).onData target f = (e.onData target f).inPhase p := by
  unfold onData
  split
  · rfl
  · rcases Frame.Data.parse f with err | data
    · rfl
    · simp only
      split
      · exact done_inPhase { e with streams := _ } ..
      · rfl

theorem onHeaders_inPhase :
    (e.inPhase p).onHeaders target f = (e.onHeaders target f).inPhase p := by
  unfold onHeaders
  split
  · rfl
  · rcases Frame.Headers.parse f with err | headers
    · rfl
    · simp only [show (e.inPhase p).decoder = e.decoder from rfl]
      split
      · rcases Field.decompress e.decoder headers.block with ⟨err | fs, decoder⟩
        · rfl
        · simp only
          split
          · rcases Stream.blockStatus fs with err | status
            · rfl
            · exact done_inPhase { e with decoder, streams := _ } ..
          · rfl
      · split
        · exact done_inPhase ..
        · rfl

theorem onRstStream_inPhase :
    (e.inPhase p).onRstStream target f = (e.onRstStream target f).inPhase p := by
  unfold onRstStream
  rcases Frame.RstStream.parse f with err | rst
  · rfl
  · simp only
    split
    · rfl
    · split <;> rfl

theorem onSettings_inPhase : (e.inPhase p).onSettings f = (e.onSettings f).inPhase p := by
  unfold onSettings
  split
  · split
    · split <;> rfl
    · rcases Settings.decode f.payload with err | s <;> rfl
  · rfl

theorem onPing_inPhase : (e.inPhase p).onPing f = (e.onPing f).inPhase p := by
  unfold onPing
  rcases Frame.Ping.parse f with err | ping
  · rfl
  · simp only
    split <;> rfl

theorem onWindowUpdate_inPhase :
    (e.inPhase p).onWindowUpdate f = (e.onWindowUpdate f).inPhase p := by
  unfold onWindowUpdate
  rcases Frame.WindowUpdate.parse f with err | update <;> rfl

/-! ### Frames -/

/-- **A frame does the same in every phase**, and only a shutdown sets it. -/
theorem receive_inPhase : (e.inPhase p).receive target f =
    (e.receive target f).inPhase (if f.IsShutdown then .draining f.lastStream else p) := by
  by_cases hs : f.IsShutdown
  · rw [if_pos hs, receive_of_isShutdown _ target hs, receive_of_isShutdown _ target hs]
    split <;> rfl
  · rw [if_neg hs]
    unfold receive
    split
    · exact onData_inPhase ..
    · exact onHeaders_inPhase ..
    · exact onRstStream_inPhase ..
    · exact onSettings_inPhase ..
    · exact onPing_inPhase ..
    · next hk =>
      -- a frame of this kind that is no shutdown is too short, and a breach
      have hl : f.payload.length < 8 := Nat.lt_of_not_le fun hl => hs ⟨hk, hl⟩
      simp only [onGoaway, Frame.Goaway.parse_eq hk, if_pos hl]
      rfl
    · exact onWindowUpdate_inPhase ..
    all_goals rfl

theorem phase_receive :
    (e.receive target f).endpoint.phase =
      if f.IsShutdown then .draining f.lastStream else e.phase :=
  congrArg (·.endpoint.phase) (receive_inPhase e target f e.phase)

variable {e target f}

theorem isShutdown_of_goAway {last : Nat} {code : ErrorCode} {debug : String}
    (h : (e.receive target f).outcome = .error (.goAway last code debug)) : f.IsShutdown := by
  by_contra hs
  -- such a failure leaves the endpoint draining, and no other frame does that to a failed one
  have hfailed : ((e.inPhase .failed).receive target f).outcome =
      .error (.goAway last code debug) := by
    rw [receive_inPhase]
    exact h
  have hphase := (effect_receive (e.inPhase .failed) target f).phase_of_goAway hfailed
  rw [phase_receive, if_neg hs] at hphase
  cases hphase

end Http2.Endpoint
