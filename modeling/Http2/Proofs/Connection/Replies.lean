import Http2.Proofs.Connection.Evaluation
import Http2.Proofs.Connection.Exchange

/-!
The replies of a wait. On a transport that accepts what is written, a wait writes exactly the
replies that the frames it takes in call for, one after another, and nothing for the frame that
ends it or makes it fail.
-/

namespace Http2.Connection

variable {c c' : Connection} {target : Nat}

/-- A frame that ends the wait, in whatever way, calls for no reply. -/
theorem dueReply_of_handle {f : Frame} {outcome : Except Error Bool} (ha : c.session.Accepts)
    (hh : c.handle target f = (outcome, c')) (hout : outcome ≠ .ok false) :
    f.dueReply = none ∧ c'.session = c.session := by
  have hreply := Endpoint.reply_receive c.toEndpoint target f
  cases hdue : f.dueReply with
  | none =>
    rw [hdue] at hreply
    rw [handle_of_reply_none hreply] at hh
    cases hh
    exact ⟨rfl, rfl⟩
  | some g =>
    -- a frame with a reply goes on, and its reply is written
    rw [hdue] at hreply
    obtain ⟨session, hw, -⟩ := ha.writeFrame g
    rw [handle_of_reply_some hreply, hw] at hh
    cases hh
    exact absurd ((Endpoint.effect_receive c.toEndpoint target f).outcome_of_reply hreply) hout

theorem LastRound.written_eq {outcome : Except Error Unit} (h : LastRound target c outcome c')
    (ha : c.session.Accepts) :
    c'.session.transport.written = c.session.transport.written := by
  have handled {f : Frame} {read d : Connection} {outcome : Except Error Bool}
      (hread : c.readFrame = (.ok f, read))
      (hh : (read.noted target).handle target f = (outcome, d)) (hout : outcome ≠ .ok false) :
      d.session.transport.written = c.session.transport.written := by
    obtain ⟨-, raw, hpull, -⟩ := readFrame_ok hread
    have har : (read.noted target).session.Accepts := ha.of_pulled hpull
    rw [(dueReply_of_handle har hh hout).2]
    exact hpull.written
  cases h with
  | unread hread =>
    obtain ⟨-, -, raw, hpull⟩ := readFrame_error hread
    exact hpull.written
  | failed hread hh =>
    rw [session_afterFailure]
    exact handled hread hh nofun
  | ended hread hh => exact handled hread hh nofun

/-- **Exactly the replies that are due.** Where the response on a stream is awaited over a
transport that accepts what is written, the wait writes, whether it succeeds or fails, the replies
that the frames it took in call for, in their order and nothing else: the empty acknowledgement of
each SETTINGS frame that announces settings, and the answer to each PING that asks for one. The
last round of the wait, which ends it or fails, writes nothing. -/
theorem recvResponse_replies (ha : c.session.Accepts) (hf : c.awaitFault? target = none) :
    c.session.transport.unread = (c.recvResponse target).2.bytesTaken c.session.transport ++
      (c.recvResponse target).2.session.transport.unread ∧
    (c.recvResponse target).2.session.transport.written = c.session.transport.written ++
      (((c.recvResponse target).2.framesTaken c.session.transport).filterMap
        Frame.dueReply).flatMap Frame.encode ∧
    ∀ mid outcome d, Relation.ReflTransGen (Round target) c mid →
      LastRound target mid outcome d →
        d.session.transport.written = mid.session.transport.written := by
  obtain ⟨ins, hexchange⟩ := exchanges_recvResponse c target
  obtain ⟨sent, hw, -, hall⟩ := hexchange.written
  refine ⟨hexchange.unread_eq rfl, ?_, fun mid outcome d hr hl => ?_⟩
  · rw [hexchange.framesTaken_eq rfl, hw, hall (.inr ha)]
  · obtain ⟨hu, -⟩ := of_awaitFault?_eq_none hf
    obtain ⟨_, hmid, hum⟩ := exchanges_rounds hr hu
    exact hl.written_eq (hmid.accepts hum ha)

/-- Settings, a PING, an acknowledgement of either, and settings that are not allowed. -/
def asking : Transport :=
  { input := [.data [0, 0, 6, 4, 0, 0, 0, 0, 0, 0, 5, 0, 0, 0x80, 0],
      .data [0, 0, 8, 6, 0, 0, 0, 0, 0, 1, 2, 3, 4, 5, 6, 7, 8],
      .data [0, 0, 0, 4, 1, 0, 0, 0, 0],
      .data [0, 0, 8, 6, 1, 0, 0, 0, 0, 0, 0, 0, 0, 0, 0, 0, 0],
      .data [0, 0, 6, 4, 0, 0, 0, 0, 0, 0, 2, 0, 0, 0, 7], .eof]
    protocol := some protocolName }

def awaiting : Connection := (openOn asking none).2.perform (.sendRequest "GET" "a" "/" [])

/-- It acknowledges the first settings and answers the PING before it fails. -/
theorem recvResponse_replies_awaiting :
    awaiting.session.Accepts ∧ awaiting.awaitFault? 1 = none ∧
    (awaiting.recvResponse 1).1 = .error (.settings (.notBinary .enablePush 7)) ∧
    (awaiting.recvResponse 1).2.session.transport.written =
      awaiting.session.transport.written ++
        ([0, 0, 0, 4, 1, 0, 0, 0, 0] ++
          [0, 0, 8, 6, 1, 0, 0, 0, 0, 1, 2, 3, 4, 5, 6, 7, 8]) := by
  have ha : awaiting.session.Accepts := by
    have hc : awaiting.session.closed = false := by cbv
    have hw : awaiting.session.transport.writes = [] := by cbv
    have hfl : awaiting.session.transport.flushes = [] := by cbv
    exact .of_nil hc hw hfl
  have hf : awaiting.awaitFault? 1 = none := by cbv
  have hrun : (awaiting.recvWithin 1 5).map (fun x => (x.1,
      ((x.2.framesTaken awaiting.session.transport).filterMap Frame.dueReply).flatMap
        Frame.encode)) =
      some (.error (.settings (.notBinary .enablePush 7)), [0, 0, 0, 4, 1, 0, 0, 0, 0] ++
        [0, 0, 8, 6, 1, 0, 0, 0, 0, 1, 2, 3, 4, 5, 6, 7, 8]) := by cbv
  obtain ⟨x, hx, hview⟩ := Option.map_eq_some_iff.1 hrun
  obtain ⟨houtcome, hreplies⟩ := Prod.mk.inj hview
  obtain ⟨-, hwritten, -⟩ := recvResponse_replies ha hf
  rw [recvResponse_of_recvWithin hx] at hwritten ⊢
  exact ⟨ha, hf, houtcome, by rw [hwritten, hreplies]⟩

end Http2.Connection
