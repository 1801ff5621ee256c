import Http2.Proofs.Connection.Agreement
import Http2.Proofs.Connection.Evaluation
import Http2.Proofs.Transport.Segmentation

/-!
The pieces that bytes come in do not matter to a connection. Opened on transports that carry the
same bytes, two connections that are called alike answer alike: each call, and each round of a
wait, leads them to the same state, with the same bytes written and the same bytes left.
-/

namespace Http2

namespace Connection

/-- Two connections in the same state, on transports that are cut in any way. -/
structure Alike (c d : Connection) : Prop where
  endpoint : d.toEndpoint = c.toEndpoint
  session : c.session.Alike d.session

/-- The connection `d` looks like `c`: in the state of the connection and of its streams, in the
bytes that were written, and in those that are left. -/
structure LooksLike (d c : Connection) : Prop where
  endpoint : d.toEndpoint = c.toEndpoint
  closed : d.session.closed = c.session.closed
  closeCalls : d.session.transport.closeCalls = c.session.transport.closeCalls
  written : d.session.transport.written = c.session.transport.written
  unread : d.session.transport.unread = c.session.transport.unread

variable {c d c' d' : Connection} {target : Nat}

theorem Alike.looksLike (h : Alike c d) : d.LooksLike c :=
  ⟨h.endpoint, h.session.closed, h.session.recut.closeCalls, h.session.recut.written,
    h.session.recut.unread⟩

/-! ### Waits -/

theorem alike_iff : Alike c d ↔ Related (fun e e' => e' = e) Session.Alike c d :=
  ⟨fun h => ⟨h.endpoint, h.session⟩, fun h => ⟨h.endpoint, h.session⟩⟩

theorem respects_eq (target : Nat) : Respects target fun e e' => e' = e where
  receive := by
    rintro e _ rfl f
    exact ⟨rfl, rfl, rfl⟩
  failed := by
    rintro e _ rfl
    rfl

/-- **Alike connections go through a wait alike**, round by round. -/
theorem preserves_alike (target : Nat) : Preserves target Alike := by
  have hp : Preserves target (Related (fun e e' => e' = e) Session.Alike) :=
    (respects_eq target).preserves (fun h limit => h.readFrameUpTo limit) fun h f => h.writeFrame f
  refine ⟨fun h => ?_, fun h f => ?_, fun h e => ?_⟩
  · exact (hp.readFrame (alike_iff.1 h)).imp alike_iff.2
  · exact (hp.handle (alike_iff.1 h) f).imp alike_iff.2
  · exact alike_iff.2 (hp.afterFailure (alike_iff.1 h) e)

/-! ### Calls -/

section Calls

variable (h : Alike c d)
include h

theorem Alike.recvResponse (target : Nat) :
    Agree Alike (c.recvResponse target) (d.recvResponse target) := by
  have hwait := (preserves_alike target).awaitEnd h
  unfold Connection.recvResponse
  rw [h.endpoint]
  split
  · exact .intro _ h
  · generalize c.awaitEnd target = x, d.awaitEnd target = y at hwait
    cases hwait with | intro r h₁ =>
    rcases r with e | u
    · exact .intro _ h₁
    · obtain ⟨hep, hs⟩ := h₁
      simp only
      rw [hep]
      exact .intro _ ⟨rfl, hs⟩

theorem Alike.sendRequest (method authority path : String) (extra : List Field) :
    Agree Alike (c.sendRequest method authority path extra)
      (d.sendRequest method authority path extra) := by
  unfold Connection.sendRequest
  rw [h.endpoint]
  generalize c.toEndpoint.prepare (Endpoint.requestFields method authority path extra) = prepared
  obtain ⟨e | f, ep⟩ := prepared
  · exact .intro _ ⟨rfl, h.session⟩
  · have hwrite := h.session.writeFrame f
    simp only
    generalize c.session.writeFrame f = x, d.session.writeFrame f = y at hwrite
    cases hwrite with | intro r h₁ =>
    rcases r with e | u
    · exact .intro _ ⟨rfl, h₁⟩
    · exact .intro _ ⟨rfl, h₁⟩

theorem Alike.request (method authority path : String) (extra : List Field) :
    Agree Alike (c.request method authority path extra)
      (d.request method authority path extra) := by
  have hsend := h.sendRequest method authority path extra
  unfold Connection.request
  generalize c.sendRequest method authority path extra = x,
    d.sendRequest method authority path extra = y at hsend
  cases hsend with | intro r h₁ =>
  rcases r with e | id
  · exact .intro _ h₁
  · exact h₁.recvResponse id

theorem Alike.close : Agree Alike c.close d.close := by
  have hclose := h.session.close
  unfold Connection.close
  rw [h.endpoint]
  split
  · exact .intro _ h
  · generalize c.session.close = x, d.session.close = y at hclose
    cases hclose with | intro r h₁ =>
    exact .intro _ ⟨rfl, h₁⟩

/-- **A call** is answered alike, and leaves alike connections. -/
theorem Alike.perform (call : Call) :
    d.answer call = c.answer call ∧ Alike (c.perform call) (d.perform call) := by
  cases call with
  | sendRequest method authority path extra =>
    have hsend := h.sendRequest method authority path extra
    exact ⟨congrArg Answer.sent hsend.fst_eq, hsend.snd⟩
  | recvResponse target =>
    have hrecv := h.recvResponse target
    exact ⟨congrArg Answer.response hrecv.fst_eq, hrecv.snd⟩
  | request method authority path extra =>
    have hrequest := h.request method authority path extra
    exact ⟨congrArg Answer.response hrequest.fst_eq, hrequest.snd⟩
  | get authority path =>
    have hget := h.request "GET" authority path []
    exact ⟨congrArg Answer.response hget.fst_eq, hget.snd⟩
  | close =>
    have hclose := h.close
    exact ⟨congrArg Answer.closed hclose.fst_eq, hclose.snd⟩

theorem Alike.run (calls : List Call) :
    d.answers calls = c.answers calls ∧ Alike (c.run calls) (d.run calls) := by
  induction calls generalizing c d with
  | nil => exact ⟨rfl, h⟩
  | cons call calls ih =>
    obtain ⟨hanswer, h₁⟩ := h.perform call
    obtain ⟨hanswers, h₂⟩ := ih h₁
    exact ⟨by rw [answers, answers, hanswer, hanswers], h₂⟩

end Calls

/-! ### Whole runs -/

theorem agree_openOn {t t' : Transport} (h : t.Recut t') (timeout : Option Nat) :
    Agree Alike (openOn t timeout) (openOn t' timeout) := by
  have hopened : Alike (ofSession ((Session.new t).setTimeout timeout))
      (ofSession ((Session.new t').setTimeout timeout)) := ⟨rfl, h, rfl, rfl⟩
  have habandon {c d : Connection} (h : Alike c d) : Alike c.abandon d.abandon :=
    ⟨by simp only [abandon, fail, h.endpoint], h.session.close.snd⟩
  have hpreface := hopened.session.sendPreface
  unfold openOn
  rw [h.protocol]
  simp only
  split
  · exact .intro _ (habandon hopened)
  · generalize (ofSession _).session.sendPreface = x,
      (ofSession ((Session.new t').setTimeout timeout)).session.sendPreface = y at hpreface
    cases hpreface with | intro r h₁ =>
    rcases r with e | u
    · exact .intro _ (habandon ⟨rfl, h₁⟩)
    · exact .intro _ ⟨rfl, h₁⟩

/-- **Segmentation is invisible.** On two transports that carry the same bytes, cut, limited and
interrupted in any way, opening and all calls after it have the same answers, and the connections
look alike after them, and after each round of a wait for a response. -/
theorem looksLike_of_recut {t t' : Transport} (h : t.Recut t') (timeout : Option Nat)
    (calls : List Call) :
    (openOn t' timeout).1 = (openOn t timeout).1 ∧
    (openOn t' timeout).2.answers calls = (openOn t timeout).2.answers calls ∧
    ((openOn t' timeout).2.run calls).LooksLike ((openOn t timeout).2.run calls) ∧
    ∀ target mid, Relation.ReflTransGen (Round target) ((openOn t timeout).2.run calls) mid →
      ∃ mid', Relation.ReflTransGen (Round target) ((openOn t' timeout).2.run calls) mid' ∧
        mid'.LooksLike mid := by
  have hopen := agree_openOn h timeout
  obtain ⟨hanswers, hrun⟩ := hopen.snd.run calls
  refine ⟨hopen.fst_eq, hanswers, hrun.looksLike, fun target mid hr => ?_⟩
  obtain ⟨mid', hr', hmid⟩ := (preserves_alike target).rounds hrun hr
  exact ⟨mid', hr', hmid.looksLike⟩

/-- A transport with a whole response in one piece. -/
def inOnePiece : Transport :=
  { input := [.data [0, 0, 1, 1, 5, 0, 0, 0, 1, 0x88]], protocol := some protocolName }

/-- The same response in pieces and byte by byte, with interruptions, on an output that takes a
few bytes at a time. -/
def inPieces : Transport :=
  { input := [.pollFail (.io ⟨.interrupted, ""⟩), .data [0, 0, 1, 1], .fail (.io ⟨.interrupted, ""⟩),
      .data [5, 0, 0, 0, 1, 0x88], .eof]
    chunk := some 1
    writes := [.accept 1, .fail (.io ⟨.interrupted, ""⟩), .accept 30]
    flushes := [none]
    protocol := some protocolName }

/-- A request, its response and the end of the connection on either of them. -/
theorem looksLike_of_recut_inPieces : inOnePiece.Recut inPieces ∧
    (openOn inPieces none).1 = .ok () ∧
    (openOn inPieces none).2.answers [.get "a" "/", .close] =
      [.response (.ok ⟨1, some 200, [], []⟩), .closed (.ok ())] := by
  have hrecut : inOnePiece.Recut inPieces := by
    refine ⟨by decide, by decide, by decide, by decide, by decide, ?_, ?_⟩
    · exact ⟨⟨by decide, by simp [inOnePiece], by decide⟩, by decide, by decide⟩
    · exact ⟨⟨by decide, by simp [inPieces], by decide⟩, by decide, by decide⟩
  have hopen : (openOn inOnePiece none).1 = .ok () := by cbv
  have hrun : ((openOn inOnePiece none).2.runWithin 1 [.get "a" "/", .close]).map Prod.fst =
      some [.response (.ok ⟨1, some 200, [], []⟩), .closed (.ok ())] := by cbv
  have hanswers := of_runWithin hrun
  obtain ⟨hopen', hanswers', -⟩ := looksLike_of_recut hrecut none [.get "a" "/", .close]
  exact ⟨hrecut, hopen'.trans hopen, hanswers'.trans hanswers⟩

end Connection

end Http2
