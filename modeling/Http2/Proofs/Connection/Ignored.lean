import Http2.Proofs.Connection.Insertion

/-!
Frames that a client passes over. Data and resets of other streams, window updates, acknowledged
pings, and the kinds that a client does not look into change nothing for a response, wherever they
come and whatever their flags and payloads are.
-/

namespace Http2

/-- A frame of the kinds that a client passes over while it awaits the response on `target`. -/
def Frame.Ignorable (target : Nat) (f : Frame) : Prop :=
  match f.kind with
  | .data => f.streamId ≠ 0 ∧ f.streamId ≠ target ∧ ¬ f.BadPadding
  | .rstStream => f.streamId ≠ 0 ∧ f.streamId ≠ target ∧ f.payload.length = 4
  | .windowUpdate => f.payload.length = 4
  | .ping => f.streamId = 0 ∧ f.flags.ack = true ∧ f.payload.length = 8
  | .priority | .pushPromise | .continuation | .unknown _ => True
  | .headers | .settings | .goaway => False

instance (target : Nat) (f : Frame) : Decidable (f.Ignorable target) := by
  unfold Frame.Ignorable
  generalize f.kind = k
  match k with
  | .data | .headers | .priority | .rstStream | .settings | .pushPromise | .ping | .goaway
  | .windowUpdate | .continuation | .unknown _ => infer_instance

namespace Endpoint

theorem receive_of_ignorable {target : Nat} {f : Frame} (h : f.Ignorable target) (e : Endpoint) :
    e.receive target f = .goOn e := by
  unfold Frame.Ignorable at h
  unfold receive
  split at h
  · next hk =>
    obtain ⟨hs, ht, hp⟩ := h
    simp only [hk, onData, if_neg hs, Frame.Data.parse_of_not_badPadding hk hp, if_neg ht]
  · next hk =>
    obtain ⟨hs, ht, hl⟩ := h
    simp only [hk, onRstStream, Frame.RstStream.parse_eq hk, if_pos hl, if_neg hs, if_neg ht]
  · next hk =>
    simp only [hk, onWindowUpdate, Frame.WindowUpdate.parse_eq hk, if_pos h]
  · next hk =>
    obtain ⟨hs, hack, hl⟩ := h
    simp only [hk, onPing, Frame.Ping.parse_of_length hk hs hl, hack, if_true]
  · next hk => rw [hk]
  · next hk => rw [hk]
  · next hk => rw [hk]
  · next hk => rw [hk]
  all_goals exact h.elim

/-- The endpoints are the same once a frame was read for the response on `target`. -/
def SameNoted (target : Nat) (e e' : Endpoint) : Prop :=
  e'.noteFrame target = e.noteFrame target

variable {target : Nat} {e e' : Endpoint}

theorem SameNoted.responseOn_eq (h : SameNoted target e e') :
    e'.responseOn target = e.responseOn target := by
  rw [← responseOn_noteFrame e', ← responseOn_noteFrame e, h]

/-- The endpoints show the same but for the states of their streams. -/
structure SameState (e e' : Endpoint) : Prop where
  phase : e'.phase = e.phase
  remote : e'.remote = e.remote
  settingsAcked : e'.settingsAcked = e.settingsAcked
  encoder : e'.encoder = e.encoder
  decoder : e'.decoder = e.decoder
  nextId : e'.streams.nextId = e.streams.nextId

theorem SameNoted.sameState (h : SameNoted target e e') : SameState e e' :=
  ⟨(congrArg Endpoint.phase h :), (congrArg Endpoint.remote h :),
    (congrArg Endpoint.settingsAcked h :), (congrArg Endpoint.encoder h :),
    (congrArg Endpoint.decoder h :), (congrArg (·.streams.nextId) h :)⟩

end Endpoint

namespace Connection

open Session

variable {target : Nat} {c d : Connection} {a b : Bytes} {rest : List Arrival}

theorem respects_sameNoted (target : Nat) : Respects target (Endpoint.SameNoted target) where
  receive := by
    intro e e' h f
    rw [show e'.noteFrame target = e.noteFrame target from h]
    exact ⟨rfl, rfl, rfl⟩
  failed := by
    intro e e' h
    exact congrArg (fun ep : Endpoint => { ep with phase := .failed }) h

theorem overlooks_ignorable (target : Nat) :
    Overlooks target (fun f => f.Ignorable target ∧ f.payload.length ≤ payloadLimit)
      (Endpoint.SameNoted target) where
  toRespects := respects_sameNoted target
  length_le := fun h => h.2
  skip := by
    intro e e' f h hf
    refine ⟨_, Endpoint.receive_of_ignorable hf.1 _, ?_⟩
    exact (Endpoint.noteFrame_noteFrame e' target).trans h

/-- **Frames that a client passes over do not influence a response.** Two connections in one state
await the response on `target` over the same output. One of them meets the whole frames `a` and then
`rest`, and the other one the same with frames in between that are passed over. Then both waits have
the same result, write the same, and leave the same phase, announcements, tables and next stream id;
and where the wait over `a` comes to `rest`, both leave the same unread. -/
theorem recvResponse_ignores (hf : c.awaitFault? target = none)
    (he : d.toEndpoint = c.toEndpoint) (ho : c.session.SameOutput d.session)
    (hw : Frame.Woven (fun f => f.Ignorable target ∧ f.payload.length ≤ payloadLimit) a b)
    (hc : c.session.Meets (Arrival.bytes a ++ rest))
    (hd : d.session.Meets (Arrival.bytes b ++ rest)) :
    (d.recvResponse target).1 = (c.recvResponse target).1 ∧
    (d.recvResponse target).2.session.transport.written =
      (c.recvResponse target).2.session.transport.written ∧
    Endpoint.SameState (c.recvResponse target).2.toEndpoint (d.recvResponse target).2.toEndpoint ∧
    ∀ mid, Relation.ReflTransGen (Round target) c mid → mid.session.Meets rest →
      (d.recvResponse target).2.session.transport.unread =
        (c.recvResponse target).2.session.transport.unread := by
  have hf' : d.awaitFault? target = none := by rwa [he]
  have hsame : Endpoint.SameNoted target c.toEndpoint d.toEndpoint := by rw [he]; rfl
  obtain ⟨hwait, hleft⟩ := (overlooks_ignorable target).awaitEnd hw ⟨hsame, ho⟩ hc hd
  have hrecv : Agree (Related Endpoint.SameState SameOutput) (c.recvResponse target)
      (d.recvResponse target) := by
    refine agree_recvResponse hwait hf hf' (fun e e' h => h.responseOn_eq) fun e e' h => ?_
    obtain ⟨hphase, hremote, hacked, hencoder, hdecoder, hnext⟩ := h.sameState
    exact ⟨h.sameState, hphase, hremote, hacked, hencoder, hdecoder, hnext⟩
  obtain ⟨hstate, hout⟩ := hrecv.snd
  refine ⟨hrecv.fst_eq, hout.written, hstate, fun mid hr hm => ?_⟩
  obtain ⟨-, as, hcas, hdas⟩ := hleft mid hr hm
  rw [session_recvResponse hf, session_recvResponse hf', Transport.unread_eq, Transport.unread_eq,
    hcas.arrivals, hdas.arrivals]

def otherData : Frame :=
  ⟨.data, ⟨Frame.Flags.endStreamBit⟩, 3, [120, 121], two_le_maxPayload, three_le_maxStreamId⟩

/-- A frame of an unknown kind on stream 1, with the flag that ends a stream. -/
def extensionFrame : Frame :=
  ⟨.unknown 99, ⟨Frame.Flags.endStreamBit⟩, 1, [1, 2], two_le_maxPayload, one_le_maxStreamId⟩

/-- A request is out and its response arrives. -/
def undisturbed : Connection :=
  { afterGet with session := .new { input := [.data (okHeaders.encode ++ lastData.encode)] } }

/-- The connection between the two frames of the response. -/
def halfway : Connection := ((undisturbed.readFrame.2.noted 1).handle 1 okHeaders).2

/-- The same response with both frames in between, and in other pieces. -/
def disturbed : Connection :=
  { afterGet with
    session := .new { input := [.data otherData.encode, .data okHeaders.encode,
      .data (extensionFrame.encode ++ lastData.encode)] } }

/-- The response is the same, and nothing is left unread. -/
theorem recvResponse_ignores_disturbed :
    undisturbed.awaitFault? 1 = none ∧
    Frame.Woven (fun f => f.Ignorable 1 ∧ f.payload.length ≤ payloadLimit)
      (okHeaders.encode ++ [])
      (otherData.encode ++ (okHeaders.encode ++ (extensionFrame.encode ++ []))) ∧
    (disturbed.recvResponse 1).1 = .ok ⟨1, some 200, [], [104, 105]⟩ ∧
    (disturbed.recvResponse 1).2.session.transport.unread = [] := by
  have hf : undisturbed.awaitFault? 1 = none := by cbv
  have hw : Frame.Woven (fun f => f.Ignorable 1 ∧ f.payload.length ≤ payloadLimit)
      (okHeaders.encode ++ [])
      (otherData.encode ++ (okHeaders.encode ++ (extensionFrame.encode ++ []))) :=
    .insert (f := otherData) (by cbv) (by decide) <| .keep (f := okHeaders) (by cbv) <|
      .insert (f := extensionFrame) (by cbv) (by decide) .nil
  have hc : undisturbed.session.Meets
      (Arrival.bytes (okHeaders.encode ++ []) ++ Arrival.bytes lastData.encode) :=
    ⟨rfl, by decide, rfl⟩
  have hd : disturbed.session.Meets
      (Arrival.bytes (otherData.encode ++ (okHeaders.encode ++ (extensionFrame.encode ++ []))) ++
        Arrival.bytes lastData.encode) :=
    ⟨rfl, by decide, rfl⟩
  obtain ⟨hsame, -, -, hunread⟩ :=
    recvResponse_ignores (d := disturbed) hf rfl ⟨rfl, rfl, rfl⟩ hw hc hd
  have hround : Round 1 undisturbed halfway :=
    ⟨okHeaders, undisturbed.readFrame.2, Prod.ext (by cbv) rfl, Prod.ext (by cbv) rfl⟩
  have hhalfway : halfway.session.Meets (Arrival.bytes lastData.encode) := by
    have hchunk : halfway.session.transport.chunk = none := by cbv
    exact ⟨by cbv, by rw [hchunk]; decide, by cbv⟩
  have hrun : (undisturbed.recvWithin 1 2).map (fun x => (x.1, x.2.session.transport.unread)) =
      some (.ok ⟨1, some 200, [], [104, 105]⟩, []) := by cbv
  obtain ⟨x, hx, hview⟩ := Option.map_eq_some_iff.1 hrun
  obtain ⟨houtcome, hnone⟩ := Prod.mk.inj hview
  have hall := hunread halfway (.single hround) hhalfway
  rw [recvResponse_of_recvWithin hx] at hsame hall
  exact ⟨hf, hw, hsame.trans houtcome, hall.trans hnone⟩

end Connection

end Http2
