import Http2.Proofs.Connection.Reachable
import Http2.Proofs.Connection.Verdict

/-!
The assembly of a response. Over an input of whole frames, a wait succeeds exactly if a frame
closes the awaited stream and no frame up to it is fatal; then the response is what the frames up
to the first such one brought, and the input stands right behind it.
-/

namespace Http2

/-! ### What a run of frames brings -/

namespace Frame

/-- No frame is fatal, each decoded with the table that the ones before it leave. -/
def Pass (target : Nat) (t : Hpack.Table) (fs : List Frame) : Prop :=
  ∀ pre f post, fs = pre ++ f :: post → ¬ f.Fatal (pre.foldl tableAfter t) target

theorem pass_nil (target : Nat) (t : Hpack.Table) : Pass target t [] := by
  intro pre f post h
  simp at h

theorem pass_cons {target : Nat} {t : Hpack.Table} {f : Frame} {fs : List Frame} :
    Pass target t (f :: fs) ↔ ¬ f.Fatal t target ∧ Pass target (f.tableAfter t) fs := by
  constructor
  · intro h
    refine ⟨h [] f fs rfl, fun pre g post hfs => ?_⟩
    exact h (f :: pre) g post (by rw [hfs, List.cons_append])
  · rintro ⟨hf, hfs⟩ pre g post h
    cases pre with
    | nil =>
      obtain ⟨rfl, rfl⟩ := List.cons.inj h
      exact hf
    | cons f' pre =>
      obtain ⟨rfl, rfl⟩ := List.cons.inj h
      exact hfs pre g post rfl

/-- The header blocks that frames bring to `target`, in order. -/
def blocksOf (target : Nat) : Hpack.Table → List Frame → List (List Field)
  | _, [] => []
  | t, f :: fs => f.blocksFor target t ++ blocksOf target (f.tableAfter t) fs

/-- The data that frames bring to `target`, in order. -/
def dataOf (target : Nat) (fs : List Frame) : Bytes :=
  fs.flatMap (dataFor target)

/-- A frame as a peer reads it, with a payload that the client takes. -/
def Readable (f : Frame) : Prop :=
  f.onWire = f ∧ f.payload.length ≤ Connection.payloadLimit

end Frame

namespace Connection

variable {c c' : Connection} {target : Nat} {f : Frame} {rest : Bytes}

/-! ### One frame -/

theorem readFrame_of_delivers (hd : c.session.Delivers) (ha : c.session.Accepts)
    (hdec : Frame.decode? c.session.transport.unread = some (f, rest))
    (hl : f.payload.length ≤ payloadLimit) :
    ∃ s, c.readFrame = (.ok f, { c with session := s }) ∧ s.Delivers ∧ s.Accepts ∧
      s.transport.unread = rest := by
  obtain ⟨s, hr, hds, hu⟩ := hd.readFrameUpTo hdec hl
  obtain ⟨raw, hp, -⟩ := Session.pulled_readFrameUpTo hr
  refine ⟨s, ?_, hds, ha.of_pulled hp, hu⟩
  unfold readFrame
  rw [hr]

theorem handle_of_accepts (hd : c.session.Delivers) (ha : c.session.Accepts) (target : Nat)
    (f : Frame) :
    ∃ s, c.handle target f =
        ((c.toEndpoint.receive target f).outcome, ⟨(c.toEndpoint.receive target f).endpoint, s⟩) ∧
      s.Delivers ∧ s.Accepts ∧ s.transport.unread = c.session.transport.unread := by
  cases hr : (c.toEndpoint.receive target f).reply with
  | none => exact ⟨c.session, handle_of_reply_none hr, hd, ha, rfl⟩
  | some g =>
    obtain ⟨s, hw, has, hp⟩ := ha.writeFrame g
    refine ⟨s, ?_, hd.of_pushed hp, has, hp.unread⟩
    rw [handle_of_reply_some hr, hw]

theorem awaitEnd_of_fatal (hd : c.session.Delivers) (ha : c.session.Accepts)
    (hdec : Frame.decode? c.session.transport.unread = some (f, rest))
    (hl : f.payload.length ≤ payloadLimit) (hf : f.Fatal c.decoder target) :
    ∃ e c', c.awaitEnd target = (.error e, c') := by
  obtain ⟨s, hread, hds, has, -⟩ := readFrame_of_delivers hd ha hdec hl
  obtain ⟨s', hh, -⟩ := handle_of_accepts (c := noted { c with session := s } target) hds has
    target f
  obtain ⟨e', err, hrec⟩ := Endpoint.receive_of_fatal (e := c.noteFrame target) hf
  rw [show (noted { c with session := s } target).toEndpoint = c.noteFrame target from rfl,
    hrec] at hh
  exact ⟨err, _, awaitEnd_of_handle_error hread hh⟩

/-- The connection after one frame that is not fatal: `rest` is left of the input. -/
structure Takes (target : Nat) (f : Frame) (rest : Bytes) (c c' : Connection) : Prop where
  decoder : c'.decoder = f.tableAfter c.decoder
  streams : c'.streams =
    c.streams.modify target fun s => f.deliver target c.decoder s.frameReceived
  delivers : c'.session.Delivers
  accepts : c'.session.Accepts
  unread : c'.session.transport.unread = rest

theorem awaitEnd_of_not_fatal (hd : c.session.Delivers) (ha : c.session.Accepts)
    (hdec : Frame.decode? c.session.transport.unread = some (f, rest))
    (hl : f.payload.length ≤ payloadLimit) (hf : ¬ f.Fatal c.decoder target) :
    ∃ c', Takes target f rest c c' ∧
      c.awaitEnd target = if f.Closes target then (.ok (), c') else c'.awaitEnd target := by
  obtain ⟨s, hread, hds, has, hu⟩ := readFrame_of_delivers hd ha hdec hl
  obtain ⟨s', hh, hds', has', hu'⟩ :=
    handle_of_accepts (c := noted { c with session := s } target) hds has target f
  obtain ⟨hout, hdecoder, hstreams⟩ := Endpoint.takes_receive (e := c.noteFrame target) hf
  rw [show (noted { c with session := s } target).toEndpoint = c.noteFrame target from rfl,
    hout] at hh
  refine ⟨⟨((c.noteFrame target).receive target f).endpoint, s'⟩,
    ⟨hdecoder, ?_, hds', has', hu'.trans hu⟩, ?_⟩
  · refine hstreams.trans ?_
    exact Stream.Registry.modify_modify _ _ _ _ Stream.id_frameReceived
  · rw [awaitEnd_of_handle_ok hread hh]
    by_cases hc : f.Closes target <;> simp [hc]

/-- What a frame brings to the awaited stream goes into its response. -/
theorem Takes.find? (h : Takes target f rest c c') {s : Stream}
    (hs : c.streams.find? target = some s) :
    ∃ s', c'.streams.find? target = some s' ∧
      ∀ blocks data, (s'.absorb blocks data).response =
        (s.absorb (f.blocksFor target c.decoder ++ blocks) (f.dataFor target ++ data)).response := by
  refine ⟨f.deliver target c.decoder s.frameReceived, ?_, fun blocks data => ?_⟩
  · rw [h.streams, Stream.Registry.find?_modify_self _ _ _ fun s => by simp, hs]
    rfl
  · have habs : ((s.frameReceived.absorb (f.blocksFor target c.decoder)
        (f.dataFor target)).absorb blocks data).response =
        (s.absorb (f.blocksFor target c.decoder ++ blocks) (f.dataFor target ++ data)).response := by
      rw [Stream.absorb_absorb, Stream.response_absorb_frameReceived]
    unfold Frame.deliver
    split
    · rw [← habs, Stream.close, Stream.absorb_of_state]
      rfl
    · exact habs

/-! ### All frames -/

theorem decode?_unread_of_readable {post : List Frame} (hr : f.Readable)
    (hu : c.session.transport.unread = (f :: post).flatMap Frame.encode) :
    Frame.decode? c.session.transport.unread = some (f, post.flatMap Frame.encode) := by
  rw [hu, List.flatMap_cons, Frame.decode?_encode, hr.1]

/-- **A wait up to the frame that closes the stream** succeeds, with what the frames brought. -/
theorem awaitEnd_of_closing {pre post : List Frame} {s : Stream} (hd : c.session.Delivers)
    (ha : c.session.Accepts) (hr : ∀ g ∈ pre ++ f :: post, g.Readable)
    (hu : c.session.transport.unread = (pre ++ f :: post).flatMap Frame.encode)
    (hpre : ∀ g ∈ pre, ¬ g.Closes target) (hc : f.Closes target)
    (hpass : Frame.Pass target c.decoder (pre ++ [f]))
    (hs : c.streams.find? target = some s) :
    ∃ c' s', c.awaitEnd target = (.ok (), c') ∧ c'.streams.find? target = some s' ∧
      s'.response = (s.absorb (Frame.blocksOf target c.decoder (pre ++ [f]))
        (Frame.dataOf target (pre ++ [f]))).response ∧
      c'.session.transport.unread = post.flatMap Frame.encode := by
  induction pre generalizing c s with
  | nil =>
    have hrf := hr f List.mem_cons_self
    obtain ⟨c', ht, heq⟩ := awaitEnd_of_not_fatal hd ha (decode?_unread_of_readable hrf hu) hrf.2
      (Frame.pass_cons.1 hpass).1
    obtain ⟨s', hs', habs⟩ := ht.find? hs
    refine ⟨c', s', by rw [heq, if_pos hc], hs', ?_, ht.unread⟩
    have := habs [] []
    rw [Stream.absorb_nil] at this
    rw [this]
    simp [Frame.blocksOf, Frame.dataOf]
  | cons g pre ih =>
    have hrg := hr g List.mem_cons_self
    obtain ⟨hng, hpass'⟩ := Frame.pass_cons.1 hpass
    obtain ⟨d, ht, heq⟩ :=
      awaitEnd_of_not_fatal hd ha (decode?_unread_of_readable hrg hu) hrg.2 hng
    obtain ⟨s₁, hs₁, habs⟩ := ht.find? hs
    rw [if_neg (hpre g List.mem_cons_self)] at heq
    obtain ⟨c', s', hok, hs', hresp, hu'⟩ := ih ht.delivers ht.accepts
      (fun g hg => hr g (List.mem_cons_of_mem _ hg)) ht.unread
      (fun g hg => hpre g (List.mem_cons_of_mem _ hg)) (by rw [ht.decoder]; exact hpass') hs₁
    refine ⟨c', s', heq.trans hok, hs', ?_, hu'⟩
    rw [hresp, habs, ht.decoder]
    rfl

/-- A wait that succeeds was ended by a frame that closes the stream, and met no fatal one. -/
theorem closing_of_awaitEnd {fs : List Frame} (hd : c.session.Delivers) (ha : c.session.Accepts)
    (hr : ∀ g ∈ fs, g.Readable) (hu : c.session.transport.unread = fs.flatMap Frame.encode)
    (hok : c.awaitEnd target = (.ok (), c')) :
    ∃ pre f post, fs = pre ++ f :: post ∧ f.Closes target ∧
      Frame.Pass target c.decoder (pre ++ [f]) := by
  induction fs generalizing c with
  | nil =>
    obtain ⟨e, s, hread⟩ := Session.readFrameUpTo_of_unread_nil hd (by simpa using hu) payloadLimit
    have hrf : c.readFrame = (.error (readFailure e), fail { c with session := s }) := by
      unfold readFrame
      rw [hread]
    rw [awaitEnd_of_readFrame_error hrf] at hok
    cases hok
  | cons f fs ih =>
    have hrf := hr f List.mem_cons_self
    have hdec := decode?_unread_of_readable hrf hu
    by_cases hf : f.Fatal c.decoder target
    · obtain ⟨e, d, herr⟩ := awaitEnd_of_fatal hd ha hdec hrf.2 hf
      rw [herr] at hok
      cases hok
    · obtain ⟨d, ht, heq⟩ := awaitEnd_of_not_fatal hd ha hdec hrf.2 hf
      by_cases hc : f.Closes target
      · exact ⟨[], f, fs, rfl, hc, Frame.pass_cons.2 ⟨hf, Frame.pass_nil _ _⟩⟩
      · rw [heq, if_neg hc] at hok
        obtain ⟨pre, g, post, rfl, hg, hpass⟩ := ih ht.delivers ht.accepts
          (fun g hg => hr g (List.mem_cons_of_mem _ hg)) ht.unread hok
        refine ⟨f :: pre, g, post, rfl, hg, ?_⟩
        rw [List.cons_append, Frame.pass_cons, ← ht.decoder]
        exact ⟨hf, hpass⟩

theorem exists_first_closing {fs pre post : List Frame} {t : Hpack.Table}
    (hfs : fs = pre ++ f :: post) (hc : f.Closes target)
    (hpass : Frame.Pass target t (pre ++ [f])) :
    ∃ pre' f' post', fs = pre' ++ f' :: post' ∧ (∀ g ∈ pre', ¬ g.Closes target) ∧
      f'.Closes target ∧ Frame.Pass target t (pre' ++ [f']) := by
  induction pre generalizing fs t with
  | nil => exact ⟨[], f, post, hfs, nofun, hc, hpass⟩
  | cons g pre ih =>
    obtain ⟨hg, hpass'⟩ := Frame.pass_cons.1 hpass
    by_cases hgc : g.Closes target
    · exact ⟨[], g, pre ++ f :: post, hfs, nofun, hgc, Frame.pass_cons.2 ⟨hg, Frame.pass_nil _ _⟩⟩
    · obtain ⟨pre', f', post', heq, hno, hc', hp'⟩ := ih rfl hpass'
      refine ⟨g :: pre', f', post', by rw [hfs, List.cons_append, heq, List.cons_append], ?_, hc',
        Frame.pass_cons.2 ⟨hg, hp'⟩⟩
      intro k hk
      rcases List.mem_cons.1 hk with rfl | hk
      · exact hgc
      · exact hno k hk

theorem awaitFault?_eq_none
    (hphase : c.phase = .ready ∨ ∃ last, c.phase = .draining last ∧ target ≤ last)
    (hstream : ∃ state, c.streams.state? target = some state ∧ state.isAwaiting = true) :
    c.awaitFault? target = none := by
  obtain ⟨state, hs, haw⟩ := hstream
  have hnone : c.streamFault? target = none := by simp [Endpoint.streamFault?, hs, haw]
  rcases hphase with hp | ⟨last, hp, hl⟩
  · simp [Endpoint.awaitFault?, hp, hnone]
  · simp [Endpoint.awaitFault?, hp, hnone, Nat.not_lt.2 hl]

/-- **The assembly of a response.** In a reachable connection that is open, or drains and still
serves the stream `target`, whose response is awaited, over an input of whole frames without
failures: the wait succeeds exactly if a frame closes the stream and neither it nor a frame before
it is fatal. Then the response is gathered from the header blocks and the data that the frames up
to the first such one bring to the stream, and the frames after it stay unread. -/
theorem recvResponse_assembles (hreach : Reachable c)
    (hphase : c.phase = .ready ∨ ∃ last, c.phase = .draining last ∧ target ≤ last)
    (hstream : ∃ state, c.streams.state? target = some state ∧ state.isAwaiting = true)
    (hd : c.session.Delivers) (ha : c.session.Accepts) {fs : List Frame}
    (hu : c.session.transport.unread = fs.flatMap Frame.encode)
    (hl : ∀ f ∈ fs, f.payload.length ≤ payloadLimit) :
    ((∃ response, (c.recvResponse target).1 = .ok response) ↔
      ∃ pre f post, fs.map Frame.onWire = pre ++ f :: post ∧ f.Closes target ∧
        Frame.Pass target c.decoder (pre ++ [f])) ∧
    ∀ pre f post, fs.map Frame.onWire = pre ++ f :: post →
      (∀ g ∈ pre, ¬ g.Closes target) → f.Closes target →
      Frame.Pass target c.decoder (pre ++ [f]) →
      (c.recvResponse target).1 = .ok (.gather target
        (Frame.blocksOf target c.decoder (pre ++ [f])) (Frame.dataOf target (pre ++ [f]))) ∧
      (c.recvResponse target).2.session.transport.unread = post.flatMap Frame.encode := by
  have hfault := awaitFault?_eq_none hphase hstream
  have husable : c.phase.IsUsable := (of_awaitFault?_eq_none hfault).1
  have hfind := hreach.find?_awaiting husable hstream
  -- a peer reads the frames with the kinds that their bytes name
  have hr : ∀ g ∈ fs.map Frame.onWire, g.Readable := by
    intro g hg
    obtain ⟨f, hf, rfl⟩ := List.mem_map.1 hg
    exact ⟨Frame.onWire_onWire f, hl f hf⟩
  have hwire : c.session.transport.unread = (fs.map Frame.onWire).flatMap Frame.encode := by
    rw [hu, List.flatMap_map]
    simp
  have hok : ∀ pre f post, fs.map Frame.onWire = pre ++ f :: post →
      (∀ g ∈ pre, ¬ g.Closes target) → f.Closes target →
      Frame.Pass target c.decoder (pre ++ [f]) →
      (c.recvResponse target).1 = .ok (.gather target
        (Frame.blocksOf target c.decoder (pre ++ [f])) (Frame.dataOf target (pre ++ [f]))) ∧
      (c.recvResponse target).2.session.transport.unread = post.flatMap Frame.encode := by
    intro pre f post hfs hpre hc hpass
    rw [hfs] at hr hwire
    obtain ⟨c', s', hend, hs', hresp, hu'⟩ := awaitEnd_of_closing hd ha hr hwire hpre hc hpass hfind
    simp only [recvResponse, hfault, hend, Endpoint.responseOn, hs', Option.getD_some]
    exact ⟨by rw [hresp, Stream.response_absorb_sent], hu'⟩
  refine ⟨⟨?_, ?_⟩, hok⟩
  · rintro ⟨response, hresp⟩
    rcases hend : c.awaitEnd target with ⟨e | u, d⟩
    · simp only [recvResponse, hfault, hend] at hresp
      cases hresp
    · exact closing_of_awaitEnd hd ha hr hwire hend
  · rintro ⟨pre, f, post, hfs, hc, hpass⟩
    obtain ⟨pre', f', post', hfs', hno, hc', hpass'⟩ := exists_first_closing hfs hc hpass
    exact ⟨_, (hok pre' f' post' hfs' hno hc' hpass').1⟩

def okHeaders : Frame :=
  ⟨.headers, ⟨Frame.Flags.endHeadersBit⟩, 1, [0x88], by decide, by decide⟩

theorem two_le_maxPayload : 2 ≤ maxPayload := by decide

/-- Two bytes that end the stream. -/
def lastData : Frame :=
  ⟨.data, ⟨Frame.Flags.endStreamBit⟩, 1, [104, 105], two_le_maxPayload, by decide⟩

def afterGet : Connection :=
  fresh.perform (.sendRequest "GET" "a" "/" [])

/-- The response of these two frames to that request. -/
theorem recvResponse_assembles_ok : ∃ c : Connection, Reachable c ∧ c.phase = .ready ∧
    c.streams.state? 1 = some .headersSent ∧ c.session.Delivers ∧ c.session.Accepts ∧
    c.session.transport.unread = [okHeaders, lastData].flatMap Frame.encode ∧
    (c.recvResponse 1).1 = .ok ⟨1, some 200, [], [104, 105]⟩ := by
  let c : Connection :=
    { afterGet with
      session := .new { input := [.data ([okHeaders, lastData].flatMap Frame.encode)] } }
  have hreach : Reachable c := .session (.call (.opened openOn_fresh) _) _
  have hphase : afterGet.phase = .ready := by cbv
  have hstream : afterGet.streams.state? 1 = some .headersSent := by cbv
  have hdecoder : afterGet.decoder = .initial := by cbv
  have hd : c.session.Delivers := by
    refine ⟨rfl, fun e he => ?_, (Option.some_ne_none 0).symm⟩
    rw [List.mem_singleton.1 he]
    exact List.cons_ne_nil _ _
  have ha : c.session.Accepts := .of_nil rfl rfl rfl
  have hu : c.session.transport.unread = [okHeaders, lastData].flatMap Frame.encode :=
    List.append_nil _
  have hpass : Frame.Pass 1 afterGet.decoder ([okHeaders] ++ [lastData]) := by
    rw [hdecoder]
    refine Frame.pass_cons.2 ⟨?_, Frame.pass_cons.2 ⟨?_, Frame.pass_nil _ _⟩⟩ <;> decide +kernel
  obtain ⟨-, hgather⟩ :=
    recvResponse_assembles hreach (.inl hphase) ⟨_, hstream, rfl⟩ hd ha hu (by decide)
  refine ⟨c, hreach, hphase, hstream, hd, ha, hu, ?_⟩
  rw [(hgather [okHeaders] lastData [] rfl (by decide) (by decide) hpass).1,
    show c.decoder = .initial from hdecoder]
  cbv

end Connection

end Http2
