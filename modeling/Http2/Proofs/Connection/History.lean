import Http2.Proofs.Connection.Framing
import Http2.Proofs.Connection.Verdict

/-!
The history of a connection in use: the requests that went out or were refused, and the frames
that came in, each with its reply. The events determine the endpoint, the frames that were written
and those that were taken off the input, whatever the calls were and however the bytes moved.
-/

namespace Http2

/-- What happens on a connection in use. -/
inductive Event where
  /-- A request went out in a frame. -/
  | sent (fields : List Field) (f : Frame)
  /-- A request was refused. -/
  | refused (fields : List Field) (cause : Error)
  /-- A frame came in while the response on `target` was due. -/
  | came (target : Nat) (f : Frame) (reply : Option Frame)

namespace Event

def incoming : Event → List Frame
  | .came _ f _ => [f]
  | .sent .. | .refused .. => []

def outgoing : Event → List Frame
  | .sent _ f => [f]
  | .came _ _ reply => reply.toList
  | .refused .. => []

def request : Event → List (List Field)
  | .sent fields _ => [fields]
  | .came .. | .refused .. => []

def IsRefusal : Event → Prop
  | .refused .. => True
  | .came .. | .sent .. => False

def IsArrival : Event → Prop
  | .came .. => True
  | .sent .. | .refused .. => False

theorem flatMap_request_of_arrivals {es : List Event} (h : ∀ ev ∈ es, ev.IsArrival) :
    es.flatMap request = [] ∧ ∀ ev ∈ es, ¬ ev.IsRefusal := by
  have hone (ev : Event) (h : ev.IsArrival) : ev.request = [] ∧ ¬ ev.IsRefusal := by
    cases ev with
    | came => exact ⟨rfl, id⟩
    | sent | refused => exact h.elim
  exact ⟨List.flatMap_eq_nil_iff.2 fun ev hev => (hone ev (h ev hev)).1,
    fun ev hev => (hone ev (h ev hev)).2⟩

end Event

theorem Phase.isUsable_of_rank_le {p p' : Phase} (h : p.rank ≤ p'.rank) (hu : p'.IsUsable) :
    p.IsUsable := by
  cases p with
  | ready | draining => trivial
  | failed | closed =>
    exact absurd (Nat.le_trans h (rank_le_one hu)) (by decide)

namespace Endpoint

/-- What a request leaves as it is, whatever becomes of it. Only fields without fault change the
encoder's table. -/
structure Keeps (e : Endpoint) (fields : List Field) (ep : Endpoint) : Prop where
  phase : ep.phase = e.phase
  decoder : ep.decoder = e.decoder
  remote : ep.remote = e.remote
  encoder : ep.encoder = e.encoder ∨ Field.validateRequest fields = .ok () ∧
    ep.encoder = (Hpack.encode e.encoder (fields.map Field.toEntry)).2

theorem keeps_prepare (e : Endpoint) (fields : List Field) :
    Keeps e fields (e.prepare fields).2 := by
  unfold prepare Field.compress
  split
  · cases hv : Field.validateRequest fields with
    | error err => exact ⟨rfl, rfl, rfl, .inl rfl⟩
    | ok u =>
      simp only
      split
      · exact ⟨rfl, rfl, rfl, .inr ⟨hv, rfl⟩⟩
      · split
        · exact ⟨rfl, rfl, rfl, .inr ⟨hv, rfl⟩⟩
        · exact ⟨rfl, rfl, rfl, .inr ⟨hv, rfl⟩⟩
  · exact ⟨rfl, rfl, rfl, .inl rfl⟩

theorem Keeps.of_prepare {e ep : Endpoint} {fields : List Field} {r : Except Error Frame}
    (h : e.prepare fields = (r, ep)) : Keeps e fields ep := by
  obtain rfl : (e.prepare fields).2 = ep := congrArg Prod.snd h
  exact keeps_prepare e fields

/-- A request that goes out: its frame carries its compressed fields on a new stream. -/
structure Prepared (e : Endpoint) (fields : List Field) (f : Frame) (ep : Endpoint) : Prop where
  ready : e.phase = .ready
  valid : Field.validateRequest fields = .ok ()
  kind : f.kind = .headers
  flags : f.flags = requestFlags
  streamId : f.streamId = e.streams.nextId
  payload : f.payload = (Hpack.encode e.encoder (fields.map Field.toEntry)).1
  short : f.payload.length ≤ e.remote.maxFrameSizeInForce
  endpoint : ep = { e with
    streams := ⟨e.streams.dropClosed.streams ++ [.new e.streams.nextId], e.streams.nextId + 2⟩
    encoder := (Hpack.encode e.encoder (fields.map Field.toEntry)).2 }

theorem Prepared.encoder_markSent {e ep : Endpoint} {fields : List Field} {f : Frame}
    (h : Prepared e fields f ep) (id : Nat) :
    (ep.markSent id).encoder = (Hpack.encode e.encoder (fields.map Field.toEntry)).2 := by
  rw [h.endpoint]
  rfl

theorem Prepared.remote_markSent {e ep : Endpoint} {fields : List Field} {f : Frame}
    (h : Prepared e fields f ep) (id : Nat) : (ep.markSent id).remote = e.remote := by
  rw [h.endpoint]
  rfl

theorem prepared_of_prepare {e ep : Endpoint} {fields : List Field} {f : Frame}
    (h : e.prepare fields = (.ok f, ep)) : Prepared e fields f ep := by
  unfold prepare at h
  split at h
  · next hready =>
    unfold Field.compress at h
    cases hv : Field.validateRequest fields with
    | error err =>
      rw [hv] at h
      cases h
    | ok u =>
      rw [hv] at h
      simp only at h
      split at h
      · cases h
      · next hshort =>
        unfold Stream.Registry.create at h
        split at h
        · next hc =>
          split at hc
          · cases hc
          · cases hc
            cases h
        · next hc =>
          split at hc
          · cases hc
            rw [Prod.mk.injEq] at h
            obtain ⟨hmake, rfl⟩ := h
            obtain ⟨hk, hf, hs, hp⟩ := Frame.make_eq_ok_iff.1 hmake
            exact ⟨hready, hv, hk, hf, hs, hp, by rw [hp]; exact Nat.le_of_not_lt hshort, rfl⟩
          · cases hc
  · cases h

/-- The endpoint comes about by the events, the first one first. A frame that breaks the protocol
is not among them: it takes the connection out of use. -/
inductive Trace : List Event → Endpoint → Prop
  | opened : Trace [] {}
  | sent {es : List Event} {e ep : Endpoint} {fields : List Field} {f : Frame} (before : Trace es e)
      (prepared : e.prepare fields = (.ok f, ep)) :
      Trace (es ++ [.sent fields f]) (ep.markSent f.streamId)
  | refused {es : List Event} {e ep : Endpoint} {fields : List Field} {cause : Error}
      (before : Trace es e) (prepared : e.prepare fields = (.error cause, ep)) :
      Trace (es ++ [.refused fields cause]) ep
  | came {es : List Event} {e : Endpoint} {target : Nat} {f : Frame} (before : Trace es e)
      (stands : ∀ err, ((e.noteFrame target).receive target f).outcome = .error err →
        err.EndsStream) :
      Trace (es ++ [.came target f ((e.noteFrame target).receive target f).reply])
        ((e.noteFrame target).receive target f).endpoint
  /-- A response was handed over. -/
  | taken {es : List Event} {e : Endpoint} (before : Trace es e) (target : Nat) :
      Trace es (e.taken target)

theorem Trace.onWire_outgoing {es : List Event} {e : Endpoint} (h : Trace es e) :
    (es.flatMap Event.outgoing).map Frame.onWire = es.flatMap Event.outgoing := by
  induction h with
  | opened => rfl
  | @sent es e ep fields f _ prepared ih =>
    have hwire : f.onWire = f :=
      Frame.onWire_of_ofByte (by rw [(prepared_of_prepare prepared).kind]; rfl)
    simp [Event.outgoing, ih, hwire]
  | refused _ _ ih => simpa [Event.outgoing] using ih
  | @came es e target f _ _ ih =>
    have hreply : ∀ g ∈ ((e.noteFrame target).receive target f).reply.toList, g.onWire = g := by
      intro g hg
      rcases (effect_receive (e.noteFrame target) target f).reply_cases (by simpa using hg) with
        ⟨rfl, -⟩ | ⟨p, rfl⟩
      · rfl
      · rfl
    simp only [List.flatMap_append, List.flatMap_cons, List.flatMap_nil, List.append_nil,
      List.map_append, ih, Event.outgoing]
    rw [List.map_congr_left hreply, List.map_id']
  | taken _ target ih => exact ih

end Endpoint

namespace Connection

/-- The connection, opened on `t`, is where the events lead: they are all that was written and all
that was taken off the input. -/
structure Follows (t : Transport) (es : List Event) (c : Connection) : Prop where
  trace : Endpoint.Trace es c.toEndpoint
  written : c.session.transport.written = t.written ++ Session.preface ++
    Frame.initialSettings.encode ++ (es.flatMap Event.outgoing).flatMap Frame.encode
  input : ∃ bytes, t.unread = bytes ++ c.session.transport.unread ∧
    Frame.decodeAll bytes = (es.flatMap Event.incoming, [])

variable {t : Transport} {es : List Event} {c c' : Connection} {target : Nat}

theorem follows_of_openOn {timeout : Option Nat} (h : openOn t timeout = (.ok (), c)) :
    Follows t [] c := by
  unfold openOn at h
  simp only at h
  split at h
  · cases h
  · split at h
    · cases h
    · next session hs =>
      cases h
      have hp := Session.pushed_sendPreface hs
      refine ⟨.opened, ?_, [], ?_, by rw [Frame.decodeAll_nil]; rfl⟩
      · rw [hp.written]
        simp [ofSession, Session.setTimeout, Session.new]
      · rw [hp.unread]
        rfl

/-- The bytes that the connection, opened on `t`, took off the input. -/
def bytesTaken (t : Transport) (c : Connection) : Bytes :=
  t.unread.take (t.unread.length - c.session.transport.unread.length)

/-- The frames that the connection took in. -/
def framesTaken (t : Transport) (c : Connection) : List Frame :=
  (Frame.decodeAll (c.bytesTaken t)).1

/-- The frames that the connection wrote, after the preface. -/
def framesSent (t : Transport) (c : Connection) : List Frame :=
  (Frame.decodeAll (c.session.transport.written.drop
    (t.written ++ Session.preface).length)).1

theorem Follows.decodeAll_bytesTaken (h : Follows t es c) :
    Frame.decodeAll (c.bytesTaken t) = (es.flatMap Event.incoming, []) := by
  obtain ⟨bytes, hu, hall⟩ := h.input
  have hbytes : c.bytesTaken t = bytes := by
    rw [bytesTaken, hu, List.length_append, Nat.add_sub_cancel_right, List.take_left' rfl]
  rw [hbytes, hall]

theorem Follows.framesTaken_eq (h : Follows t es c) :
    c.framesTaken t = es.flatMap Event.incoming := by
  rw [framesTaken, h.decodeAll_bytesTaken]

theorem Follows.framesSent_eq (h : Follows t es c) :
    c.framesSent t = .initialSettings :: es.flatMap Event.outgoing := by
  have hbytes : c.session.transport.written.drop (t.written ++ Session.preface).length =
      (Frame.initialSettings :: es.flatMap Event.outgoing).flatMap Frame.encode := by
    rw [h.written, List.append_assoc (t.written ++ Session.preface), List.drop_left' rfl]
    rfl
  rw [framesSent, hbytes, Frame.decodeAll_flatMap_encode, List.map_cons, h.trace.onWire_outgoing]
  rfl

/-! ### Frames that come in -/

/-- A frame that was handled had its effect, and its answer was written if there was one. -/
theorem receive_of_handle {f : Frame} {outcome : Except Error Bool}
    (hh : c.handle target f = (outcome, c')) :
    c'.toEndpoint = (c.toEndpoint.receive target f).endpoint ∧
      (((c.toEndpoint.receive target f).outcome = outcome ∧ c.session.Pushed c'.session
          ((c.toEndpoint.receive target f).reply.toList.flatMap Frame.encode)) ∨
        ∃ cause, outcome = .error (.io cause)) := by
  cases hr : (c.toEndpoint.receive target f).reply with
  | none =>
    rw [handle_of_reply_none hr] at hh
    cases hh
    exact ⟨rfl, .inl ⟨rfl, .refl _⟩⟩
  | some g =>
    rw [handle_of_reply_some hr] at hh
    rcases hw : c.session.writeFrame g with ⟨e | u, session⟩
    · obtain ⟨⟨cause, rfl⟩, -⟩ := Session.pushed_writeFrame_of_error hw
      rw [hw] at hh
      cases hh
      exact ⟨rfl, .inr ⟨cause, rfl⟩⟩
    · rw [hw] at hh
      cases hh
      refine ⟨rfl, .inl ⟨rfl, ?_⟩⟩
      simpa using Session.pushed_writeFrame hw

/-- **A frame that was read and handled** is one more event, unless it took the connection out of
use. -/
theorem Follows.came (h : Follows t es c) {f : Frame} {read : Connection}
    {outcome : Except Error Bool} (hread : c.readFrame = (.ok f, read))
    (hh : (read.noted target).handle target f = (outcome, c'))
    (hout : ∀ err, outcome = .error err → err.EndsStream) :
    ∃ reply, Follows t (es ++ [.came target f reply]) c' := by
  obtain ⟨-, raw, hpull, hdec⟩ := readFrame_ok hread
  obtain ⟨hend, ⟨hsame, hpush⟩ | ⟨cause, hio⟩⟩ := receive_of_handle hh
  · rw [toEndpoint_noted hread] at hend hsame hpush
    have hsession : read.session.Pushed c'.session
        (((c.noteFrame target).receive target f).reply.toList.flatMap Frame.encode) := hpush
    refine ⟨((c.noteFrame target).receive target f).reply, ?_, ?_, ?_⟩
    · rw [hend]
      exact h.trace.came fun err herr => hout err (hsame ▸ herr)
    · rw [hsession.written, hpull.written, h.written]
      simp [Event.outgoing]
    · obtain ⟨bytes, hu, hall⟩ := h.input
      refine ⟨bytes ++ raw, ?_, ?_⟩
      · rw [hsession.unread, hu, hpull.unread, List.append_assoc]
      · rw [Frame.decodeAll_append (by rw [hall]), hall, Frame.decodeAll_of_whole hdec]
        simp [Event.incoming]
  · exact (hout _ hio).elim

theorem Follows.rounds (h : Follows t es c)
    (hr : Relation.ReflTransGen (Round target) c c') :
    ∃ more : List Event, (∀ ev ∈ more, ev.IsArrival) ∧ Follows t (es ++ more) c' := by
  refine rounds_induction (P := fun d => ∃ more : List Event, (∀ ev ∈ more, ev.IsArrival) ∧
    Follows t (es ++ more) d) ?_ ⟨[], nofun, by rwa [List.append_nil]⟩ hr
  rintro d d' ⟨more, harrive, hd⟩ ⟨f, read, hread, hh⟩
  obtain ⟨reply, hd'⟩ := hd.came hread hh nofun
  refine ⟨more ++ [.came target f reply], fun ev hev => ?_, by rwa [← List.append_assoc]⟩
  rcases List.mem_append.1 hev with hev | hev
  · exact harrive ev hev
  · rw [List.mem_singleton.1 hev]
    trivial

/-- The last round of a wait is one more event, if the connection is still in use after it. -/
theorem Follows.lastRound (h : Follows t es c) {outcome : Except Error Unit}
    (hl : LastRound target c outcome c') (hu : c'.phase.IsUsable) :
    ∃ ev : Event, ev.IsArrival ∧ Follows t (es ++ [ev]) c' := by
  cases hl with
  | unread hread =>
    obtain ⟨he, -, -⟩ := readFrame_error hread
    rw [he] at hu
    exact hu.elim
  | @failed f read d e hread hh =>
    by_cases hends : e.EndsStream
    · have hd : d.afterFailure e = d := by
        cases e with
        | streamReset | goAway => rfl
        | _ => exact hends.elim
      rw [hd]
      obtain ⟨reply, hf⟩ := h.came hread hh fun err herr => by
        cases herr
        exact hends
      exact ⟨.came target f reply, trivial, hf⟩
    · rw [afterFailure_of_not_endsStream hends] at hu
      exact hu.elim
  | @ended f read c' hread hh =>
    obtain ⟨reply, hf⟩ := h.came hread hh nofun
    exact ⟨.came target f reply, trivial, hf⟩

/-! ### Calls -/

/-- **A wait** adds the frames that it took. -/
theorem Follows.recvResponse (h : Follows t es c) (target : Nat)
    (hu : (c.recvResponse target).2.phase.IsUsable) :
    ∃ more : List Event, (∀ ev ∈ more, ev.IsArrival) ∧
      Follows t (es ++ more) (c.recvResponse target).2 := by
  cases hf : c.awaitFault? target with
  | some e =>
    refine ⟨[], nofun, ?_⟩
    simpa only [Connection.recvResponse, hf, List.append_nil] using h
  | none =>
    obtain ⟨mid, outcome, d, hr, hl, hcases⟩ := recvResponse_rounds hf
    obtain ⟨more, harrive, hmid⟩ := h.rounds hr
    have hadd (hd : d.phase.IsUsable) : ∃ more : List Event, (∀ ev ∈ more, ev.IsArrival) ∧
        Follows t (es ++ more) d := by
      obtain ⟨ev, hev, hlast⟩ := hmid.lastRound hl hd
      refine ⟨more ++ [ev], fun ev' hev' => ?_, by rwa [← List.append_assoc]⟩
      rcases List.mem_append.1 hev' with hev' | hev'
      · exact harrive ev' hev'
      · rw [List.mem_singleton.1 hev']
        exact hev
    rcases hcases with ⟨e, -, heq⟩ | ⟨-, heq⟩
    · rw [heq] at hu ⊢
      exact hadd hu
    · rw [heq] at hu ⊢
      obtain ⟨more, harrive, hd⟩ := hadd hu
      exact ⟨more, harrive, hd.trace.taken target, hd.written, hd.input⟩

theorem Follows.sent (h : Follows t es c) {fields : List Field} {f : Frame} {ep : Endpoint}
    {session : Session} (hprep : c.prepare fields = (.ok f, ep))
    (hs : c.session.Pushed session f.encode) :
    Follows t (es ++ [.sent fields f]) ⟨ep.markSent f.streamId, session⟩ := by
  refine ⟨h.trace.sent hprep, ?_, ?_⟩
  · rw [hs.written, h.written]
    simp [Event.outgoing]
  · rw [hs.unread]
    simpa [Event.incoming] using h.input

/-- **A request** adds that it went out or was refused. -/
theorem Follows.sendRequest (h : Follows t es c) (method authority path : String)
    (extra : List Field) (hu : (c.sendRequest method authority path extra).2.phase.IsUsable) :
    ∃ ev : Event, Follows t (es ++ [ev]) (c.sendRequest method authority path extra).2 := by
  obtain ⟨ep, -, ⟨cause, hprep, heq⟩ | ⟨f, session, hprep, ⟨cause, sent, -, heq⟩ | ⟨hs, heq⟩⟩⟩ :=
    sendRequest_cases c method authority path extra
  · rw [heq]
    refine ⟨_, h.trace.refused hprep, ?_, ?_⟩
    · simpa [Event.outgoing] using h.written
    · simpa [Event.incoming] using h.input
  · rw [heq] at hu
    exact hu.elim
  · rw [heq]
    exact ⟨_, h.sent hprep hs⟩

theorem Follows.sendRequest_ok (h : Follows t es c) {method authority path : String}
    {extra : List Field} {id : Nat}
    (hok : (c.sendRequest method authority path extra).1 = .ok id) :
    ∃ f ep, c.prepare (Endpoint.requestFields method authority path extra) = (.ok f, ep) ∧
      (c.sendRequest method authority path extra).2.toEndpoint = ep.markSent f.streamId ∧
      Follows t (es ++ [.sent (Endpoint.requestFields method authority path extra) f])
        (c.sendRequest method authority path extra).2 := by
  obtain ⟨ep, -, ⟨cause, -, heq⟩ | ⟨f, session, hprep, ⟨cause, sent, -, heq⟩ | ⟨hs, heq⟩⟩⟩ :=
    sendRequest_cases c method authority path extra
  · rw [heq] at hok
    cases hok
  · rw [heq] at hok
    cases hok
  · rw [heq]
    exact ⟨f, ep, hprep, rfl, h.sent hprep hs⟩

theorem Follows.recvResponse_ok (h : Follows t es c) {target : Nat}
    (hok : (c.recvResponse target).1.isOk = true) :
    ∃ more : List Event, Follows t (es ++ more) (c.recvResponse target).2 ∧
      more.flatMap Event.request = [] ∧ ∀ ev ∈ more, ¬ ev.IsRefusal := by
  cases hr : (c.recvResponse target).1 with
  | error e =>
    rw [hr] at hok
    cases hok
  | ok response =>
    obtain ⟨more, harrive, hf⟩ := h.recvResponse target (isUsable_recvResponse hr)
    exact ⟨more, hf, Event.flatMap_request_of_arrivals harrive⟩

theorem Follows.request_ok (h : Follows t es c) {method authority path : String}
    {extra : List Field} (hok : (c.request method authority path extra).1.isOk = true) :
    ∃ more : List Event, Follows t (es ++ more) (c.request method authority path extra).2 ∧
      more.flatMap Event.request = [Endpoint.requestFields method authority path extra] ∧
      ∀ ev ∈ more, ¬ ev.IsRefusal := by
  unfold request at hok ⊢
  rcases hs : c.sendRequest method authority path extra with ⟨e | id, d⟩
  · rw [hs] at hok
    cases hok
  · rw [hs] at hok
    obtain ⟨f, -, -, -, hf⟩ := h.sendRequest_ok (congrArg Prod.fst hs)
    rw [hs] at hf
    obtain ⟨more, hd, hreq, hno⟩ := hf.recvResponse_ok hok
    refine ⟨.sent (Endpoint.requestFields method authority path extra) f :: more, ?_, ?_, ?_⟩
    · simpa using hd
    · simp [Event.request, hreq]
    · intro ev hev
      rcases List.mem_cons.1 hev with rfl | hev
      · exact not_false
      · exact hno ev hev

/-- **A run of successful requests and responses** has its requests, in order, in its history, and
no refusal. -/
theorem Follows.run_ok (h : Follows t es c) {calls : List Call} (hclose : .close ∉ calls)
    (hok : ∀ a ∈ c.answers calls, a.isOk = true) :
    ∃ more : List Event, Follows t (es ++ more) (c.run calls) ∧
      more.flatMap Event.request = calls.flatMap Call.fields ∧ ∀ ev ∈ more, ¬ ev.IsRefusal := by
  induction calls generalizing c es with
  | nil => exact ⟨[], by rwa [List.append_nil], rfl, nofun⟩
  | cons call calls ih =>
    have hcall : (c.answer call).isOk = true := hok _ List.mem_cons_self
    have hone : ∃ more : List Event, Follows t (es ++ more) (c.perform call) ∧
        more.flatMap Event.request = call.fields ∧ ∀ ev ∈ more, ¬ ev.IsRefusal := by
      cases call with
      | sendRequest method authority path extra =>
        rcases hs : (c.sendRequest method authority path extra).1 with e | id
        · simp only [answer, hs] at hcall
          cases hcall
        · obtain ⟨f, -, -, -, hf⟩ := h.sendRequest_ok hs
          exact ⟨[_], hf, rfl, fun ev hev => by rw [List.mem_singleton.1 hev]; exact not_false⟩
      | recvResponse target => exact h.recvResponse_ok hcall
      | request method authority path extra => exact h.request_ok hcall
      | get authority path => exact h.request_ok hcall
      | close => exact absurd List.mem_cons_self hclose
    obtain ⟨first, hf, hreq, hno⟩ := hone
    obtain ⟨more, hrun, hreqs, hnos⟩ := ih hf (fun hm => hclose (List.mem_cons_of_mem _ hm))
      fun a ha => hok a (List.mem_cons_of_mem _ ha)
    refine ⟨first ++ more, by rwa [← List.append_assoc], ?_, fun ev hev => ?_⟩
    · rw [List.flatMap_append, hreq, hreqs, List.flatMap_cons]
    · rcases List.mem_append.1 hev with hev | hev
      · exact hno ev hev
      · exact hnos ev hev

/-- **Every run** that leaves the connection in use has its history. -/
theorem exists_follows_run {timeout : Option Nat} (hopen : openOn t timeout = (.ok (), c))
    (calls : List Call) (hu : (c.run calls).phase.IsUsable) :
    ∃ es, Follows t es (c.run calls) := by
  revert hu
  refine run_induction (P := fun d => d.phase.IsUsable → ∃ es, Follows t es d) ?_ ?_ ?_ calls
    fun _ => ⟨[], follows_of_openOn hopen⟩
  · intro d method authority path extra hd hu
    obtain ⟨es, h⟩ := hd (Phase.isUsable_of_rank_le (rank_le_sendRequest d _ _ _ _) hu)
    obtain ⟨ev, h'⟩ := h.sendRequest method authority path extra hu
    exact ⟨_, h'⟩
  · intro d target hd hu
    obtain ⟨es, h⟩ := hd (Phase.isUsable_of_rank_le (rank_le_recvResponse d target) hu)
    obtain ⟨more, -, h'⟩ := h.recvResponse target hu
    exact ⟨_, h'⟩
  · intro d _ hu
    rw [phase_close] at hu
    exact hu.elim

end Connection

end Http2
