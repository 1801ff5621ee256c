import Http2.Proofs.Connection.Evaluation
import Http2.Proofs.Connection.Exchange
import Http2.Proofs.Stream.Registry

/-!
The numbers of streams and the streams that a connection keeps. Every request that its checks admit
takes the next odd number, and no other request takes one; so the HEADERS frames of a run carry the
odd numbers in order. A stream is kept under its own number until a request drops it, after it
ended.
-/

namespace Http2

/-! ### Requests -/

/-- The reasons for which a request is refused before anything is written. -/
def Error.RefusesRequest : Error → Prop
  | .notConnected | .field _ | .frameSize (.headerBlock ..) => True
  | _ => False

namespace Endpoint

/-- The checks of a request admit it: the endpoint takes requests, the fields are without fault and
the block is not too long for the peer. -/
def Admits (e : Endpoint) (fields : List Field) : Prop :=
  e.phase = .ready ∧ Field.validateRequest fields = .ok () ∧
    (Hpack.encode e.encoder (fields.map Field.toEntry)).1.length ≤ e.remote.maxFrameSizeInForce

instance (e : Endpoint) (fields : List Field) : Decidable (e.Admits fields) :=
  inferInstanceAs (Decidable (_ ∧ _ ∧ _))

variable {e : Endpoint} {fields : List Field}

theorem prepare_of_not_admits (h : ¬ e.Admits fields) :
    ∃ err ep, e.prepare fields = (.error err, ep) ∧ err.RefusesRequest ∧
      (ep.streams = e.streams ∨ ep.streams = e.streams.dropClosed) := by
  unfold prepare
  split
  · next hready =>
    unfold Field.compress
    cases hv : Field.validateRequest fields with
    | error err =>
      refine ⟨_, _, rfl, ?_, .inr rfl⟩
      unfold Field.validateRequest at hv
      split at hv <;> cases hv
      trivial
    | ok u =>
      have hlong : ¬ (Hpack.encode e.encoder (fields.map Field.toEntry)).1.length ≤
          e.remote.maxFrameSizeInForce := fun hle => h ⟨hready, hv, hle⟩
      simp only [if_pos (Nat.lt_of_not_le hlong)]
      exact ⟨_, _, rfl, trivial, .inr rfl⟩
  · exact ⟨_, _, rfl, trivial, .inl rfl⟩

/-- **A request that is admitted** gets the next number, as long as there is one. -/
theorem prepare_of_admits (h : e.Admits fields) (hid : e.streams.nextId ≤ maxStreamId)
    (hmax : e.remote.maxFrameSizeInForce ≤ maxPayload) :
    ∃ f ep, e.prepare fields = (.ok f, ep) ∧ f.streamId = e.streams.nextId ∧
      ep.streams = e.streams.dropClosed.created := by
  obtain ⟨hready, hvalid, hshort⟩ := h
  have hprep : (e.prepare fields).1 = Frame.make .headers requestFlags e.streams.nextId
      (Hpack.encode e.encoder (fields.map Field.toEntry)).1 := by
    simp only [prepare, hready, Field.compress, hvalid, Nat.not_lt.2 hshort,
      Stream.Registry.create, Stream.Registry.nextId_dropClosed, hid, if_true, if_false]
  have hmake : ∃ f, Frame.make .headers requestFlags e.streams.nextId
      (Hpack.encode e.encoder (fields.map Field.toEntry)).1 = .ok f := by
    rw [Frame.make, dif_pos (Nat.le_trans hshort hmax), dif_pos hid]
    exact ⟨_, rfl⟩
  obtain ⟨f, hf⟩ := hmake
  have heq : e.prepare fields = (.ok f, (e.prepare fields).2) := Prod.ext (hprep.trans hf) rfl
  have hp := prepared_of_prepare heq
  refine ⟨f, _, heq, hp.streamId, ?_⟩
  rw [hp.endpoint]
  rfl

end Endpoint

/-- A call that makes a request and waits for its response, or closes. -/
def Call.IsWhole : Call → Prop
  | .request .. | .get .. | .close => True
  | .sendRequest .. | .recvResponse _ => False

namespace Connection

variable {c d : Connection} {target : Nat}

theorem sendRequest_of_not_admits {method authority path : String} {extra : List Field}
    (h : ¬ c.Admits (Endpoint.requestFields method authority path extra)) :
    ∃ err ep, c.sendRequest method authority path extra =
        (.error err, { c with toEndpoint := ep }) ∧ err.RefusesRequest ∧
      (ep.streams = c.streams ∨ ep.streams = c.streams.dropClosed) := by
  obtain ⟨err, ep, hprep, hrefuses, hstreams⟩ := Endpoint.prepare_of_not_admits h
  refine ⟨err, ep, ?_, hrefuses, hstreams⟩
  unfold sendRequest
  rw [hprep]

theorem sendRequest_of_admits {method authority path : String} {extra : List Field}
    (h : c.Admits (Endpoint.requestFields method authority path extra))
    (hid : c.streams.nextId ≤ maxStreamId)
    (hmax : c.remote.maxFrameSizeInForce ≤ maxPayload) :
    ((∃ cause, (c.sendRequest method authority path extra).1 = .error (.io cause)) ∧
      (c.sendRequest method authority path extra).2.phase = .failed ∧
      (c.sendRequest method authority path extra).2.streams = c.streams.dropClosed.created) ∨
    ((c.sendRequest method authority path extra).1 = .ok c.streams.nextId ∧
      (c.sendRequest method authority path extra).2.phase = .ready ∧
      (c.sendRequest method authority path extra).2.streams =
        c.streams.dropClosed.created.modify c.streams.nextId Stream.sent) := by
  obtain ⟨f, ep, hprep, hf, hstreams⟩ := Endpoint.prepare_of_admits h hid hmax
  have hready : ep.phase = .ready := (Endpoint.Keeps.of_prepare hprep).phase.trans h.1
  unfold sendRequest
  rw [hprep]
  rcases hw : c.session.writeFrame f with ⟨err | u, session⟩
  · obtain ⟨⟨cause, rfl⟩, -⟩ := Session.pushed_writeFrame_of_error hw
    exact .inl ⟨⟨cause, by simp only [hw]⟩, by simp only [hw, fail],
      by simp only [hw, fail, hstreams]⟩
  · refine .inr ⟨by simp only [hw, hf], by simp only [hw, Endpoint.markSent, hready], ?_⟩
    simp only [hw, Endpoint.markSent, hstreams, hf]

/-! ### Waits -/

theorem LastRound.streams {outcome : Except Error Unit} (h : LastRound target c outcome d) :
    ∃ g : Stream → Stream, (∀ s, (g s).id = s.id) ∧ d.streams = c.streams.modify target g ∧
      (d.phase.IsUsable → ∀ s, (g s).state = .closed) := by
  cases h with
  | unread hread =>
    obtain ⟨he, -⟩ := readFrame_error hread
    rw [he]
    exact ⟨id, fun _ => rfl, (Endpoint.modify_id _ _).symm, fun hu => hu.elim⟩
  | @failed f read d e hread hh =>
    obtain ⟨g, hg, hs, hclosed⟩ := streams_of_handle hread hh
    by_cases hends : e.EndsStream
    · refine ⟨g, hg, ?_, fun _ => hclosed (.inr ⟨e, rfl, hends⟩)⟩
      rw [← hs]
      cases e <;> rfl
    · rw [afterFailure_of_not_endsStream hends]
      exact ⟨g, hg, hs, fun hu => hu.elim⟩
  | ended hread hh =>
    obtain ⟨g, hg, hs, hclosed⟩ := streams_of_handle hread hh
    exact ⟨g, hg, hs, fun _ => hclosed (.inl rfl)⟩

/-- **A wait** changes the awaited stream alone, and ends it if the connection stays in use. -/
theorem streams_recvResponse (c : Connection) (target : Nat) :
    ∃ g : Stream → Stream, (∀ s, (g s).id = s.id) ∧
      (c.recvResponse target).2.streams = c.streams.modify target g ∧
      (c.awaitFault? target = none → (c.recvResponse target).2.phase.IsUsable →
        ∀ s, (g s).state = .closed) := by
  cases hf : c.awaitFault? target with
  | some e =>
    simp only [recvResponse, hf]
    exact ⟨id, fun _ => rfl, (Endpoint.modify_id _ _).symm, fun h => by cases h⟩
  | none =>
    obtain ⟨mid, outcome, d, hr, hl, hcases⟩ := recvResponse_rounds hf
    have hrounds : ∃ g : Stream → Stream, (∀ s, (g s).id = s.id) ∧
        mid.streams = c.streams.modify target g := by
      refine rounds_induction (P := fun d => ∃ g : Stream → Stream, (∀ s, (g s).id = s.id) ∧
        d.streams = c.streams.modify target g) ?_
        ⟨id, fun _ => rfl, (Endpoint.modify_id _ _).symm⟩ hr
      rintro d d' ⟨g, hg, hd⟩ ⟨f, read, hread, hh⟩
      obtain ⟨g', hg', hd', -⟩ := streams_of_handle hread hh
      exact ⟨fun s => g' (g s), fun s => by rw [hg', hg],
        by rw [hd', hd, Stream.Registry.modify_modify _ _ _ _ hg]⟩
    obtain ⟨g, hg, hmid⟩ := hrounds
    obtain ⟨g', hg', hd, hclosed⟩ := hl.streams
    have hlast : d.streams = c.streams.modify target fun s => g' (g s) := by
      rw [hd, hmid, Stream.Registry.modify_modify _ _ _ _ hg]
    have hids (s : Stream) : (g' (g s)).id = s.id := by rw [hg', hg]
    rcases hcases with ⟨e, -, heq⟩ | ⟨-, heq⟩
    · rw [heq]
      exact ⟨_, hids, hlast, fun _ hu s => hclosed hu (g s)⟩
    · rw [heq]
      refine ⟨fun s => (g' (g s)).taken, hids, ?_, fun _ hu s => hclosed hu (g s)⟩
      change d.streams.modify target Stream.taken = _
      rw [hlast, Stream.Registry.modify_modify _ _ _ _ hids]

/-! ### Calls -/

@[simp] theorem streams_close (c : Connection) : c.close.2.streams = c.streams := by
  unfold close
  split <;> rfl

/-- What a call comes to: a request and then a wait if it goes out, or no request at all. -/
theorem perform_cases (c : Connection) (call : Call) :
    (∃ method authority path extra,
      call.fields = [Endpoint.requestFields method authority path extra] ∧
      (c.perform call = (c.sendRequest method authority path extra).2 ∨
        ∃ id, c.perform call = ((c.sendRequest method authority path extra).2.recvResponse id).2)) ∨
    (call.fields = [] ∧
      ((∃ target, c.perform call = (c.recvResponse target).2) ∨ c.perform call = c.close.2)) := by
  have whole (method authority path : String) (extra : List Field) :
      (c.request method authority path extra).2 = (c.sendRequest method authority path extra).2 ∨
      ∃ id, (c.request method authority path extra).2 =
        ((c.sendRequest method authority path extra).2.recvResponse id).2 := by
    unfold request
    rcases c.sendRequest method authority path extra with ⟨e | id, d⟩
    · exact .inl rfl
    · exact .inr ⟨id, rfl⟩
  cases call with
  | sendRequest method authority path extra =>
    exact .inl ⟨method, authority, path, extra, rfl, .inl rfl⟩
  | recvResponse target => exact .inr ⟨rfl, .inl ⟨target, rfl⟩⟩
  | request method authority path extra =>
    exact .inl ⟨method, authority, path, extra, rfl, whole method authority path extra⟩
  | get authority path =>
    exact .inl ⟨"GET", authority, path, [], rfl, whole "GET" authority path []⟩
  | close => exact .inr ⟨rfl, .inr rfl⟩

/-- What the numbers of a connection rest on: its streams have theirs, and the peer allows no block
that is too long for a frame. -/
structure InOrder (c : Connection) : Prop where
  streams : c.streams.Sound
  remote : c.remote.Valid

def admittedBy (c : Connection) (call : Call) : Nat :=
  call.fields.countP (c.Admits ·)

/-- How many requests the checks admit over calls one after another. -/
def admitted (c : Connection) : List Call → Nat
  | [] => 0
  | call :: calls => c.admittedBy call + (c.perform call).admitted calls

section InOrder

variable (h : c.InOrder)
include h

theorem InOrder.le_maxPayload : c.remote.maxFrameSizeInForce ≤ maxPayload :=
  h.remote.maxFrameSizeInForce.2

theorem InOrder.evolves_sendRequest (hid : c.streams.nextId ≤ maxStreamId)
    (method authority path : String) (extra : List Field) :
    c.streams.Evolves (c.sendRequest method authority path extra).2.streams
      ([Endpoint.requestFields method authority path extra].countP (c.Admits ·)) := by
  by_cases ha : c.Admits (Endpoint.requestFields method authority path extra)
  · have hcreated := h.streams.evolves_dropClosed.created
    rw [List.countP_cons_of_pos (by simpa using ha), List.countP_nil]
    rcases sendRequest_of_admits ha hid h.le_maxPayload with ⟨-, -, heq⟩ | ⟨-, -, heq⟩
    · rw [heq]
      exact hcreated
    · rw [heq]
      exact hcreated.modify _ fun _ => rfl
  · obtain ⟨err, ep, heq, -, hstreams⟩ := sendRequest_of_not_admits ha
    rw [List.countP_cons_of_neg (by simpa using ha), List.countP_nil, heq]
    rcases hstreams with hs | hs
    · change c.streams.Evolves ep.streams 0
      rw [hs]
      exact h.streams.evolves
    · change c.streams.Evolves ep.streams 0
      rw [hs]
      exact h.streams.evolves_dropClosed

/-- **A call** gives out one number for each request that is admitted. -/
theorem InOrder.evolves_perform (call : Call)
    (hid : call.fields ≠ [] → c.streams.nextId ≤ maxStreamId) :
    c.streams.Evolves (c.perform call).streams (c.admittedBy call) := by
  unfold admittedBy
  rcases perform_cases c call with
    ⟨method, authority, path, extra, hfields, hcall⟩ | ⟨hfields, ⟨target, hcall⟩ | hcall⟩
  · have hsend := h.evolves_sendRequest (hid (by rw [hfields]; exact nofun)) method authority path
      extra
    rw [hfields]
    rcases hcall with hcall | ⟨id, hcall⟩
    · rw [hcall]
      exact hsend
    · obtain ⟨g, hg, hs, -⟩ := streams_recvResponse
        (c.sendRequest method authority path extra).2 id
      rw [hcall, hs]
      exact hsend.modify id hg
  · obtain ⟨g, hg, hs, -⟩ := streams_recvResponse c target
    rw [hfields, hcall, hs]
    exact h.streams.evolves.modify target hg
  · rw [hfields, hcall, streams_close]
    exact h.streams.evolves

theorem InOrder.perform (call : Call) (hid : call.fields ≠ [] → c.streams.nextId ≤ maxStreamId) :
    (c.perform call).InOrder := by
  obtain ⟨ins, hcall⟩ := exchanges_perform c call
  refine ⟨(h.evolves_perform call hid).sound, ?_⟩
  rw [hcall.remote]
  exact List.foldlRecOn ins _ h.remote fun s hs f _ => Frame.valid_settingsAfter hs f

theorem InOrder.map_streamId_requestFrames (call : Call)
    (hid : call.fields ≠ [] → c.streams.nextId ≤ maxStreamId) :
    (c.requestFrames call).map Frame.streamId =
      List.range' c.streams.nextId (c.admittedBy call) 2 := by
  unfold requestFrames admittedBy
  rcases perform_cases c call with ⟨method, authority, path, extra, hfields, -⟩ | ⟨hfields, -⟩
  · have hnext := hid (by rw [hfields]; exact nofun)
    rw [hfields, filterMap_singleton, Endpoint.requestFrame?]
    by_cases ha : c.Admits (Endpoint.requestFields method authority path extra)
    · obtain ⟨f, ep, hprep, hf, -⟩ := Endpoint.prepare_of_admits ha hnext h.le_maxPayload
      rw [hprep, List.countP_cons_of_pos (by simpa using ha)]
      simp [Except.toOption, hf]
    · obtain ⟨err, ep, hprep, -⟩ := Endpoint.prepare_of_not_admits ha
      rw [hprep, List.countP_cons_of_neg (by simpa using ha)]
      rfl
  · rw [hfields]
    rfl

/-- A stream disappears only in a call that makes a request, and only after it ended. -/
theorem InOrder.closed_of_gone (call : Call)
    (hid : call.fields ≠ [] → c.streams.nextId ≤ maxStreamId) {s : Stream}
    (hs : s ∈ c.streams.streams) (hgone : s.id ∉ (c.perform call).streams.streams.map Stream.id) :
    call.fields ≠ [] ∧ s.state = .closed := by
  refine ⟨fun hfields => hgone ?_, Decidable.of_not_not fun hopen =>
    hgone ((h.evolves_perform call hid).keeps s hs hopen)⟩
  -- without a request the numbers stay as they are
  rcases perform_cases c call with
    ⟨method, authority, path, extra, hmakes, -⟩ | ⟨-, ⟨target, hcall⟩ | hcall⟩
  · rw [hmakes] at hfields
    cases hfields
  · obtain ⟨g, hg, hstreams, -⟩ := streams_recvResponse c target
    rw [hcall, hstreams, Stream.Registry.map_id_modify _ _ hg]
    exact List.mem_map_of_mem hs
  · rw [hcall, streams_close]
    exact List.mem_map_of_mem hs

end InOrder

/-! ### Runs -/

theorem admittedBy_le (c : Connection) (call : Call) : c.admittedBy call ≤ call.fields.length :=
  List.countP_le_length

/-- **Runs give out the odd numbers in order**, one for each request that is admitted. -/
theorem InOrder.run (h : c.InOrder) (calls : List Call)
    (hfew : c.streams.nextId + 2 * (calls.flatMap Call.fields).length ≤ maxStreamId) :
    (c.run calls).InOrder ∧
      (c.run calls).streams.nextId = c.streams.nextId + 2 * c.admitted calls ∧
      (c.requestFramesOf calls).map Frame.streamId =
        List.range' c.streams.nextId (c.admitted calls) 2 ∧
      c.admitted calls ≤ (calls.flatMap Call.fields).length := by
  induction calls generalizing c with
  | nil => exact ⟨h, rfl, rfl, Nat.le_refl _⟩
  | cons call calls ih =>
    rw [List.flatMap_cons, List.length_append] at hfew
    have hid : call.fields ≠ [] → c.streams.nextId ≤ maxStreamId := fun _ => by omega
    have hle := admittedBy_le c call
    have hnext := (h.evolves_perform call hid).nextId
    obtain ⟨hrun, hnext', hids, hle'⟩ := ih (h.perform call hid) (by omega)
    refine ⟨hrun, ?_, ?_, ?_⟩
    · change ((c.perform call).run calls).streams.nextId = _
      rw [hnext', hnext, admitted]
      omega
    · rw [requestFramesOf, List.map_append, h.map_streamId_requestFrames call hid, hids, hnext,
        admitted, List.range'_append]
    · rw [admitted, List.flatMap_cons, List.length_append]
      omega

/-! ### One stream at a time -/

theorem request_of_ok {method authority path : String} {extra : List Field} {id : Nat}
    (h : (c.sendRequest method authority path extra).1 = .ok id) :
    (c.request method authority path extra).2 =
      ((c.sendRequest method authority path extra).2.recvResponse id).2 := by
  unfold request
  rcases hs : c.sendRequest method authority path extra with ⟨e | id', d⟩
  · rw [hs] at h
    cases h
  · rw [hs] at h
    cases h
    rfl

theorem request_of_error {method authority path : String} {extra : List Field} {e : Error}
    (h : (c.sendRequest method authority path extra).1 = .error e) :
    (c.request method authority path extra).2 =
      (c.sendRequest method authority path extra).2 := by
  unfold request
  rcases hs : c.sendRequest method authority path extra with ⟨e' | id, d⟩
  · rfl
  · rw [hs] at h
    cases h

/-- There is one stream at most, and in a connection in use it has ended. -/
structure Lone (c : Connection) : Prop where
  length_le : c.streams.streams.length ≤ 1
  closed : c.phase.IsUsable → ∀ s ∈ c.streams.streams, s.state = .closed

theorem Lone.dropClosed (h : c.Lone) (hu : c.phase.IsUsable) :
    c.streams.dropClosed.streams = [] := by
  refine List.filter_eq_nil_iff.2 fun s hs => ?_
  simp [h.closed hu s hs]

/-- **A request with its response** leaves its stream alone there, ended or out of use. -/
theorem Lone.request (hl : c.Lone) (h : c.InOrder) (hid : c.streams.nextId ≤ maxStreamId)
    (method authority path : String) (extra : List Field) :
    (c.request method authority path extra).2.Lone := by
  by_cases ha : c.Admits (Endpoint.requestFields method authority path extra)
  · have hu : c.phase.IsUsable := by
      rw [ha.1]
      trivial
    have hnew : c.streams.dropClosed.created =
        ⟨[.new c.streams.nextId], c.streams.nextId + 2⟩ := by
      rw [Stream.Registry.created, hl.dropClosed hu]
      rfl
    rcases sendRequest_of_admits ha hid h.le_maxPayload with
      ⟨⟨cause, herr⟩, hphase, hs⟩ | ⟨hok, hphase, hs⟩
    · rw [request_of_error herr]
      rw [hnew] at hs
      exact ⟨by rw [hs]; exact Nat.le_refl 1, fun hu => by rw [hphase] at hu; exact hu.elim⟩
    · rw [request_of_ok hok]
      obtain ⟨g, hg, hwait, hclosed⟩ := streams_recvResponse
        (c.sendRequest method authority path extra).2 c.streams.nextId
      rw [hnew] at hs
      have hsingle : (c.sendRequest method authority path extra).2.streams =
          ⟨[(Stream.new c.streams.nextId).sent], c.streams.nextId + 2⟩ := by
        rw [hs]
        simp [Stream.Registry.modify, Stream.new]
      -- the request just went out, so the wait begins
      have hawait : (c.sendRequest method authority path extra).2.awaitFault?
          c.streams.nextId = none := by
        simp [Endpoint.awaitFault?, hphase, Endpoint.streamFault?, Stream.Registry.state?,
          Stream.Registry.find?, hsingle, Stream.new, Stream.sent, Stream.State.isAwaiting]
      have hafter : ((c.sendRequest method authority path extra).2.recvResponse
          c.streams.nextId).2.streams.streams = [g (Stream.new c.streams.nextId).sent] := by
        rw [hwait, hsingle]
        simp [Stream.Registry.modify, Stream.new, Stream.sent]
      refine ⟨by rw [hafter]; exact Nat.le_refl 1, fun hu s hs => ?_⟩
      rw [hafter, List.mem_singleton] at hs
      rw [hs]
      exact hclosed hawait hu _
  · obtain ⟨err, ep, heq, -, hstreams⟩ := sendRequest_of_not_admits ha
    rw [request_of_error (by rw [heq])]
    have hback (hu : (c.sendRequest method authority path extra).2.phase.IsUsable) :=
      hl.closed (Phase.isUsable_of_rank_le (rank_le_sendRequest c method authority path extra) hu)
    rw [heq] at hback ⊢
    rcases hstreams with hs | hs
    · exact ⟨hs ▸ hl.length_le, fun hu s hm => hback hu s (hs ▸ hm)⟩
    · refine ⟨?_, fun hu s hm => ?_⟩
      · change ep.streams.streams.length ≤ 1
        rw [hs]
        exact Nat.le_trans (List.length_filter_le _ _) hl.length_le
      · change s ∈ ep.streams.streams at hm
        rw [hs] at hm
        exact hback hu s (List.mem_filter.1 hm).1

theorem Lone.run (hl : c.Lone) (h : c.InOrder) {calls : List Call}
    (hwhole : ∀ call ∈ calls, call.IsWhole)
    (hfew : c.streams.nextId + 2 * (calls.flatMap Call.fields).length ≤ maxStreamId) :
    (c.run calls).Lone := by
  induction calls generalizing c with
  | nil => exact hl
  | cons call calls ih =>
    rw [List.flatMap_cons, List.length_append] at hfew
    have hid : c.streams.nextId ≤ maxStreamId := by omega
    have hle := admittedBy_le c call
    have hnext := (h.evolves_perform call fun _ => hid).nextId
    have hcall : (c.perform call).Lone := by
      cases call with
      | sendRequest | recvResponse => exact (hwhole _ List.mem_cons_self).elim
      | request method authority path extra => exact hl.request h hid method authority path extra
      | get authority path => exact hl.request h hid "GET" authority path []
      | close =>
        refine ⟨?_, fun hu => ?_⟩
        · change c.close.2.streams.streams.length ≤ 1
          rw [streams_close]
          exact hl.length_le
        · change c.close.2.phase.IsUsable at hu
          rw [phase_close] at hu
          exact hu.elim
    exact ih hcall (h.perform call fun _ => hid)
      (fun call' hm => hwhole call' (List.mem_cons_of_mem _ hm)) (by omega)

/-! ### The numbers of a run -/

theorem inOrder_of_openOn {t : Transport} {timeout : Option Nat}
    (hopen : openOn t timeout = (.ok (), c)) : c.InOrder := by
  obtain ⟨he, -⟩ := toEndpoint_of_openOn hopen
  constructor
  · rw [he]
    exact Stream.Registry.sound_empty
  · rw [he]
    exact Settings.valid_empty

theorem InOrder.of_sendRequest_error (h : c.InOrder) (hid : c.streams.nextId ≤ maxStreamId)
    {method authority path : String} {extra : List Field} {e : Error}
    (herr : (c.sendRequest method authority path extra).1 = .error e) :
    (∃ cause, e = .io cause) ∨ e.RefusesRequest ∧
      (c.sendRequest method authority path extra).2.session = c.session ∧
      (c.sendRequest method authority path extra).2.streams.nextId = c.streams.nextId := by
  by_cases ha : c.Admits (Endpoint.requestFields method authority path extra)
  · rcases sendRequest_of_admits ha hid h.le_maxPayload with ⟨⟨cause, hio⟩, -⟩ | ⟨hok, -⟩
    · rw [hio] at herr
      cases herr
      exact .inl ⟨cause, rfl⟩
    · rw [hok] at herr
      cases herr
  · obtain ⟨err, ep, heq, hrefuses, hstreams⟩ := sendRequest_of_not_admits ha
    rw [heq] at herr ⊢
    cases herr
    refine .inr ⟨hrefuses, rfl, ?_⟩
    change ep.streams.nextId = _
    rcases hstreams with hs | hs
    · rw [hs]
    · rw [hs]
      rfl

theorem InOrder.find?_of_prepare (h : c.InOrder) {fields : List Field} {f : Frame} {ep : Endpoint}
    (hprep : c.prepare fields = (.ok f, ep)) :
    ep.streams.find? f.streamId = some (.new f.streamId) := by
  have hp := Endpoint.prepared_of_prepare hprep
  have hmem : Stream.new c.streams.nextId ∈ c.streams.dropClosed.created.streams :=
    List.mem_append_right _ List.mem_cons_self
  have hfind := h.streams.dropClosed.created.find?_eq_some hmem
  rw [hp.streamId, hp.endpoint]
  exact hfind

/-- **Stream numbers and streams of a run.** On a connection that was opened, over fewer than
`2 ^ 30` requests with waits and closings between them in any order and on any transport: the next
number is one more than twice the number of requests that the checks admitted, and the HEADERS
frames that were handed to the transport are those of the requests and carry the odd numbers in
order. A request that fails was refused by its checks, took no number and wrote nothing, or its
frame could not be written; and one that goes out finds its stream new, so that sending is no
fault. Every stream is found under its own number, which is odd and was given out. A stream
disappears only in a call that makes a request, and only after it ended. Where every request is
waited for at once there is never more than one stream between calls. -/
theorem streamIds_run {t : Transport} {timeout : Option Nat}
    (hopen : openOn t timeout = (.ok (), c)) (calls : List Call)
    (hfew : (calls.flatMap Call.fields).length < 2 ^ 30) :
    (c.run calls).streams.nextId = 1 + 2 * c.admitted calls ∧
    (∃ ins outs, c.Exchanges (c.run calls) ins outs ∧ (∀ f ∈ outs, f.onWire = f) ∧
      outs.filter (·.kind = .headers) = c.requestFramesOf calls ∧
      (c.requestFramesOf calls).map Frame.streamId = List.range' 1 (c.admitted calls) 2) ∧
    (∀ method authority path extra e,
      ((c.run calls).sendRequest method authority path extra).1 = .error e →
        (∃ cause, e = .io cause) ∨ e.RefusesRequest ∧
          ((c.run calls).sendRequest method authority path extra).2.session =
            (c.run calls).session ∧
          ((c.run calls).sendRequest method authority path extra).2.streams.nextId =
            (c.run calls).streams.nextId) ∧
    (∀ fields f ep, (c.run calls).prepare fields = (.ok f, ep) →
      ∃ s, ep.streams.find? f.streamId = some s ∧ s.sendHeaders = .ok s.sent) ∧
    (∀ s ∈ (c.run calls).streams.streams, (c.run calls).streams.find? s.id = some s ∧
      s.id % 2 = 1 ∧ s.id < (c.run calls).streams.nextId) ∧
    (∀ call, ∀ s ∈ (c.run calls).streams.streams,
      s.id ∉ ((c.run calls).perform call).streams.streams.map Stream.id →
        call.fields ≠ [] ∧ s.state = .closed) ∧
    ((∀ call ∈ calls, call.IsWhole) → (c.run calls).streams.streams.length ≤ 1) := by
  have h := inOrder_of_openOn hopen
  have hfirst : c.streams.nextId = 1 := by
    rw [(toEndpoint_of_openOn hopen).1]
    rfl
  have hroom : c.streams.nextId + 2 * (calls.flatMap Call.fields).length ≤ maxStreamId := by
    rw [hfirst, maxStreamId]
    omega
  obtain ⟨hrun, hnext, hids, hle⟩ := h.run calls hroom
  have hid : (c.run calls).streams.nextId ≤ maxStreamId := by omega
  obtain ⟨ins, outs, hexchange, hwire, hheaders⟩ := exchanges_run c calls
  rw [hfirst] at hnext hids
  refine ⟨hnext, ⟨ins, outs, hexchange, hwire, hheaders, hids⟩,
    fun method authority path extra e herr => hrun.of_sendRequest_error hid herr,
    fun fields f ep hprep => ⟨_, hrun.find?_of_prepare hprep, rfl⟩,
    fun s hs => ⟨hrun.streams.find?_eq_some hs, hrun.streams.odd s hs, hrun.streams.below s hs⟩,
    fun call s hs hgone => hrun.closed_of_gone call (fun _ => hid) hs hgone, fun hwhole => ?_⟩
  have hlone : c.Lone := by
    constructor
    · rw [(toEndpoint_of_openOn hopen).1]
      exact Nat.zero_le _
    · rw [(toEndpoint_of_openOn hopen).1]
      exact fun _ => List.forall_mem_nil _
  exact (hlone.run h hwhole hroom).length_le

def answering : Transport :=
  { input := [.data [0, 0, 1, 1, 5, 0, 0, 0, 1, 0x88],
      .data [0, 0, 1, 1, 5, 0, 0, 0, 3, 0x88], .eof]
    protocol := some protocolName }

/-- The second request is refused for the name of its field. -/
def refusedBetween : List Call :=
  [.get "a" "/", .sendRequest "GET" "a" "/" [("X", "v")], .sendRequest "GET" "a" "/" [],
    .recvResponse 3]

/-- The refused request takes no number, and the stream that ended before it is gone. -/
theorem streamIds_run_refusedBetween :
    (openOn answering none).1 = .ok () ∧ (refusedBetween.flatMap Call.fields).length < 2 ^ 30 ∧
    (openOn answering none).2.admitted refusedBetween = 2 ∧
    ((openOn answering none).2.requestFramesOf refusedBetween).map Frame.streamId = [1, 3] ∧
    ((openOn answering none).2.run refusedBetween).streams.streams.map (fun s => (s.id, s.state)) =
      [(3, .closed)] := by
  have hopen : (openOn answering none).1 = .ok () := by cbv
  have hopened : openOn answering none = (.ok (), (openOn answering none).2) := Prod.ext hopen rfl
  have hfew : (refusedBetween.flatMap Call.fields).length < 2 ^ 30 := by decide
  have hrun : ((openOn answering none).2.runWithin 2 refusedBetween).map (fun x =>
      (x.2.streams.nextId, x.2.streams.streams.map fun s => (s.id, s.state))) =
      some (5, [(3, Stream.State.closed)]) := by cbv
  have hview := of_runWithin hrun
  simp only [Prod.mk.injEq] at hview
  obtain ⟨hfive, hstreams⟩ := hview
  obtain ⟨hnext, ⟨-, -, -, -, -, hids⟩, -⟩ := streamIds_run hopened refusedBetween hfew
  have htwo : (openOn answering none).2.admitted refusedBetween = 2 := by omega
  rw [htwo] at hids
  exact ⟨hopen, hfew, htwo, hids, hstreams⟩

end Connection

end Http2
