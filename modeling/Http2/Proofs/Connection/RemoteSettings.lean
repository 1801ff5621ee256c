import Http2.Proofs.Connection.Evaluation
import Http2.Proofs.Connection.Exchange

/-!
What a connection knows of the peer's settings, over whole runs. It is what all the settings that
were announced say in one payload, it is always allowed, and so the greatest payload that a request
may have is always in its range and kept to.
-/

namespace Http2

namespace Frame

variable {f : Frame}

theorem adopted_iff : f.Adopted ↔ ∃ s, f.adopted? = some s :=
  Option.isSome_iff_exists

/-- **Settings merged frame by frame** are those of all announcing payloads in one. -/
theorem decode_append_adopted {payload : Bytes} {s : Settings}
    (h : Settings.decode payload = .ok s) (fs : List Frame) :
    Settings.decode (payload ++ (fs.filter (·.Adopted)).flatMap Frame.payload) =
      .ok (fs.foldl settingsAfter s) := by
  induction fs generalizing payload s with
  | nil => simpa using h
  | cons f fs ih =>
    by_cases ha : f.Adopted
    · obtain ⟨announced, hs⟩ := adopted_iff.1 ha
      have hnext := ih (Settings.decode_append h (decode_of_adopted? hs))
      rw [List.filter_cons_of_pos (by simpa using ha), List.flatMap_cons, ← List.append_assoc,
        hnext, List.foldl_cons, settingsAfter, hs]
    · have hs : f.adopted? = none := by simpa [Adopted] using ha
      rw [List.filter_cons_of_neg (by simpa using ha), ih h, List.foldl_cons, settingsAfter, hs]

end Frame

namespace Connection

variable {t : Transport} {c d : Connection} {target : Nat} {ins outs : List Frame}

/-- What the connection, opened on `t`, knows of the peer's settings: all that was announced to it,
in order and in one payload; and it is allowed. -/
structure KnowsSettings (t : Transport) (c : Connection) : Prop where
  decoded : Settings.decode (((c.framesTaken t).filter (·.Adopted)).flatMap Frame.payload) =
    .ok c.remote
  valid : c.remote.validate = .ok ()
  limit : 16384 ≤ c.remote.maxFrameSizeInForce ∧ c.remote.maxFrameSizeInForce ≤ 16777215

theorem Exchanges.knowsSettings (h : c.Exchanges d ins outs) (he : c.toEndpoint = {})
    (ht : t.unread = c.session.transport.unread) : d.KnowsSettings t := by
  have hdecoded := Frame.decode_append_adopted Settings.decode_nil ins
  have hremote : d.remote = ins.foldl Frame.settingsAfter .empty := by
    rw [h.remote, he]
  rw [List.nil_append, ← hremote] at hdecoded
  obtain ⟨-, -, hvalid⟩ := Settings.decode_eq_ok_iff.1 hdecoded
  exact ⟨by rw [h.framesTaken_eq ht, hdecoded], Settings.validate_eq_ok_iff.2 hvalid,
    hvalid.maxFrameSizeInForce⟩

/-- A frame changes what is known exactly by what it announces, also where its acknowledgement
cannot be written. -/
theorem remote_handle (c : Connection) (target : Nat) (f : Frame) :
    (c.handle target f).2.remote = f.settingsAfter c.remote := by
  rcases hh : c.handle target f with ⟨outcome, d⟩
  rw [(receive_of_handle hh).1]
  exact Endpoint.remote_receive_eq _ target f

/-- What a call writes is a run of frames as a peer reads them, or a beginning of it, and no HEADERS
frame of it has a payload of more than `limit` bytes. -/
def WritesWithin (c : Connection) (call : Call) (limit : Nat) : Prop :=
  ∃ fs : List Frame, ∃ sent,
    (c.perform call).session.transport.written = c.session.transport.written ++ sent ∧
    sent <+: fs.flatMap Frame.encode ∧
    ∀ f ∈ fs, f.onWire = f ∧ (f.kind = .headers → f.payload.length ≤ limit)

theorem writesWithin_perform (c : Connection) (call : Call) :
    c.WritesWithin call c.remote.maxFrameSizeInForce := by
  obtain ⟨ins, h⟩ := exchanges_perform c call
  obtain ⟨sent, hw, hpre, -⟩ := h.written
  refine ⟨_, sent, hw, hpre, fun f hf => ?_⟩
  obtain ⟨hwire, hheaders⟩ := onWire_handedOver hf
  refine ⟨hwire, fun hk => ?_⟩
  obtain ⟨fields, -, ep, hp⟩ := prepared_of_mem_requestFrames (hheaders hk)
  exact hp.short

/-- **Remote settings over whole runs.** On a connection that was opened, whatever is called and
whatever the transport does, between the calls and in the rounds of a wait: what is known of the
peer's settings is what the payloads of all announcing frames that were taken in say one after
another, it is allowed, and the greatest payload in force is in its range. A frame that announces
nothing, as its payload is refused, leaves it as it is, and one that does is merged whatever
becomes of its acknowledgement. A call writes no HEADERS frame with a payload longer than the
greatest one that is in force when it goes out. -/
theorem knowsSettings_run {timeout : Option Nat} (hopen : openOn t timeout = (.ok (), c))
    (calls : List Call) :
    (c.run calls).KnowsSettings t ∧
    (∀ target mid, (c.run calls).awaitFault? target = none →
      Relation.ReflTransGen (Round target) (c.run calls) mid → mid.KnowsSettings t) ∧
    (∀ target f, ((c.run calls).handle target f).2.remote =
      match f.adopted? with
      | some announced => (c.run calls).remote.merge announced
      | none => (c.run calls).remote) ∧
    ∀ call, (c.run calls).WritesWithin call (c.run calls).remote.maxFrameSizeInForce := by
  obtain ⟨he, ht⟩ := toEndpoint_of_openOn hopen
  obtain ⟨ins, outs, hrun, -, -⟩ := exchanges_run c calls
  refine ⟨hrun.knowsSettings he ht, fun target mid hf hr => ?_, remote_handle _,
    writesWithin_perform _⟩
  obtain ⟨more, hmid, -⟩ := exchanges_rounds hr (of_awaitFault?_eq_none hf).1
  exact (hrun.trans hmid).knowsSettings he ht

/-- Two announcements, each before a response, and one that is not allowed. -/
def announcing : Transport :=
  { input := [.data [0, 0, 6, 4, 0, 0, 0, 0, 0, 0, 5, 0, 0, 0x80, 0],
      .data [0, 0, 1, 1, 5, 0, 0, 0, 1, 0x88],
      .data [0, 0, 12, 4, 0, 0, 0, 0, 0, 0, 4, 0, 0, 0, 9, 0, 5, 0, 0, 0x40, 1],
      .data [0, 0, 1, 1, 5, 0, 0, 0, 3, 0x88],
      .data [0, 0, 12, 4, 0, 0, 0, 0, 0, 0, 4, 0, 0, 0, 7, 0, 2, 0, 0, 0, 7], .eof]
    protocol := some protocolName }

def threeGets : List Call := [.get "a" "/", .get "a" "/", .get "a" "/"]

/-- The second announcement replaces a part of the first one, and nothing comes of the third. -/
theorem knowsSettings_run_threeGets :
    (openOn announcing none).1 = .ok () ∧
    ((openOn announcing none).2.run threeGets).phase = .failed ∧
    ((openOn announcing none).2.run threeGets).remote =
      { initialWindowSize := some 9, maxFrameSize := some 16385 } ∧
    Settings.decode [0, 5, 0, 0, 0x80, 0, 0, 4, 0, 0, 0, 9, 0, 5, 0, 0, 0x40, 1] =
      .ok ((openOn announcing none).2.run threeGets).remote := by
  have hopen : (openOn announcing none).1 = .ok () := by cbv
  have hrun : ((openOn announcing none).2.runWithin 3 threeGets).map (fun x => (x.2.phase,
      x.2.remote, ((x.2.framesTaken announcing).filter (·.Adopted)).flatMap Frame.payload)) =
      some (Phase.failed, { initialWindowSize := some 9, maxFrameSize := some 16385 },
        [0, 5, 0, 0, 0x80, 0, 0, 4, 0, 0, 0, 9, 0, 5, 0, 0, 0x40, 1]) := by cbv
  have hview := of_runWithin hrun
  simp only [Prod.mk.injEq] at hview
  obtain ⟨hphase, hremote, hpayloads⟩ := hview
  obtain ⟨⟨hdecoded, -, -⟩, -⟩ := knowsSettings_run (Prod.ext hopen rfl) threeGets
  rw [hpayloads] at hdecoded
  exact ⟨hopen, hphase, hremote, hdecoded⟩

end Connection

end Http2
