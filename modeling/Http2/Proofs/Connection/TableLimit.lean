import Http2.Proofs.Connection.Evaluation
import Http2.Proofs.Connection.History
import Http2.Proofs.Connection.RequestBlocks
import Http2.Proofs.Settings.Validity

/-!
The limit that a peer sets for its table of header fields. The connection merges and acknowledges
it, and the encoder takes no notice: its table keeps to the size of the beginning. So a peer that
keeps its table to the limit reads all requests as long as the limit is never below that size, and
below it there are requests that the peer does not read.
-/

namespace Http2

/-! ### The peer -/

def Frame.announces? (f : Frame) : Option Settings :=
  if f.kind = .settings ∧ f.flags.ack = false then (Settings.decode f.payload).toOption else none

/-- A peer that reads requests with a table that it keeps to the limit in force. -/
structure Reader where
  table : Hpack.Table := .initial
  acked : Settings := {}
  /-- What it announced and was not acknowledged yet, the oldest first. -/
  announced : List Settings

namespace Reader

def limit (r : Reader) : Nat := r.acked.headerTableSizeInForce

/-- The oldest announcement comes into force, and the table is cut down to its limit. -/
def acknowledge (r : Reader) : Reader :=
  match r.announced with
  | [] => r
  | s :: rest =>
    { table := r.table.resize (r.acked.merge s).headerTableSizeInForce
      acked := r.acked.merge s
      announced := rest }

/-- Takes a frame in, and gives what it reads of a header block. -/
def take (r : Reader) (f : Frame) :
    Option (Except Hpack.Fault (List Hpack.Entry)) × Reader :=
  match f.kind with
  | .headers =>
    (some (Hpack.decode r.table f.payload).1,
      { r with table := (Hpack.decode r.table f.payload).2.resize r.limit })
  | .settings => (none, if f.flags.ack then r.acknowledge else r)
  | _ => (none, r)

/-- Takes frames in, and gives what it reads of all header blocks. -/
def read (r : Reader) : List Frame → List (Except Hpack.Fault (List Hpack.Entry)) × Reader
  | [] => ([], r)
  | f :: fs => ((r.take f).1.toList ++ ((r.take f).2.read fs).1, ((r.take f).2.read fs).2)

theorem read_append (r : Reader) (fs gs : List Frame) :
    r.read (fs ++ gs) = ((r.read fs).1 ++ ((r.read fs).2.read gs).1, ((r.read fs).2.read gs).2) := by
  induction fs generalizing r with
  | nil => rfl
  | cons f fs ih => simp [read, ih]

end Reader

namespace Connection

/-- What the peer announced to the connection, opened on `t`, that took it in. -/
def announced (t : Transport) (c : Connection) : List Settings :=
  (c.framesTaken t).filterMap Frame.announces?

/-- What the peer reads of the frames that the connection, opened on `t`, wrote. -/
def readByPeer (t : Transport) (c : Connection) :
    List (Except Hpack.Fault (List Hpack.Entry)) × Reader :=
  Reader.read { announced := c.announced t } (c.framesSent t)

/-- The peer reads exactly these requests. -/
def ReadsBack (t : Transport) (c : Connection) (requests : List (List Field)) : Prop :=
  (c.readByPeer t).1 = requests.map fun fs => .ok (fs.map Field.toEntry)

end Connection

/-! ### Settings -/

namespace Settings

theorem le_headerTableSizeInForce_merge {s later : Settings} {n : Nat}
    (hs : n ≤ s.headerTableSizeInForce) (hl : n ≤ later.headerTableSizeInForce) :
    n ≤ (s.merge later).headerTableSizeInForce := by
  have hget : (s.merge later).headerTableSize = later.headerTableSize.or s.headerTableSize :=
    get_merge s later .headerTableSize
  unfold headerTableSizeInForce at hs hl ⊢
  rw [hget]
  cases h : later.headerTableSize with
  | none => simpa using hs
  | some v => simpa [h] using hl

/-- The greatest payload in force is one that a peer may ask for. -/
def InRange (s : Settings) : Prop :=
  Connection.payloadLimit ≤ s.maxFrameSizeInForce ∧ s.maxFrameSizeInForce ≤ maxPayload

theorem inRange_of_decode {payload : Bytes} {s : Settings} (h : decode payload = .ok s) :
    s.InRange := by
  obtain ⟨-, -, hvalid⟩ := decode_eq_ok_iff.1 h
  exact hvalid.maxFrameSizeInForce

theorem InRange.merge {s later : Settings} (hs : s.InRange) (hl : later.InRange) :
    (s.merge later).InRange := by
  have hget : (s.merge later).maxFrameSize = later.maxFrameSize.or s.maxFrameSize :=
    get_merge s later .maxFrameSize
  unfold InRange maxFrameSizeInForce at hs hl ⊢
  rw [hget]
  cases h : later.maxFrameSize with
  | none => simpa using hs
  | some v => simpa [h] using hl

end Settings

namespace Endpoint

variable {e ep : Endpoint} {target : Nat} {f : Frame}

theorem decode_of_announces? {s : Settings} (h : f.announces? = some s) :
    Settings.decode f.payload = .ok s := by
  unfold Frame.announces? at h
  split at h
  · exact Settings.decode_of_toOption h
  · cases h

/-- **What the peer announces** is merged and acknowledged at once, and no other frame changes it. -/
theorem remote_receive
    (stands : ∀ err, (e.receive target f).outcome = .error err → err.EndsStream) :
    (∃ s, f.announces? = some s ∧ (e.receive target f).endpoint.remote = e.remote.merge s ∧
        (e.receive target f).reply = some .settingsAck) ∨
      (f.announces? = none ∧ (e.receive target f).endpoint.remote = e.remote ∧
        ∀ g, (e.receive target f).reply = some g → ∃ p : Frame.Ping, g = p.reply) := by
  by_cases hk : f.kind = .settings
  · have hr : e.receive target f = e.onSettings f := by simp only [receive, hk]
    rw [hr] at stands ⊢
    unfold onSettings at stands ⊢
    by_cases hz : f.streamId = 0
    · cases hack : f.flags.ack with
      | true =>
        have hnone : f.announces? = none := by simp [Frame.announces?, hack]
        by_cases hp : f.payload = []
        · simp only [hz, hp, if_true]
          exact .inr ⟨hnone, rfl, fun g hg => by cases hg⟩
        · simp only [hz, hack, hp, if_true, if_false] at stands
          exact (stands _ rfl).elim
      | false =>
        simp only [hz, hack, if_true, Bool.false_eq_true, if_false] at stands ⊢
        cases hd : Settings.decode f.payload with
        | error err =>
          simp only [hd] at stands
          exact absurd (stands err rfl) (Settings.isBreach_of_decode hd).not_endsStream
        | ok s =>
          refine .inl ⟨s, ?_, rfl, rfl⟩
          simp [Frame.announces?, hk, hack, hd, Except.toOption]
    · simp only [hz, if_false] at stands
      exact (stands _ rfl).elim
  · have heff := effect_receive e target f
    refine .inr ⟨by simp [Frame.announces?, hk], heff.remote hk, fun g hg => ?_⟩
    exact (heff.reply_cases hg).resolve_left fun h => hk h.2

/-! ### Histories -/

theorem Trace.kept {es : List Event} (h : Trace es e) : e.encoder.Kept ∧ e.remote.InRange := by
  induction h with
  | opened => exact ⟨Hpack.Table.kept_initial, by unfold Settings.InRange; decide⟩
  | sent _ prepared ih | refused _ prepared ih =>
    have hp := Keeps.of_prepare prepared
    refine ⟨?_, hp.remote ▸ ih.2⟩
    rcases hp.encoder with henc | ⟨hv, henc⟩
    · exact henc ▸ ih.1
    · exact henc ▸ ih.1.encode (Field.regular_of_validateRequest hv)
  | @came es e target f _ stands ih =>
    refine ⟨?_, ?_⟩
    · rw [(effect_receive (e.noteFrame target) target f).encoder]
      exact ih.1
    · rcases remote_receive stands with ⟨s, hs, hr, -⟩ | ⟨-, hr, -⟩
      · rw [hr]
        exact ih.2.merge (Settings.inRange_of_decode (decode_of_announces? hs))
      · rw [hr]
        exact ih.2
  | taken _ target ih => exact ih

def announcements (es : List Event) : List Settings :=
  (es.flatMap Event.incoming).filterMap Frame.announces?

theorem announcements_concat (es : List Event) (ev : Event) :
    announcements (es ++ [ev]) = announcements es ++ ev.incoming.filterMap Frame.announces? := by
  simp [announcements]

/-- The peer reads `read` of a history's requests and is left with `table`, whatever else it has
announced. -/
structure ReadBy (es : List Event) (e : Endpoint)
    (read : List (Except Hpack.Fault (List Hpack.Entry))) (table : Hpack.Table) : Prop where
  eq : ∀ more, Reader.read { announced := announcements es ++ more }
    (es.flatMap Event.outgoing) = (read, ⟨table, e.remote, more⟩)
  limit : table.limit = e.remote.headerTableSizeInForce
  size_le : table.size ≤ table.limit

section ReadBy

variable {es : List Event} {read : List (Except Hpack.Fault (List Hpack.Entry))}
  {table : Hpack.Table} {fields : List Field}

theorem readBy_nil : ReadBy [] {} [] .initial :=
  ⟨fun _ => rfl, rfl, by decide⟩

/-- One more event goes on from the table that the peer was left with. -/
theorem ReadBy.concat (h : ReadBy es e read table) {ev : Event}
    {read' : List (Except Hpack.Fault (List Hpack.Entry))} {table' : Hpack.Table}
    (heq : ∀ more, Reader.read ⟨table, e.remote, ev.incoming.filterMap Frame.announces? ++ more⟩
      ev.outgoing = (read', ⟨table', ep.remote, more⟩))
    (hlimit : table'.limit = ep.remote.headerTableSizeInForce)
    (hsize : table'.size ≤ table'.limit) : ReadBy (es ++ [ev]) ep (read ++ read') table' := by
  refine ⟨fun more => ?_, hlimit, hsize⟩
  rw [announcements_concat, List.append_assoc, List.flatMap_append, Reader.read_append, h.eq]
  simp [heq]

theorem ReadBy.sent (h : ReadBy es e read table) (hp : Prepared e fields f ep) :
    ReadBy (es ++ [.sent fields f]) (ep.markSent f.streamId)
      (read ++ [(Hpack.decode table f.payload).1])
      ((Hpack.decode table f.payload).2.resize e.remote.headerTableSizeInForce) := by
  have hremote := hp.remote_markSent f.streamId
  refine h.concat (fun more => ?_) (by rw [hremote]; rfl) (Hpack.Table.size_resize_le _ _)
  simp [Event.incoming, Event.outgoing, Reader.read, Reader.take, hp.kind, Reader.limit, hremote]

theorem ReadBy.refused (h : ReadBy es e read table) {cause : Error}
    (hprep : e.prepare fields = (.error cause, ep)) :
    ReadBy (es ++ [.refused fields cause]) ep read table := by
  have hremote := (Keeps.of_prepare hprep).remote
  rw [← List.append_nil read]
  exact h.concat (fun more => by rw [hremote]; rfl) (hremote ▸ h.limit) h.size_le

/-- A frame that comes in cuts the table down to the limit that is then in force. -/
theorem ReadBy.came (h : ReadBy es e read table)
    (stands : ∀ err, ((e.noteFrame target).receive target f).outcome = .error err →
      err.EndsStream) :
    ReadBy (es ++ [.came target f ((e.noteFrame target).receive target f).reply])
      ((e.noteFrame target).receive target f).endpoint read
      (table.resize
        ((e.noteFrame target).receive target f).endpoint.remote.headerTableSizeInForce) := by
  rw [← List.append_nil read]
  refine h.concat (fun more => ?_) rfl (Hpack.Table.size_resize_le _ _)
  rcases remote_receive stands with ⟨s, hs, hremote, hreply⟩ | ⟨hs, hremote, hreply⟩
  · rw [hremote, hreply]
    simp only [Event.incoming, Event.outgoing, List.filterMap_cons, hs]
    rfl
  · have hresize : table.resize e.remote.headerTableSizeInForce = table := by
      rw [← h.limit, Hpack.Table.resize_limit h.size_le]
    rw [hremote, show (e.noteFrame target).remote = e.remote from rfl, hresize]
    simp only [Event.incoming, Event.outgoing, List.filterMap_cons, hs]
    cases hr : ((e.noteFrame target).receive target f).reply with
    | none => rfl
    | some g =>
      obtain ⟨p, rfl⟩ := hreply g hr
      rfl

/-- **Every history is read in some way**, with a table that keeps to the limit in force. -/
theorem Trace.exists_readBy (h : Trace es e) : ∃ read table, ReadBy es e read table := by
  induction h with
  | opened => exact ⟨_, _, readBy_nil⟩
  | sent _ prepared ih =>
    obtain ⟨read, table, ih⟩ := ih
    exact ⟨_, _, ih.sent (prepared_of_prepare prepared)⟩
  | refused _ prepared ih =>
    obtain ⟨read, table, ih⟩ := ih
    exact ⟨_, _, ih.refused prepared⟩
  | came _ stands ih =>
    obtain ⟨read, table, ih⟩ := ih
    exact ⟨_, _, ih.came stands⟩
  | taken _ target ih =>
    obtain ⟨read, table, ih⟩ := ih
    exact ⟨read, table, ih.eq, ih.limit, ih.size_le⟩

/-- **Where no limit is below the size of the beginning**, every request is read exactly. -/
theorem Trace.readBy_of_limits (h : Trace es e) (hsent : ∀ ev ∈ es, ¬ ev.IsRefusal)
    (hlimits : ∀ s ∈ announcements es, 4096 ≤ s.headerTableSizeInForce) :
    ∃ table, e.encoder.Within table ∧
      ReadBy es e ((es.flatMap Event.request).map fun fs => .ok (fs.map Field.toEntry)) table := by
  induction h with
  | opened => exact ⟨_, .refl _, readBy_nil⟩
  | @sent es e ep fields f before prepared ih =>
    obtain ⟨table, hwithin, hread⟩ := ih (fun ev hev => hsent ev (List.mem_append_left _ hev))
      fun s hs => hlimits s (by rw [announcements_concat]; exact List.mem_append_left _ hs)
    have hp := prepared_of_prepare prepared
    have hkept := before.kept.1.encode (Field.regular_of_validateRequest hp.valid)
    have hlen : (Hpack.encode e.encoder (fields.map Field.toEntry)).1.length < 128 ^ 4 := by
      rw [← hp.payload]
      exact Nat.lt_of_le_of_lt f.payload_le (by decide)
    obtain ⟨table', hdec, hwithin'⟩ :=
      Hpack.decode_encode hwithin before.kept.1.toBounded hlen
    have hnext := hread.sent hp
    rw [hp.payload, hdec, ← hread.limit] at hnext
    refine ⟨_, ?_, by simpa [Event.request] using hnext⟩
    rw [hp.encoder_markSent]
    refine hwithin'.resize (hkept.limit ▸ hkept.size_le) ?_
    rw [hkept.limit, ← before.kept.1.limit]
    exact hwithin.limit
  | refused => exact absurd trivial (hsent _ (List.mem_append_right _ List.mem_cons_self))
  | @came es e target f before stands ih =>
    obtain ⟨table, hwithin, hread⟩ := ih (fun ev hev => hsent ev (List.mem_append_left _ hev))
      fun s hs => hlimits s (by rw [announcements_concat]; exact List.mem_append_left _ hs)
    have hkept := before.kept.1
    refine ⟨_, ?_, by simpa [Event.request] using hread.came stands⟩
    rw [(effect_receive (e.noteFrame target) target f).encoder]
    refine hwithin.resize (hkept.limit ▸ hkept.size_le) ?_
    -- what the frame announces, if anything, is no less than the limit of the encoder
    have hold : 4096 ≤ e.remote.headerTableSizeInForce := by
      rw [← hread.limit, ← hkept.limit]
      exact hwithin.limit
    change e.encoder.limit ≤ _
    rw [hkept.limit]
    rcases remote_receive stands with ⟨s, hs, hremote, -⟩ | ⟨-, hremote, -⟩
    · rw [hremote]
      refine Settings.le_headerTableSizeInForce_merge hold (hlimits s ?_)
      rw [announcements_concat]
      exact List.mem_append_right _ (by simp [Event.incoming, hs])
    · rw [hremote]
      exact hold
  | taken before target ih =>
    obtain ⟨table, hwithin, hread⟩ := ih hsent hlimits
    exact ⟨table, hwithin, hread.eq, hread.limit, hread.size_le⟩

end ReadBy

end Endpoint

/-! ### A field that fills the table -/

@[irreducible] def letters (n : Nat) : String := String.ofList (List.replicate n 'x')

theorem toList_letters (n : Nat) : (letters n).toList = List.replicate n 'x' := by
  rw [letters, String.toList_ofList]

theorem length_encode_letters (n : Nat) : (Text.Utf8.encode (letters n)).length = n := by
  simp [Text.Utf8.encode, toList_letters, List.length_flatMap, String.utf8EncodeChar]

theorem regular_letters {n : Nat} (h : 2 < n) : Field.Regular (letters n, "") := by
  have hne {s : String} (hs : s.toList.head? ≠ some 'x') : letters n ≠ s := by
    rintro rfl
    rw [toList_letters, List.head?_replicate, if_neg (by omega)] at hs
    exact hs rfl
  have hpseudo : Field.isPseudoName (letters n) = false := by
    rw [Field.isPseudoName, toList_letters, List.head?_replicate, if_neg (by omega)]
    rfl
  have hupper : Text.hasAsciiUpper (letters n) = false := by
    rw [Text.hasAsciiUpper, toList_letters, List.any_replicate, if_neg (by omega)]
    rfl
  have hconnection : letters n ∉ Field.connectionNames := by
    have hhead : ∀ s ∈ Field.connectionNames, s.toList.head? ≠ some 'x' := by decide +kernel
    exact fun hin => hne (hhead _ hin) rfl
  have hte : Text.sameIgnoringCase (letters n) "te" = false := by
    have hlen : (Text.asciiLower (letters n)).toList.length = n := by
      rw [Text.asciiLower, String.toList_map, List.length_map, toList_letters,
        List.length_replicate]
    have htwo : (Text.asciiLower "te").toList.length = 2 := by decide +kernel
    refine beq_eq_false_iff_ne.2 fun heq => ?_
    rw [heq, htwo] at hlen
    omega
  refine ⟨hne (by decide +kernel), hpseudo, ?_⟩
  simp [Field.regularFault?, hupper, hconnection, hte]

/-- After a request with a field of a long name it is the only entry of the table, and the block is
short. -/
theorem encode_rootWith_of_long {t : Hpack.Table} (h : t.Bounded) {f : Field}
    (hname : f.toEntry.name.length = 4064) (hvalue : f.toEntry.value = []) :
    (Hpack.encode t (Connection.rootWith [f]).entries).2.entries = [f.toEntry] ∧
      (Hpack.encode t (Connection.rootWith [f]).entries).1.length ≤ Connection.payloadLimit := by
  have hsize : f.toEntry.size = 4096 := by rw [Hpack.Entry.size, hname, hvalue]; rfl
  have hstatic : ∀ x ∈ Hpack.staticEntries, x.name ≠ f.toEntry.name := by
    have hshort : ∀ x ∈ Hpack.staticEntries, x.name.length < 4064 := by decide +kernel
    intro x hx heq
    have := hshort x hx
    rw [heq, hname] at this
    omega
  have hbase : ∀ e ∈ (Connection.rootWith []).entries, e ∈ t.all := fun e he =>
    List.mem_append_left _ (Connection.static_of_rootWith e he)
  have hlen := Hpack.length_encode_of_known h hbase
  have hlast := Hpack.length_encodeField_le h (e := f.toEntry) (by omega) (by simp [hvalue])
  obtain ⟨places, -, henc⟩ := Hpack.encode_of_known hbase
  have hfour : (Connection.rootWith []).entries.length = 4 := rfl
  have hsplit : (Connection.rootWith [f]).entries =
      (Connection.rootWith []).entries ++ [f.toEntry] := rfl
  rw [hsplit, Hpack.encode_append]
  rw [henc] at hlen ⊢
  constructor
  · exact Hpack.entries_encodeField_of_full h hsize hvalue hstatic
  · simp only [Hpack.encode, List.append_nil, List.length_append, Connection.payloadLimit]
    rw [hname, hvalue, List.length_nil] at hlast
    simp only at hlen
    omega

/-! ### Runs -/

def Request.call (r : Request) : Call := .sendRequest r.method r.authority r.path r.extra

namespace Connection

variable {t : Transport} {es : List Event} {c : Connection}
  {read : List (Except Hpack.Fault (List Hpack.Entry))} {table : Hpack.Table}

theorem Follows.announced_eq (h : Follows t es c) : c.announced t = Endpoint.announcements es := by
  rw [announced, h.framesTaken_eq, Endpoint.announcements]

theorem Follows.readByPeer_eq (h : Follows t es c)
    (hread : Endpoint.ReadBy es c.toEndpoint read table) :
    c.readByPeer t = (read, ⟨table, c.remote, []⟩) := by
  have heq := hread.eq []
  rw [List.append_nil] at heq
  rw [readByPeer, h.framesSent_eq, h.announced_eq]
  exact heq

theorem exists_send_eq_ok {limit : Nat} (h : c.Sending limit) (hmax : limit ≤ maxPayload)
    (hid : c.streams.nextId ≤ maxStreamId) {r : Request}
    (hvalid : Field.validateRequest r.fields = .ok ())
    (hshort : (Hpack.encode c.encoder r.entries).1.length ≤ limit) :
    ∃ id, (c.send r).1 = .ok id := by
  obtain ⟨hsent, -⟩ := sent_send h hmax hid r
  generalize (c.send r).1 = outcome at hsent ⊢
  cases hsent with
  | invalid fault refused =>
    rw [hvalid] at refused
    cases refused
  | tooLong long => omega
  | out f => exact ⟨_, rfl⟩

/-- A request that goes out is one more event, and the peer goes on to its block. -/
theorem Follows.send_ok (h : Follows t es c) (hread : Endpoint.ReadBy es c.toEndpoint read table)
    {r : Request} {id : Nat} (hok : (c.send r).1 = .ok id) :
    ∃ f, Follows t (es ++ [.sent r.fields f]) (c.send r).2 ∧
      (c.send r).2.encoder = (Hpack.encode c.encoder r.entries).2 ∧
      Endpoint.ReadBy (es ++ [.sent r.fields f]) (c.send r).2.toEndpoint
        (read ++ [(Hpack.decode table (Hpack.encode c.encoder r.entries).1).1])
        ((Hpack.decode table (Hpack.encode c.encoder r.entries).1).2.resize
          c.remote.headerTableSizeInForce) := by
  obtain ⟨f, ep, hprep, hep, hfol⟩ := h.sendRequest_ok hok
  have hp : c.toEndpoint.Prepared r.fields f ep := Endpoint.prepared_of_prepare hprep
  have hep : (c.send r).2.toEndpoint = ep.markSent f.streamId := hep
  have hpayload : f.payload = (Hpack.encode c.encoder r.entries).1 := hp.payload
  refine ⟨f, hfol, ?_, ?_⟩
  · rw [hep]
    exact hp.encoder_markSent f.streamId
  · rw [hep, ← hpayload]
    exact hread.sent hp

/-- **Below the size of the beginning** two more requests can go out that the peer does not read:
the first one leaves an entry in the encoder's table for which the peer has no room, and the
second one names it. -/
theorem Follows.exists_unread (h : Follows t es c) (hready : c.phase = .ready)
    (hacc : c.session.Accepts) (hids : c.streams.nextId + 2 ≤ maxStreamId)
    (hlow : c.remote.headerTableSizeInForce < 4096) (requests : List (List Field)) :
    ∃ r r' : Request, (∀ a ∈ c.answers [r.call, r'.call], a.isOk = true) ∧
      ¬ (c.run [r.call, r'.call]).ReadsBack t (requests ++ [r.fields, r'.fields]) := by
  obtain ⟨hkept, hmin, hmax⟩ := h.trace.kept
  have hs : c.Sending c.remote.maxFrameSizeInForce := ⟨hready, hacc, rfl, hkept⟩
  obtain ⟨long, hreg, hname, hvalue⟩ : ∃ f : Field, f.Regular ∧ f.toEntry.name.length = 4064 ∧
      f.toEntry.value = [] :=
    ⟨(letters 4064, ""), regular_letters (by decide), length_encode_letters 4064, rfl⟩
  obtain ⟨hfull, hfits⟩ := encode_rootWith_of_long hkept.toBounded hname hvalue
  have hvalid : Field.validateRequest (rootWith [long]).fields = .ok () := by
    refine Field.validateRequest_requestFields _ _ _ fun f hf => ?_
    rw [List.mem_singleton.1 hf]
    exact hreg
  generalize rootWith [long] = r at hfull hfits hvalid
  obtain ⟨id, hok⟩ := exists_send_eq_ok hs hmax (by omega) hvalid (Nat.le_trans hfits hmin)
  obtain ⟨-, hs'⟩ := sent_send hs hmax (by omega) r
  have hid := nextId_send c r
  obtain ⟨r', hvalid', hknown, hall, hshort⟩ := exists_telling hs' hmin
  obtain ⟨id', hok'⟩ := exists_send_eq_ok hs' hmax (by omega) hvalid' hshort
  refine ⟨r, r', ?_, fun hback => ?_⟩
  · simp only [answers, List.mem_cons, List.not_mem_nil, or_false]
    rintro a (rfl | rfl)
    · exact congrArg Except.isOk hok
    · exact congrArg Except.isOk hok'
  · obtain ⟨read, table, h₀⟩ := h.trace.exists_readBy
    obtain ⟨f, hfol, henc, h₁⟩ := h.send_ok h₀ hok
    obtain ⟨f', hfol', -, h₂⟩ := hfol.send_ok h₁ hok'
    -- the peer reads the second request, so it has the entry that the first one left
    have heq : (((c.send r).2.send r').2.readByPeer t).1 =
        (requests ++ [r.fields, r'.fields]).map fun fs => .ok (fs.map Field.toEntry) := hback
    rw [hfol'.readByPeer_eq h₂] at heq
    have hlast := congrArg List.getLast? heq
    rw [List.getLast?_concat, List.map_append, List.map_cons, List.map_singleton,
      List.append_cons, List.getLast?_concat] at hlast
    have hpre := Hpack.prefix_of_decode_known hs'.kept.toBounded hs'.kept.toDistinct hknown hall
      (Option.some.inj hlast)
    rw [henc, hfull] at hpre
    obtain ⟨older, hentries⟩ := hpre
    have hroom := h₁.size_le
    rw [Hpack.Table.size, ← hentries] at hroom
    change _ ≤ c.remote.headerTableSizeInForce at hroom
    simp only [List.map_append, List.map_cons, List.sum_append, List.sum_cons, Hpack.Entry.size,
      hname, hvalue] at hroom
    omega

/-- **Requests and the limit of the peer's table.** In a run of successful requests and responses:
if no limit that the peer announced is below the size of the beginning, the peer reads exactly all
requests, keeping its table to the limit in force. What is in force at the peer is what the
connection has merged. With less in force at the end two more requests can go out that the peer
does not read. -/
theorem readsBack_of_limits {timeout : Option Nat} (hopen : openOn t timeout = (.ok (), c))
    {calls : List Call} (hclose : .close ∉ calls) (hok : ∀ a ∈ c.answers calls, a.isOk = true) :
    ((∀ s ∈ (c.run calls).announced t, 4096 ≤ s.headerTableSizeInForce) →
      (c.run calls).ReadsBack t (calls.flatMap Call.fields)) ∧
    ((c.run calls).readByPeer t).2.acked = (c.run calls).remote ∧
    ((c.run calls).phase = .ready → (c.run calls).session.Accepts →
      (c.run calls).streams.nextId + 2 ≤ maxStreamId →
      (c.run calls).remote.headerTableSizeInForce < 4096 →
      ∃ r r' : Request, (∀ a ∈ (c.run calls).answers [r.call, r'.call], a.isOk = true) ∧
        ¬ ((c.run calls).run [r.call, r'.call]).ReadsBack t
          (calls.flatMap Call.fields ++ [r.fields, r'.fields])) := by
  obtain ⟨es, hfol, hrequests, hsent⟩ := (follows_of_openOn hopen).run_ok hclose hok
  rw [List.nil_append] at hfol
  refine ⟨fun hlimits => ?_, ?_, fun hready hacc hids hlow => ?_⟩
  · rw [hfol.announced_eq] at hlimits
    obtain ⟨table, -, hread⟩ := hfol.trace.readBy_of_limits hsent hlimits
    rw [ReadsBack, hfol.readByPeer_eq hread, hrequests]
  · obtain ⟨read, table, hread⟩ := hfol.trace.exists_readBy
    rw [hfol.readByPeer_eq hread]
  · exact hfol.exists_unread hready hacc hids hlow _

/-- A peer that sets a limit of `b` times 256, and answers a request. -/
def limiting (b : UInt8) : Transport :=
  { input := [.data [0, 0, 6, 4, 0, 0, 0, 0, 0, 0, 1, 0, 0, b, 0],
      .data [0, 0, 1, 1, 5, 0, 0, 0, 1, 0x88], .eof]
    protocol := some protocolName }

/-- The same new field in two requests, the second one after the first one's response. -/
def twice : List Call :=
  [.request "GET" "a" "/" [("x-new", "v")], .sendRequest "GET" "a" "/" [("x-new", "v")]]

/-- With a limit of nothing both requests go out, and the peer does not read the second one. -/
theorem run_limiting_zero :
    (openOn (limiting 0) none).1 = .ok () ∧
    (∀ a ∈ (openOn (limiting 0) none).2.answers twice, a.isOk = true) ∧
    ((openOn (limiting 0) none).2.run twice).remote.headerTableSizeInForce = 0 ∧
    (((openOn (limiting 0) none).2.run twice).readByPeer (limiting 0)).1.map Except.isOk =
      [true, false] ∧
    ((openOn (limiting 0) none).2.run twice).phase = .ready ∧
    ((openOn (limiting 0) none).2.run twice).session.Accepts ∧
    ((openOn (limiting 0) none).2.run twice).streams.nextId = 5 := by
  have hrun : ((openOn (limiting 0) none).2.runWithin 2 twice).map (fun x =>
      (x.1.all Answer.isOk, x.2.remote.headerTableSizeInForce,
        (x.2.readByPeer (limiting 0)).1.map Except.isOk, x.2.phase, x.2.session.closed,
        x.2.session.transport.writes, x.2.session.transport.flushes, x.2.streams.nextId)) =
      some (true, 0, [true, false], Phase.ready, false, [], [], 5) := by cbv
  have hview := of_runWithin hrun
  simp only [Prod.mk.injEq, List.all_eq_true] at hview
  obtain ⟨hok, hlimit, hread, hphase, hclosed, hwrites, hflushes, hnext⟩ := hview
  exact ⟨by cbv, hok, hlimit, hread, hphase,
    .of_nil hclosed hwrites hflushes, hnext⟩

/-- With a limit of 8192 both requests are read, and with none there are two that are not. -/
theorem readsBack_of_limits_limiting :
    (∀ b ∈ [32, 0], (openOn (limiting b) none).1 = .ok () ∧
      ∀ a ∈ (openOn (limiting b) none).2.answers twice, a.isOk = true) ∧
    ((openOn (limiting 32) none).2.run twice).ReadsBack (limiting 32)
      (twice.flatMap Call.fields) ∧
    ∃ r r' : Request, ¬ (((openOn (limiting 0) none).2.run twice).run [r.call, r'.call]).ReadsBack
      (limiting 0) (twice.flatMap Call.fields ++ [r.fields, r'.fields]) := by
  have hclose : .close ∉ twice := by decide
  have hopen : (openOn (limiting 32) none).1 = .ok () := by cbv
  have hrun : ((openOn (limiting 32) none).2.runWithin 2 twice).map (fun x =>
      (x.1.all Answer.isOk, x.2.announced (limiting 32))) =
      some (true, [{ headerTableSize := some 8192 }]) := by cbv
  have hview := of_runWithin hrun
  simp only [Prod.mk.injEq, List.all_eq_true] at hview
  obtain ⟨hok, hannounced⟩ := hview
  obtain ⟨hopenZero, hokZero, hlimit, -, hphase, hacc, hnext⟩ := run_limiting_zero
  obtain ⟨hback, -⟩ := readsBack_of_limits (Prod.ext hopen rfl) hclose hok
  obtain ⟨-, -, hunread⟩ := readsBack_of_limits (Prod.ext hopenZero rfl) hclose hokZero
  obtain ⟨r, r', -, hnot⟩ :=
    hunread hphase hacc (by rw [hnext]; decide) (by rw [hlimit]; decide)
  refine ⟨?_, hback ?_, r, r', hnot⟩
  · simp only [List.mem_cons, List.not_mem_nil, or_false]
    rintro b (rfl | rfl)
    · exact ⟨hopen, hok⟩
    · exact ⟨hopenZero, hokZero⟩
  · rw [hannounced]
    decide

/-- A limit of nothing is merged and acknowledged, and the second request names its field by an
index that the peer's table does not have. -/
theorem not_readsBack_limiting :
    (openOn (limiting 0) none).1 = .ok () ∧
    (∀ a ∈ (openOn (limiting 0) none).2.answers twice, a.isOk = true) ∧
    ((openOn (limiting 0) none).2.run twice).remote.headerTableSizeInForce = 0 ∧
    ¬ ((openOn (limiting 0) none).2.run twice).ReadsBack (limiting 0)
      (twice.flatMap Call.fields) := by
  obtain ⟨hopen, hok, hlimit, hread, -⟩ := run_limiting_zero
  refine ⟨hopen, hok, hlimit, fun hback => ?_⟩
  rw [ReadsBack] at hback
  rw [hback] at hread
  cases hread

end Connection

end Http2
