import Mathlib.Data.List.Induction
import Http2.Proofs.Connection.LifeCycle
import Http2.Proofs.Field.Compression

/-!
The header blocks of requests as the peer reads them. Compression comes before a block is checked
for its length, so a request that is refused for it has changed the encoder's table and not the
peer's. Main statement: the peer reads every request of a run, and whatever request comes after a
part of it, exactly if each such refusal leaves the encoder with a table that the peer's begins
with.
-/

namespace Http2

/-- A request as a program makes it. -/
structure Request where
  method : String
  authority : String
  path : String
  extra : List Field := []
  deriving DecidableEq, Repr

def Request.fields (r : Request) : List Field :=
  Endpoint.requestFields r.method r.authority r.path r.extra

/-- The fields of a request as the peer has to read them. -/
def Request.entries (r : Request) : List Hpack.Entry :=
  r.fields.map Field.toEntry

/-! ### The peer -/

/-- Header blocks one after another, read with one table. -/
def Hpack.decodeBlocks (t : Table) :
    List Bytes → List (Except Fault (List Entry)) × Table
  | [] => ([], t)
  | block :: blocks =>
    ((decode t block).1 :: (decodeBlocks (decode t block).2 blocks).1,
      (decodeBlocks (decode t block).2 blocks).2)

theorem Hpack.decodeBlocks_append (t : Table) (a b : List Bytes) :
    decodeBlocks t (a ++ b) =
      ((decodeBlocks t a).1 ++ (decodeBlocks (decodeBlocks t a).2 b).1,
        (decodeBlocks (decodeBlocks t a).2 b).2) := by
  induction a generalizing t with
  | nil => rfl
  | cons block a ih => simp [decodeBlocks, ih]

/-- The payloads of the HEADERS frames among bytes. -/
def Frame.headerBlocks (bytes : Bytes) : List Bytes :=
  ((decodeAll bytes).1.filter fun f => f.kind = .headers).map Frame.payload

theorem Frame.headerBlocks_flatMap_encode {fs : List Frame} (h : ∀ f ∈ fs, f.kind = .headers) :
    headerBlocks (fs.flatMap encode) = fs.map Frame.payload := by
  have hwire : fs.map onWire = fs := by
    refine (List.map_congr_left fun f hf => ?_).trans (List.map_id fs)
    refine onWire_of_ofByte ?_
    rw [h f hf]
    rfl
  rw [headerBlocks, decodeAll_flatMap_encode, hwire,
    List.filter_eq_self.2 fun f hf => by simpa using h f hf]

namespace Connection

def send (c : Connection) (r : Request) : Except Error Nat × Connection :=
  c.sendRequest r.method r.authority r.path r.extra

/-- The connection after requests one after another. -/
def sendAll (c : Connection) (rs : List Request) : Connection :=
  rs.foldl (fun c r => (c.send r).2) c

/-- The requests that went out. -/
def accepted (c : Connection) : List Request → List Request
  | [] => []
  | r :: rs => (if (c.send r).1.isOk then [r] else []) ++ accepted (c.send r).2 rs

/-- The bytes that requests add to the output. -/
def sentBy (c : Connection) (rs : List Request) : Bytes :=
  (c.sendAll rs).session.transport.written.drop c.session.transport.written.length

/-- What a peer reads of the header blocks of requests, and its table after them. -/
def peer (c : Connection) (rs : List Request) :
    List (Except Hpack.Fault (List Hpack.Entry)) × Hpack.Table :=
  Hpack.decodeBlocks .initial (Frame.headerBlocks (c.sentBy rs))

/-- The peer reads exactly the requests that went out. -/
def ReadExactly (c : Connection) (rs : List Request) : Prop :=
  (c.peer rs).1 = (c.accepted rs).map fun r => .ok r.entries

/-- The request is refused because its header block is too long. -/
def RefusesLength (c : Connection) (r : Request) : Prop :=
  ∃ length limit, (c.send r).1 = .error (.frameSize (.headerBlock length limit))

variable {c d : Connection} {limit : Nat}

@[simp] theorem sendAll_concat (c : Connection) (rs : List Request) (r : Request) :
    c.sendAll (rs ++ [r]) = ((c.sendAll rs).send r).2 := by
  simp [sendAll]

theorem accepted_concat (c : Connection) (rs : List Request) (r : Request) :
    c.accepted (rs ++ [r]) =
      c.accepted rs ++ if ((c.sendAll rs).send r).1.isOk then [r] else [] := by
  induction rs generalizing c with
  | nil => exact List.append_nil _
  | cons s rs ih =>
    rw [List.cons_append, accepted, ih, accepted, List.append_assoc]
    rfl

/-! ### Stream numbers -/

theorem nextId_prepare (e : Endpoint) (fs : List Field) :
    (e.prepare fs).2.streams.nextId = e.streams.nextId ∨
      (e.prepare fs).2.streams.nextId = e.streams.nextId + 2 := by
  unfold Endpoint.prepare Stream.Registry.create
  split
  · simp only
    split
    · exact .inl rfl
    · split
      · exact .inl rfl
      · split
        · next h =>
          split at h <;> cases h
          exact .inl rfl
        · next h =>
          split at h <;> cases h
          exact .inr rfl
  · exact .inl rfl

theorem nextId_send (c : Connection) (r : Request) :
    (c.send r).2.streams.nextId = c.streams.nextId ∨
      (c.send r).2.streams.nextId = c.streams.nextId + 2 := by
  have hnext := nextId_prepare c.toEndpoint r.fields
  obtain ⟨ep, -, ⟨e, hp, heq⟩ | ⟨f, session, hp, ⟨cause, sent, -, heq⟩ | ⟨-, heq⟩⟩⟩ :=
    sendRequest_cases c r.method r.authority r.path r.extra
  all_goals
    rw [Request.fields, hp] at hnext
    rw [send, heq]
    exact hnext

theorem nextId_le_send (c : Connection) (r : Request) :
    c.streams.nextId ≤ (c.send r).2.streams.nextId := by
  have := nextId_send c r
  omega

theorem nextId_sendAll_le (c : Connection) {pre rs : List Request} (h : pre <+: rs) :
    (c.sendAll pre).streams.nextId ≤ (c.sendAll rs).streams.nextId := by
  obtain ⟨post, rfl⟩ := h
  induction post using List.reverseRecOn with
  | nil => exact Nat.le_of_eq (by rw [List.append_nil])
  | append_singleton post r ih =>
    rw [← List.append_assoc, sendAll_concat]
    exact Nat.le_trans ih (nextId_le_send _ r)

/-! ### One request -/

/-- A connection on which requests can be sent, to a peer that takes blocks up to `limit`. -/
structure Sending (limit : Nat) (c : Connection) : Prop where
  ready : c.phase = .ready
  accepts : c.session.Accepts
  limit_eq : c.remote.maxFrameSizeInForce = limit
  kept : c.encoder.Kept

/-- What becomes of a request: `d` is the connection after it. -/
inductive Sent (limit : Nat) (c : Connection) (r : Request) (d : Connection) :
    Except Error Nat → Prop
  /-- Its fields are at fault. -/
  | invalid (fault : Field.Fault) (refused : Field.validateRequest r.fields = .error (.field fault))
      (encoder : d.encoder = c.encoder)
      (written : d.session.transport.written = c.session.transport.written) :
      Sent limit c r d (.error (.field fault))
  /-- Its block is too long. -/
  | tooLong (long : limit < (Hpack.encode c.encoder r.entries).1.length)
      (encoder : d.encoder = (Hpack.encode c.encoder r.entries).2)
      (written : d.session.transport.written = c.session.transport.written) :
      Sent limit c r d (.error (.frameSize
        (.headerBlock (Hpack.encode c.encoder r.entries).1.length limit)))
  /-- It goes out in a frame of its own. -/
  | out (f : Frame) (kind : f.kind = .headers)
      (payload : f.payload = (Hpack.encode c.encoder r.entries).1)
      (short : (Hpack.encode c.encoder r.entries).1.length ≤ limit)
      (encoder : d.encoder = (Hpack.encode c.encoder r.entries).2)
      (written : d.session.transport.written = c.session.transport.written ++ f.encode) :
      Sent limit c r d (.ok f.streamId)

/-- **What becomes of a request** on an output that accepts it. -/
theorem sent_send (h : c.Sending limit) (hlimit : limit ≤ maxPayload)
    (hid : c.streams.nextId ≤ maxStreamId) (r : Request) :
    Sent limit c r (c.send r).2 (c.send r).1 ∧ (c.send r).2.Sending limit := by
  obtain ⟨hready, hacc, hlim, hkept⟩ := h
  rcases Field.validateRequest_cases r.fields with hv | ⟨fault, hv⟩
  · have hkept' : (Hpack.encode c.encoder r.entries).2.Kept :=
      hkept.encode (Field.regular_of_validateRequest hv)
    have hcomp : Field.compress c.encoder r.fields =
        (.ok (Hpack.encode c.encoder r.entries).1, (Hpack.encode c.encoder r.entries).2) := by
      simp only [Field.compress, hv]
      rfl
    by_cases hlong : limit < (Hpack.encode c.encoder r.entries).1.length
    · have hsend : c.send r = (.error (.frameSize
          (.headerBlock (Hpack.encode c.encoder r.entries).1.length limit)),
          { c with streams := c.streams.dropClosed
                   encoder := (Hpack.encode c.encoder r.entries).2 }) := by
        have hprep : c.toEndpoint.prepare r.fields = (.error (.frameSize
            (.headerBlock (Hpack.encode c.encoder r.entries).1.length limit)),
            { c.toEndpoint with streams := c.streams.dropClosed
                                encoder := (Hpack.encode c.encoder r.entries).2 }) := by
          simp [Endpoint.prepare, hready, hcomp, hlim, hlong]
        rw [send, sendRequest, show Endpoint.requestFields r.method r.authority r.path r.extra =
          r.fields from rfl, hprep]
      rw [hsend]
      exact ⟨.tooLong hlong rfl rfl, hready, hacc, hlim, hkept'⟩
    · have hshort : (Hpack.encode c.encoder r.entries).1.length ≤ limit := Nat.le_of_not_lt hlong
      let f : Frame := ⟨.headers, Endpoint.requestFlags, c.streams.nextId,
        (Hpack.encode c.encoder r.entries).1, Nat.le_trans hshort hlimit, hid⟩
      let ep : Endpoint :=
        { c.toEndpoint with
          streams := ⟨c.streams.dropClosed.streams ++ [.new c.streams.nextId],
            c.streams.nextId + 2⟩
          encoder := (Hpack.encode c.encoder r.entries).2 }
      have hprep : c.toEndpoint.prepare r.fields = (.ok f, ep) := by
        simp [Endpoint.prepare, hready, hcomp, hlim, hlong, Stream.Registry.create, hid,
          Frame.make, Nat.le_trans hshort hlimit, f, ep]
      obtain ⟨s, hw, hacc', hp⟩ := hacc.writeFrame f
      have hsend : c.send r = (.ok f.streamId, ⟨ep.markSent f.streamId, s⟩) := by
        rw [send, sendRequest, show Endpoint.requestFields r.method r.authority r.path r.extra =
          r.fields from rfl, hprep]
        simp only [hw]
      rw [hsend]
      exact ⟨.out f rfl rfl hshort rfl hp.written, hready, hacc', hlim, hkept'⟩
  · have hsend : c.send r =
        (.error (.field fault), { c with streams := c.streams.dropClosed }) := by
      have hprep : c.toEndpoint.prepare r.fields =
          (.error (.field fault), { c.toEndpoint with streams := c.streams.dropClosed }) := by
        simp [Endpoint.prepare, hready, Field.compress, hv]
      rw [send, sendRequest, show Endpoint.requestFields r.method r.authority r.path r.extra =
        r.fields from rfl, hprep]
    rw [hsend]
    exact ⟨.invalid fault hv rfl rfl, hready, hacc, hlim, hkept⟩

/-! ### Runs of requests -/

theorem sending_sendAll (h : c.Sending limit) (hlimit : limit ≤ maxPayload) (rs : List Request)
    (hids : (c.sendAll rs).streams.nextId ≤ maxStreamId) :
    (c.sendAll rs).Sending limit ∧
      ∃ fs : List Frame, (∀ f ∈ fs, f.kind = .headers) ∧
        (c.sendAll rs).session.transport.written =
          c.session.transport.written ++ fs.flatMap Frame.encode := by
  induction rs using List.reverseRecOn with
  | nil => exact ⟨h, [], nofun, (List.append_nil _).symm⟩
  | append_singleton rs r ih =>
    rw [sendAll_concat] at hids ⊢
    have hid := Nat.le_trans (nextId_le_send (c.sendAll rs) r) hids
    obtain ⟨hs, fs, hfs, hw⟩ := ih hid
    obtain ⟨hsent, hs'⟩ := sent_send hs hlimit hid r
    refine ⟨hs', ?_⟩
    generalize ((c.sendAll rs).send r).1 = outcome at hsent
    cases hsent with
    | invalid fault refused encoder written => exact ⟨fs, hfs, written.trans hw⟩
    | tooLong long encoder written => exact ⟨fs, hfs, written.trans hw⟩
    | out f kind payload short encoder written =>
      refine ⟨fs ++ [f], fun g hg => ?_, by rw [written, hw]; simp⟩
      rcases List.mem_append.1 hg with hg | hg
      · exact hfs g hg
      · rw [List.mem_singleton.1 hg]
        exact kind

theorem peer_eq {rs : List Request} {fs : List Frame} (hfs : ∀ f ∈ fs, f.kind = .headers)
    (hw : (c.sendAll rs).session.transport.written =
      c.session.transport.written ++ fs.flatMap Frame.encode) :
    c.peer rs = Hpack.decodeBlocks .initial (fs.map Frame.payload) := by
  rw [peer, sentBy, hw, List.drop_left' rfl, Frame.headerBlocks_flatMap_encode hfs]

@[simp] theorem peer_nil (c : Connection) : c.peer [] = ([], .initial) := by
  rw [@peer_eq c [] [] nofun (List.append_nil _).symm]
  rfl

theorem peer_concat_of_written_eq {rs : List Request} {r : Request}
    (hw : ((c.sendAll rs).send r).2.session.transport.written =
      (c.sendAll rs).session.transport.written) : c.peer (rs ++ [r]) = c.peer rs := by
  rw [peer, peer, sentBy, sentBy, sendAll_concat, hw]

section Run

variable (h : c.Sending limit) (hlimit : limit ≤ maxPayload) {rs : List Request}
  (hids : (c.sendAll rs).streams.nextId ≤ maxStreamId) {r : Request}
include h hlimit hids

theorem peer_concat_of_out {f : Frame} (hk : f.kind = .headers)
    (hw : ((c.sendAll rs).send r).2.session.transport.written =
      (c.sendAll rs).session.transport.written ++ f.encode) :
    (c.peer (rs ++ [r])).1 =
        (c.peer rs).1 ++ [(Hpack.decode (c.peer rs).2 f.payload).1] ∧
      (c.peer (rs ++ [r])).2 = (Hpack.decode (c.peer rs).2 f.payload).2 := by
  obtain ⟨-, fs, hfs, hws⟩ := sending_sendAll h hlimit rs hids
  have hall : ∀ g ∈ fs ++ [f], g.kind = .headers := by
    intro g hg
    rcases List.mem_append.1 hg with hg | hg
    · exact hfs g hg
    · rw [List.mem_singleton.1 hg]
      exact hk
  have hws' : (c.sendAll (rs ++ [r])).session.transport.written =
      c.session.transport.written ++ (fs ++ [f]).flatMap Frame.encode := by
    rw [sendAll_concat, hw, hws]
    simp
  rw [peer_eq hall hws', peer_eq hfs hws, List.map_append, Hpack.decodeBlocks_append]
  exact ⟨rfl, rfl⟩

/-- **One more request is read exactly** where the peer's table begins with the encoder's, and
the tables stay so, but for a refusal for the length. -/
theorem step_readExactly (hread : c.ReadExactly rs)
    (hstep : (c.sendAll rs).encoder.Within (c.peer rs).2) :
    c.ReadExactly (rs ++ [r]) ∧
      (¬ (c.sendAll rs).RefusesLength r →
        (c.sendAll (rs ++ [r])).encoder.Within (c.peer (rs ++ [r])).2) := by
  obtain ⟨hs, -⟩ := sending_sendAll h hlimit rs hids
  obtain ⟨hsent, -⟩ := sent_send hs hlimit hids r
  unfold ReadExactly at hread ⊢
  rw [accepted_concat, sendAll_concat]
  generalize hres : ((c.sendAll rs).send r).1 = outcome at hsent ⊢
  cases hsent with
  | invalid fault refused encoder written =>
    rw [peer_concat_of_written_eq written, encoder]
    exact ⟨by simpa [Except.isOk, Except.toBool] using hread, fun _ => hstep⟩
  | tooLong long encoder written =>
    rw [peer_concat_of_written_eq written]
    exact ⟨by simpa [Except.isOk, Except.toBool] using hread, fun hn => absurd ⟨_, _, hres⟩ hn⟩
  | out f kind payload short encoder written =>
    obtain ⟨hp₁, hp₂⟩ := peer_concat_of_out h hlimit hids kind written
    have hlen : (Hpack.encode (c.sendAll rs).encoder r.entries).1.length < 128 ^ 4 := by
      have : maxPayload < 128 ^ 4 := by decide
      omega
    obtain ⟨p', hdec, hwithin⟩ := Hpack.decode_encode hstep hs.kept.toBounded hlen
    rw [hp₁, hp₂, payload, hdec, encoder]
    exact ⟨by simp [hread, Except.isOk, Except.toBool], fun _ => hwithin⟩

end Run

/-! ### A request that tells -/

/-- The request for the root of no host, with further fields. -/
def rootWith (extra : List Field) : Request := ⟨"GET", "", "/", extra⟩

theorem static_of_rootWith : ∀ e ∈ (rootWith []).entries, e ∈ Hpack.staticEntries := by
  decide +kernel

/-- At any time one request carries all entries of the encoder's table, and stands in the tables
as a whole. -/
theorem exists_telling (h : c.Sending limit) (hmin : payloadLimit ≤ limit) :
    ∃ r : Request, Field.validateRequest r.fields = .ok () ∧
      (∀ e ∈ r.entries, e ∈ c.encoder.all) ∧ (∀ e ∈ c.encoder.entries, e ∈ r.entries) ∧
      (Hpack.encode c.encoder r.entries).1.length ≤ limit := by
  obtain ⟨fs, hfs, hreg⟩ := h.kept.exists_fields
  have hentries : (rootWith fs).entries = (rootWith []).entries ++ c.encoder.entries := by
    simp [rootWith, Request.entries, Request.fields, Endpoint.requestFields, hfs]
  have hknown : ∀ e ∈ (rootWith fs).entries, e ∈ c.encoder.all := by
    intro e he
    rw [hentries] at he
    rcases List.mem_append.1 he with he | he
    · exact List.mem_append_left _ (static_of_rootWith e he)
    · exact List.mem_append_right _ he
  refine ⟨rootWith fs, Field.validateRequest_requestFields _ _ _ hreg, hknown, fun e he => ?_, ?_⟩
  · rw [hentries]
    exact List.mem_append_right _ he
  · have hlen := Hpack.length_encode_of_known h.kept.toBounded hknown
    have htable := h.kept.length_le
    have hfour : (rootWith []).entries.length = 4 := rfl
    rw [hentries, List.length_append, hfour] at hlen
    unfold payloadLimit at hmin
    rw [hentries]
    omega

section Run

variable (h : c.Sending limit) (hmax : limit ≤ maxPayload) {rs : List Request}
  (hids : (c.sendAll rs).streams.nextId ≤ maxStreamId) {r : Request}
include h hmax hids

/-- A peer that reads whatever comes next has a table that begins with the encoder's entries. -/
theorem prefix_of_readExactly (hmin : payloadLimit ≤ limit)
    (hread : ∀ next, c.ReadExactly (rs ++ [next])) :
    (c.sendAll rs).encoder.entries <+: (c.peer rs).2.entries := by
  obtain ⟨hs, -⟩ := sending_sendAll h hmax rs hids
  obtain ⟨r, hvalid, hknown, hall, hfits⟩ := exists_telling hs hmin
  have hexact := hread r
  obtain ⟨hsent, -⟩ := sent_send hs hmax hids r
  unfold ReadExactly at hexact
  rw [accepted_concat] at hexact
  generalize ((c.sendAll rs).send r).1 = outcome at hsent hexact
  cases hsent with
  | invalid fault refused encoder written =>
    rw [hvalid] at refused
    cases refused
  | tooLong long encoder written => omega
  | out f kind payload short encoder written =>
    rw [(peer_concat_of_out h hmax hids kind written).1, payload] at hexact
    have hlast : (Hpack.decode (c.peer rs).2
        (Hpack.encode (c.sendAll rs).encoder r.entries).1).1 = .ok r.entries := by
      simp only [Except.isOk, Except.toBool, if_true, List.map_append, List.map_cons,
        List.map_nil] at hexact
      exact List.singleton_inj.1 (List.append_inj_right' hexact rfl)
    exact Hpack.prefix_of_decode_known hs.kept.toBounded hs.kept.toDistinct hknown hall hlast

theorem peer_concat_of_refusesLength (hr : (c.sendAll rs).RefusesLength r) :
    c.peer (rs ++ [r]) = c.peer rs := by
  obtain ⟨hs, -⟩ := sending_sendAll h hmax rs hids
  obtain ⟨hsent, -⟩ := sent_send hs hmax hids r
  obtain ⟨length, limit', hres⟩ := hr
  rw [hres] at hsent
  cases hsent with
  | tooLong long encoder written => exact peer_concat_of_written_eq written

/-- Where each refusal for the length leaves entries that the peer has, the requests are read
exactly and the tables stay in step. -/
theorem inStep_of_refusals (hencoder : c.encoder = .initial)
    (hrefuse : ∀ pre r, pre ++ [r] <+: rs → (c.sendAll pre).RefusesLength r →
      ((c.sendAll pre).send r).2.encoder.entries <+: (c.peer pre).2.entries) :
    c.ReadExactly rs ∧ (c.sendAll rs).encoder.Within (c.peer rs).2 := by
  induction rs using List.reverseRecOn with
  | nil =>
    rw [ReadExactly, peer_nil]
    refine ⟨rfl, ?_⟩
    change c.encoder.Within .initial
    rw [hencoder]
    exact .refl _
  | append_singleton pre r ih =>
    have hids' := Nat.le_trans (nextId_sendAll_le c (List.prefix_append pre [r])) hids
    obtain ⟨hread, hin⟩ := ih hids' fun pre' r' hp =>
      hrefuse pre' r' (hp.trans (List.prefix_append pre [r]))
    obtain ⟨hread', hstep⟩ := step_readExactly h hmax hids' (r := r) hread hin
    refine ⟨hread', ?_⟩
    by_cases hr : (c.sendAll pre).RefusesLength r
    · -- the encoder went on alone, and what it has now the peer has too
      obtain ⟨hs, -⟩ := sending_sendAll h hmax pre hids'
      obtain ⟨-, hs'⟩ := sent_send hs hmax hids' r
      rw [peer_concat_of_refusesLength h hmax hids' hr, sendAll_concat]
      refine ⟨?_, hrefuse pre r (List.prefix_refl _) hr⟩
      rw [show ((c.sendAll pre).send r).2.encoder.limit = 4096 from hs'.kept.limit,
        ← hs.kept.limit]
      exact hin.limit
    · exact hstep hr

end Run

/-- **Requests and their header blocks.** On a connection that is ready and has not run out of
stream numbers, the peer reads every request of a run, and whatever request comes after a part of
it, exactly if each request that is refused for its length leaves the encoder with entries that
the peer's table begins with. -/
theorem readExactly_iff (hready : c.phase = .ready) (hencoder : c.encoder = .initial)
    (hacc : c.session.Accepts) (hmin : payloadLimit ≤ c.remote.maxFrameSizeInForce)
    (hmax : c.remote.maxFrameSizeInForce ≤ maxPayload) (rs : List Request)
    (hids : (c.sendAll rs).streams.nextId ≤ maxStreamId) :
    (∀ pre, pre <+: rs → ∀ next, c.ReadExactly (pre ++ [next])) ↔
      ∀ pre r, pre ++ [r] <+: rs → (c.sendAll pre).RefusesLength r →
        ((c.sendAll pre).send r).2.encoder.entries <+: (c.peer pre).2.entries := by
  have h : c.Sending c.remote.maxFrameSizeInForce :=
    ⟨hready, hacc, rfl, by rw [hencoder]; exact Hpack.Table.kept_initial⟩
  have hids' {pre : List Request} (hpre : pre <+: rs) :
      (c.sendAll pre).streams.nextId ≤ maxStreamId :=
    Nat.le_trans (nextId_sendAll_le c hpre) hids
  constructor
  · intro hread pre r hpre hr
    have hpre' : pre <+: rs := (List.prefix_append pre [r]).trans hpre
    have := prefix_of_readExactly h hmax (hids' hpre) hmin (hread _ hpre)
    rwa [peer_concat_of_refusesLength h hmax (hids' hpre') hr, sendAll_concat] at this
  · intro hrefuse pre hpre next
    obtain ⟨hread, hin⟩ := inStep_of_refusals h hmax (hids' hpre) hencoder fun pre' r hp =>
      hrefuse pre' r (hp.trans hpre)
    exact (step_readExactly h hmax (hids' hpre) hread hin).1

def oneNew : Request := ⟨"GET", "a", "/", [("x-new", "v")]⟩

theorem sending_fresh : fresh.Sending 16384 := by
  refine ⟨by cbv, ⟨by cbv, ?_, ?_⟩, by cbv, ?_⟩
  · have : fresh.session.transport.writes = [] := by cbv
    simp [this]
  · have : fresh.session.transport.flushes = [] := by cbv
    simp [this]
  · have : fresh.encoder = .initial := by cbv
    rw [this]
    exact Hpack.Table.kept_initial

theorem nextId_sendAll_fresh (r : Request) :
    (fresh.sendAll [r]).streams.nextId ≤ maxStreamId := by
  have hnext := nextId_send fresh r
  rw [nextId_fresh] at hnext
  rw [show fresh.sendAll [r] = (fresh.send r).2 from rfl]
  unfold maxStreamId
  omega

/-- After a request of ordinary length, whatever request comes next is read exactly. -/
theorem readExactly_iff_oneNew : openOn { protocol := some protocolName } none = (.ok (), fresh) ∧
    ∀ next, fresh.ReadExactly ([oneNew] ++ [next]) := by
  have hsent : (fresh.send oneNew).1 = .ok 1 := by cbv
  obtain ⟨-, hread⟩ := readExactly_iff sending_fresh.ready (by cbv) sending_fresh.accepts
    (by rw [sending_fresh.limit_eq]; decide) (by rw [sending_fresh.limit_eq]; decide) [oneNew]
    (nextId_sendAll_fresh oneNew)
  refine ⟨openOn_fresh, fun next => hread ?_ [oneNew] (List.prefix_refl _) next⟩
  rintro pre r hpre ⟨length, limit, hrefused⟩
  -- the only request of the run goes out
  have hnil : pre = [] := by
    have := hpre.length_le
    simp only [List.length_append, List.length_singleton] at this
    exact List.length_eq_zero_iff.1 (by omega)
  subst hnil
  obtain rfl : r = oneNew := (List.cons_prefix_cons.1 hpre).1
  change (fresh.send oneNew).1 = _ at hrefused
  rw [hsent] at hrefused
  cases hrefused

/-! ### A request that is not undone -/

def twoNew (value : String) : Request := ⟨"GET", "a", "/", [("x-big", value), ("x-new", "v")]⟩

/-- The table of an encoder that knows the field of `oneNew`. -/
def knowsNew : Hpack.Table := ⟨4096, [Field.toEntry ("x-new", "v")]⟩

/-- With a long value the block has no room in a frame and leaves the last field in the table. -/
theorem encode_twoNew {value : String} (h : 16384 < (Text.Utf8.encode value).length) :
    16384 < (Hpack.encode .initial (twoNew value).entries).1.length ∧
      (Hpack.encode .initial (twoNew value).entries).2 = knowsNew := by
  let big : Hpack.Entry := ⟨Text.Utf8.encode "x-big", Text.Utf8.encode value⟩
  have hname : ∀ x ∈ Hpack.Table.initial.all, x.name ≠ Text.Utf8.encode "x-big" := by
    decide +kernel
  -- the other new field alone outgrows the table, which is then as empty as before
  have hfull : Hpack.Table.initial.insert big = .initial := by
    have hsize : ¬ big.size ≤ 4096 := by
      simp only [big, Hpack.Entry.size]
      omega
    simp [Hpack.Table.insert, Hpack.Table.initial, Hpack.fit, hsize]
  have hone : Hpack.encodeField .initial big =
      (0x40 :: (Hpack.encodeString big.name ++ Hpack.encodeString big.value), .initial) := by
    simp [Hpack.encodeField, Hpack.Table.search_eq_nowhere (e := big) hname, hfull]
  have hfirst : (Hpack.encode .initial (oneNew.entries.take 4)).2 = .initial := by cbv
  have hlast : (Hpack.encode .initial (oneNew.entries.drop 4)).2 = knowsNew := by cbv
  have hsplit : (twoNew value).entries =
      oneNew.entries.take 4 ++ (big :: oneNew.entries.drop 4) := rfl
  have hlen := Hpack.length_encodeString big.value
  have hvalue : big.value.length = (Text.Utf8.encode value).length := rfl
  rw [hsplit, Hpack.encode_append, hfirst, Hpack.encode, hone]
  refine ⟨?_, hlast⟩
  simp only [List.length_append, List.length_cons]
  omega

theorem regular_of_name {name : String} (h : name = "x-big" ∨ name = "x-new") (value : String) :
    Field.Regular (name, value) := by
  have hname : name ≠ "" ∧ Field.isPseudoName name = false ∧ Text.hasAsciiUpper name = false ∧
      name ∉ Field.connectionNames ∧ Text.sameIgnoringCase name "te" = false := by
    rcases h with rfl | rfl <;> decide +kernel
  obtain ⟨h₁, h₂, h₃, h₄, h₅⟩ := hname
  exact ⟨h₁, h₂, by simp [Field.regularFault?, h₃, h₄, h₅]⟩

theorem refused_twoNew {value : String} (h : 16384 < (Text.Utf8.encode value).length) :
    fresh.accepted [twoNew value] = [] ∧
      (fresh.sendAll [twoNew value]).encoder = knowsNew ∧
      fresh.peer [twoNew value] = ([], .initial) := by
  have henc : fresh.encoder = .initial := by cbv
  have hid : fresh.streams.nextId ≤ maxStreamId := by
    rw [nextId_fresh]
    decide
  obtain ⟨hlong, htable⟩ := encode_twoNew h
  rw [← henc] at hlong htable
  have hvalid : Field.validateRequest (twoNew value).fields = .ok () := by
    refine Field.validateRequest_requestFields _ _ _ fun f hf => ?_
    rcases List.mem_cons.1 hf with rfl | hf
    · exact regular_of_name (.inl rfl) value
    · rw [List.mem_singleton.1 hf]
      exact regular_of_name (.inr rfl) "v"
  obtain ⟨hsent, -⟩ := sent_send sending_fresh (by decide) hid (twoNew value)
  rw [show fresh.accepted [twoNew value] = if (fresh.send (twoNew value)).1.isOk then [twoNew value]
    else [] from List.append_nil _]
  generalize (fresh.send (twoNew value)).1 = outcome at hsent
  cases hsent with
  | invalid fault refused =>
    rw [hvalid] at refused
    cases refused
  | tooLong long encoder written =>
    refine ⟨rfl, encoder.trans htable, ?_⟩
    rw [← peer_nil fresh]
    exact @peer_concat_of_written_eq fresh [] (twoNew value) written
  | out f kind payload short => omega

/-- **A request that is refused for its length is not undone.** It leaves a field in the encoder's
table that the peer never saw, and the next request with this field names it by an index that the
peer's table does not have. -/
theorem not_readExactly_twoNew {value : String} (h : 16384 < (Text.Utf8.encode value).length) :
    ¬ fresh.ReadExactly [twoNew value, oneNew] := by
  obtain ⟨hno, hknows, hpeer⟩ := refused_twoNew h
  have hids := nextId_sendAll_fresh (twoNew value)
  obtain ⟨hs, -⟩ := sending_sendAll sending_fresh (by decide) [twoNew value] hids
  obtain ⟨hsent, -⟩ := sent_send hs (by decide) hids oneNew
  have hvalid : Field.validateRequest oneNew.fields = .ok () := by cbv
  have hblock : (Hpack.encode knowsNew oneNew.entries).1.length ≤ 16384 := by decide +kernel
  have hindex : (Hpack.decode .initial (Hpack.encode knowsNew oneNew.entries).1).1 =
      .error .index := by cbv
  intro hread
  have hread : fresh.ReadExactly ([twoNew value] ++ [oneNew]) := hread
  unfold ReadExactly at hread
  rw [accepted_concat] at hread
  generalize ((fresh.sendAll [twoNew value]).send oneNew).1 = outcome at hsent hread
  cases hsent with
  | invalid fault refused =>
    rw [hvalid] at refused
    cases refused
  | tooLong long encoder written =>
    rw [hknows] at long
    omega
  | out f kind payload short encoder written =>
    rw [(peer_concat_of_out sending_fresh (by decide) hids kind written).1, payload, hpeer,
      hknows, hindex] at hread
    simp [hno, Except.isOk, Except.toBool] at hread

theorem not_readExactly_oversized : openOn { protocol := some protocolName } none = (.ok (), fresh) ∧
    ¬ fresh.ReadExactly [twoNew (String.ofList (List.replicate 16400 'b')), oneNew] := by
  have hlength (n : Nat) :
      (Text.Utf8.encode (String.ofList (List.replicate n 'b'))).length = n := by
    simp [Text.Utf8.encode, String.toList_ofList, List.length_flatMap, String.utf8EncodeChar]
  exact ⟨openOn_fresh, not_readExactly_twoNew (by rw [hlength]; decide)⟩

end Connection

end Http2
