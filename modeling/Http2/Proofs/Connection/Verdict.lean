import Http2.Proofs.Connection.Reaction
import Http2.Proofs.Stream.Arrival

/-!
What each frame means to an endpoint that awaits a response. `Frame.Fatal` says of the frame and
the table alone which frames break the wait off; every other frame hands what it carries to the
awaited stream, moves the table on by its header block, and ends the stream exactly if it closes
it.
-/

namespace Http2

/-! ### Verdicts -/

namespace Frame

/-- The block that the frame carries is refused: the decoder rejects it, or on the awaited stream
its status is bad. -/
def BadBlock (t : Hpack.Table) (target : Nat) (f : Frame) : Prop :=
  match (Field.decompress t f.headerBlock).1 with
  | .error _ => True
  | .ok fs => f.streamId = target ∧ Stream.BadStatus fs

instance (t : Hpack.Table) (target : Nat) (f : Frame) : Decidable (f.BadBlock t target) := by
  unfold BadBlock
  split <;> infer_instance

/-- The frame breaks off the wait for the response on `target`, decoded with the table `t`. -/
def Fatal (t : Hpack.Table) (target : Nat) (f : Frame) : Prop :=
  match f.kind with
  | .data => f.streamId = 0 ∨ f.BadPadding
  | .headers =>
    f.streamId = 0 ∨ f.BadHeaders ∨ (f.flags.endHeaders = true ∧ f.BadBlock t target)
  | .rstStream => f.payload.length ≠ 4 ∨ f.streamId = 0 ∨ f.streamId = target
  | .settings =>
    f.streamId ≠ 0 ∨ (f.flags.ack = true ∧ f.payload ≠ []) ∨
      (f.flags.ack = false ∧ (Settings.decode f.payload).isOk = false)
  | .ping => f.streamId ≠ 0 ∨ f.payload.length ≠ 8
  | .goaway => f.payload.length < 8 ∨ f.lastStream < target
  | .windowUpdate => f.payload.length ≠ 4
  | .priority | .pushPromise | .continuation | .unknown _ => False

instance (t : Hpack.Table) (target : Nat) (f : Frame) : Decidable (f.Fatal t target) := by
  unfold Fatal
  split <;> infer_instance

/-- The frame ends the stream `target`. -/
def Closes (target : Nat) (f : Frame) : Prop :=
  f.streamId = target ∧ f.endsStream = true

instance (target : Nat) (f : Frame) : Decidable (f.Closes target) := by
  unfold Closes
  infer_instance

/-- The table after the frame: a whole header block moves it on, on whichever stream. -/
def tableAfter (t : Hpack.Table) (f : Frame) : Hpack.Table :=
  if f.kind = .headers ∧ f.flags.endHeaders = true then (Field.decompress t f.headerBlock).2
  else t

/-- The header blocks that the frame brings to `target`: one at most. -/
def blocksFor (target : Nat) (t : Hpack.Table) (f : Frame) : List (List Field) :=
  if f.kind = .headers ∧ f.flags.endHeaders = true ∧ f.streamId = target then
    (Field.decompress t f.headerBlock).1.toOption.toList
  else []

/-- The data that the frame brings to `target`. -/
def dataFor (target : Nat) (f : Frame) : Bytes :=
  if f.kind = .data ∧ f.streamId = target then f.content else []

/-- The awaited stream after the frame. -/
def deliver (target : Nat) (t : Hpack.Table) (f : Frame) (s : Stream) : Stream :=
  if f.Closes target then (s.absorb (f.blocksFor target t) (f.dataFor target)).close
  else s.absorb (f.blocksFor target t) (f.dataFor target)

@[simp] theorem id_deliver (target : Nat) (t : Hpack.Table) (f : Frame) (s : Stream) :
    (f.deliver target t s).id = s.id := by
  unfold deliver
  split <;> simp [Stream.close]

end Frame

namespace Endpoint

variable {e : Endpoint} {target : Nat} {f : Frame} {r : Reaction}

/-- The frame was taken: what it carries went to the awaited stream, its block moved the table on,
and the wait ends if it closes the stream. -/
structure Takes (e : Endpoint) (target : Nat) (f : Frame) (r : Reaction) : Prop where
  outcome : r.outcome = .ok (decide (f.Closes target))
  decoder : r.endpoint.decoder = f.tableAfter e.decoder
  streams : r.endpoint.streams = e.streams.modify target (f.deliver target e.decoder)

theorem takes_of_empty (hc : ¬ f.Closes target) (hb : f.blocksFor target e.decoder = [])
    (hd : f.dataFor target = []) (outcome : r.outcome = .ok false)
    (decoder : r.endpoint.decoder = f.tableAfter e.decoder)
    (streams : r.endpoint.streams = e.streams) : Takes e target f r := by
  have hdel : f.deliver target e.decoder = id := by
    funext s
    simp [Frame.deliver, hc, hb, hd]
  refine ⟨?_, decoder, ?_⟩
  · rw [outcome, decide_eq_false hc]
  · rw [streams, hdel, modify_id]

theorem takes_of_other (ht : f.streamId ≠ target) (outcome : r.outcome = .ok false)
    (decoder : r.endpoint.decoder = f.tableAfter e.decoder)
    (streams : r.endpoint.streams = e.streams) : Takes e target f r := by
  refine takes_of_empty (fun hc => ht hc.1) ?_ ?_ outcome decoder streams
  · simp [Frame.blocksFor, ht]
  · simp [Frame.dataFor, ht]

theorem takes_of_plain (hd : f.kind ≠ .data) (hh : f.kind ≠ .headers)
    (outcome : r.outcome = .ok false) (decoder : r.endpoint.decoder = e.decoder)
    (streams : r.endpoint.streams = e.streams) : Takes e target f r := by
  have hends : f.endsStream = false := by
    unfold Frame.endsStream
    split
    · next hk => exact absurd hk hd
    · next hk => exact absurd hk hh
    · rfl
  refine takes_of_empty ?_ ?_ ?_ outcome ?_ streams
  · rintro ⟨-, he⟩
    rw [hends] at he
    cases he
  · simp [Frame.blocksFor, hh]
  · simp [Frame.dataFor, hd]
  · rw [decoder, Frame.tableAfter, if_neg fun h => hh h.1]

theorem streams_closeStreamIf (e : Endpoint) (target : Nat) (g : Stream → Stream)
    (hg : ∀ s, (g s).id = s.id) (ends : Bool) :
    (closeStreamIf { e with streams := e.streams.modify target g } target ends).streams =
      e.streams.modify target fun s => if ends then (g s).close else g s := by
  unfold closeStreamIf
  split
  · exact Stream.Registry.modify_modify _ _ _ _ hg
  · rfl

theorem decoder_closeStreamIf (e : Endpoint) (target : Nat) (ends : Bool) :
    (closeStreamIf e target ends).decoder = e.decoder := by
  unfold closeStreamIf
  split <;> rfl

/-- A frame that changes the awaited stream by `g` and may end it is taken if `g` is what it
brings. -/
theorem takes_done {d : Endpoint} {g : Stream → Stream} (ht : f.streamId = target)
    (hends : f.endsStream = f.flags.endStream) (hg : ∀ s, (g s).id = s.id)
    (decoder : d.decoder = f.tableAfter e.decoder) (streams : d.streams = e.streams)
    (absorb : ∀ s : Stream, s.absorb (f.blocksFor target e.decoder) (f.dataFor target) = g s) :
    Takes e target f
      (.done (closeStreamIf { d with streams := d.streams.modify target g } target
        f.flags.endStream) f.flags.endStream) := by
  have hdel : f.deliver target e.decoder = fun s =>
      if f.flags.endStream then (g s).close else g s := by
    funext s
    simp [Frame.deliver, Frame.Closes, ht, hends, absorb]
  refine ⟨?_, ?_, ?_⟩
  · simp [Reaction.done, Frame.Closes, ht, hends]
  · rw [← decoder]
    exact decoder_closeStreamIf _ _ _
  · rw [hdel, ← streams]
    exact streams_closeStreamIf d target g hg _

/-! ### DATA and HEADERS -/

theorem onData_of_fatal (hk : f.kind = .data) (h : f.Fatal e.decoder target) :
    ∃ e' err, e.onData target f = .fail e' err := by
  simp only [Frame.Fatal, hk] at h
  unfold onData
  split
  · exact ⟨_, _, rfl⟩
  · next hs =>
    obtain ⟨err, he, -⟩ := Frame.Data.parse_of_badPadding hk (h.resolve_left hs)
    rw [he]
    exact ⟨_, _, rfl⟩

theorem takes_onData (hk : f.kind = .data) (h : ¬ f.Fatal e.decoder target) :
    Takes e target f (e.onData target f) := by
  simp only [Frame.Fatal, hk, not_or] at h
  obtain ⟨hs, hp⟩ := h
  have htab : e.decoder = f.tableAfter e.decoder := by simp [Frame.tableAfter, hk]
  simp only [onData, hs, if_false, Frame.Data.parse_of_not_badPadding hk hp]
  by_cases ht : f.streamId = target
  · rw [if_pos ht]
    refine takes_done (d := e) (g := (·.receiveData f.content)) ht (by simp [Frame.endsStream, hk])
      (fun _ => rfl) htab rfl fun s => ?_
    simp [Frame.blocksFor, Frame.dataFor, hk, ht, Stream.absorb]
  · rw [if_neg ht]
    exact takes_of_other ht rfl htab rfl

theorem onHeaders_of_fatal (hk : f.kind = .headers) (h : f.Fatal e.decoder target) :
    ∃ e' err, e.onHeaders target f = .fail e' err := by
  simp only [Frame.Fatal, hk] at h
  unfold onHeaders
  split
  · exact ⟨_, _, rfl⟩
  · next hs =>
    by_cases hb : f.BadHeaders
    · obtain ⟨err, he, -⟩ := Frame.Headers.parse_of_bad hk hb
      rw [he]
      exact ⟨_, _, rfl⟩
    · obtain ⟨hend, hblock⟩ := (h.resolve_left hs).resolve_left hb
      unfold Frame.BadBlock at hblock
      rw [Frame.Headers.parse_of_not_bad hk hb]
      simp only [hend, if_true]
      rcases hdec : Field.decompress e.decoder f.headerBlock with ⟨err | fs, decoder⟩
      · exact ⟨_, _, rfl⟩
      · rw [hdec] at hblock
        obtain ⟨err, he⟩ := Stream.blockStatus_of_bad hblock.2
        simp only [hblock.1, if_true, he]
        exact ⟨_, _, rfl⟩

theorem takes_onHeaders (hk : f.kind = .headers) (h : ¬ f.Fatal e.decoder target) :
    Takes e target f (e.onHeaders target f) := by
  simp only [Frame.Fatal, hk, not_or, not_and] at h
  obtain ⟨hs, hb, hblock⟩ := h
  have hends : f.endsStream = f.flags.endStream := by simp [Frame.endsStream, hk]
  have hdata : f.dataFor target = [] := by simp [Frame.dataFor, hk]
  simp only [onHeaders, hs, if_false, Frame.Headers.parse_of_not_bad hk hb]
  by_cases hend : f.flags.endHeaders = true
  · -- the block is whole, and neither the decoder nor the awaited stream refuses it
    have hgood := hblock hend
    unfold Frame.BadBlock at hgood
    rcases hdec : Field.decompress e.decoder f.headerBlock with ⟨err | fs, decoder⟩
    · rw [hdec] at hgood
      exact absurd trivial hgood
    · rw [hdec] at hgood
      simp only [not_and] at hgood
      have htab : decoder = f.tableAfter e.decoder := by simp [Frame.tableAfter, hk, hend, hdec]
      simp only [hend, if_true]
      by_cases ht : f.streamId = target
      · simp only [ht, if_true, Stream.blockStatus_of_not_bad (hgood ht)]
        refine takes_done (d := { e with decoder }) (g := (·.takeBlock fs)) ht hends
          (fun s => s.id_takeBlock fs) htab rfl fun s => ?_
        simp [Frame.blocksFor, hdata, hk, hend, ht, hdec, Except.toOption, Stream.absorb_block]
      · simp only [ht, if_false]
        exact takes_of_other ht rfl htab rfl
  · have htab : e.decoder = f.tableAfter e.decoder := by simp [Frame.tableAfter, hend]
    simp only [hend]
    by_cases ht : f.streamId = target
    · simp only [ht, if_true]
      have := takes_done (d := e) (g := id) ht hends (fun _ => rfl) htab rfl fun s => by
        simp [Frame.blocksFor, hdata, hend]
      rwa [modify_id] at this
    · simp only [ht, if_false]
      exact takes_of_other ht rfl htab rfl

/-! ### The other kinds -/

theorem onRstStream_of_fatal (hk : f.kind = .rstStream) (h : f.Fatal e.decoder target) :
    ∃ e' err, e.onRstStream target f = .fail e' err := by
  simp only [Frame.Fatal, hk] at h
  unfold onRstStream
  rw [Frame.RstStream.parse_eq hk]
  by_cases hl : f.payload.length = 4
  · simp only [hl, if_true]
    split
    · exact ⟨_, _, rfl⟩
    · next hs =>
      rw [if_pos ((h.resolve_left fun hn => hn hl).resolve_left hs)]
      exact ⟨_, _, rfl⟩
  · simp only [hl, if_false]
    exact ⟨_, _, rfl⟩

theorem takes_onRstStream (hk : f.kind = .rstStream) (h : ¬ f.Fatal e.decoder target) :
    Takes e target f (e.onRstStream target f) := by
  simp only [Frame.Fatal, hk, not_or, ne_eq, Classical.not_not] at h
  obtain ⟨hl, hs, ht⟩ := h
  simp only [onRstStream, Frame.RstStream.parse_eq hk, hl, if_true, hs, if_false, ht]
  exact takes_of_plain (by simp [hk]) (by simp [hk]) rfl rfl rfl

theorem onSettings_of_fatal (hk : f.kind = .settings) (h : f.Fatal e.decoder target) :
    ∃ e' err, e.onSettings f = .fail e' err := by
  simp only [Frame.Fatal, hk] at h
  unfold onSettings
  by_cases hs : f.streamId = 0
  · rw [if_pos hs]
    rcases h.resolve_left fun hn => hn hs with ⟨hack, hp⟩ | ⟨hack, herr⟩
    · rw [if_pos hack, if_neg hp]
      exact ⟨_, _, rfl⟩
    · cases he : Settings.decode f.payload with
      | error err =>
        simp only [hack]
        exact ⟨_, _, rfl⟩
      | ok s =>
        rw [he] at herr
        cases herr
  · rw [if_neg hs]
    exact ⟨_, _, rfl⟩

theorem takes_onSettings (hk : f.kind = .settings) (h : ¬ f.Fatal e.decoder target) :
    Takes e target f (e.onSettings f) := by
  simp only [Frame.Fatal, hk, not_or, ne_eq, Classical.not_not, not_and] at h
  obtain ⟨hs, hack, hdec⟩ := h
  unfold onSettings
  rw [if_pos hs]
  split
  · next ha =>
    rw [if_pos (hack ha)]
    exact takes_of_plain (by simp [hk]) (by simp [hk]) rfl rfl rfl
  · next ha =>
    cases hd : Settings.decode f.payload with
    | error err =>
      rw [hd] at hdec
      exact absurd rfl (hdec (by simpa using ha))
    | ok s => exact takes_of_plain (by simp [hk]) (by simp [hk]) rfl rfl rfl

theorem onPing_of_fatal (hk : f.kind = .ping) (h : f.Fatal e.decoder target) :
    ∃ e' err, e.onPing f = .fail e' err := by
  simp only [Frame.Fatal, hk] at h
  obtain ⟨err, he, -⟩ := Frame.Ping.parse_of_bad hk h
  unfold onPing
  rw [he]
  exact ⟨_, _, rfl⟩

theorem takes_onPing (hk : f.kind = .ping) (h : ¬ f.Fatal e.decoder target) :
    Takes e target f (e.onPing f) := by
  simp only [Frame.Fatal, hk, not_or, ne_eq, Classical.not_not] at h
  unfold onPing
  rw [Frame.Ping.parse_of_length hk h.1 h.2]
  simp only
  split
  · exact takes_of_plain (by simp [hk]) (by simp [hk]) rfl rfl rfl
  · exact takes_of_plain (by simp [hk]) (by simp [hk]) rfl rfl rfl

theorem onGoaway_of_fatal (hk : f.kind = .goaway) (h : f.Fatal e.decoder target) :
    ∃ e' err, e.onGoaway target f = .fail e' err := by
  simp only [Frame.Fatal, hk] at h
  unfold onGoaway
  rw [Frame.Goaway.parse_eq hk]
  by_cases hl : f.payload.length < 8
  · rw [if_pos hl]
    exact ⟨_, _, rfl⟩
  · simp only [hl, if_false, h.resolve_left hl, if_true]
    exact ⟨_, _, rfl⟩

theorem takes_onGoaway (hk : f.kind = .goaway) (h : ¬ f.Fatal e.decoder target) :
    Takes e target f (e.onGoaway target f) := by
  simp only [Frame.Fatal, hk, not_or] at h
  simp only [onGoaway, Frame.Goaway.parse_eq hk, h.1, if_false, h.2]
  exact takes_of_plain (by simp [hk]) (by simp [hk]) rfl rfl rfl

theorem onWindowUpdate_of_fatal (hk : f.kind = .windowUpdate) (h : f.Fatal e.decoder target) :
    ∃ e' err, e.onWindowUpdate f = .fail e' err := by
  simp only [Frame.Fatal, hk] at h
  unfold onWindowUpdate
  rw [Frame.WindowUpdate.parse_eq hk, if_neg h]
  exact ⟨_, _, rfl⟩

theorem takes_onWindowUpdate (hk : f.kind = .windowUpdate) (h : ¬ f.Fatal e.decoder target) :
    Takes e target f (e.onWindowUpdate f) := by
  simp only [Frame.Fatal, hk, ne_eq, Classical.not_not] at h
  unfold onWindowUpdate
  rw [Frame.WindowUpdate.parse_eq hk, if_pos h]
  exact takes_of_plain (by simp [hk]) (by simp [hk]) rfl rfl rfl

/-! ### All kinds -/

/-- **A fatal frame** ends the wait with a failure. -/
theorem receive_of_fatal (h : f.Fatal e.decoder target) :
    ∃ e' err, e.receive target f = .fail e' err := by
  unfold receive
  split
  · next hk => exact onData_of_fatal hk h
  · next hk => exact onHeaders_of_fatal hk h
  · next hk => exact onRstStream_of_fatal hk h
  · next hk => exact onSettings_of_fatal hk h
  · next hk => exact onPing_of_fatal hk h
  · next hk => exact onGoaway_of_fatal hk h
  · next hk => exact onWindowUpdate_of_fatal hk h
  all_goals
    next hk =>
      simp only [Frame.Fatal, hk] at h

/-- **Any other frame** is taken. -/
theorem takes_receive (h : ¬ f.Fatal e.decoder target) :
    Takes e target f (e.receive target f) := by
  unfold receive
  split
  · next hk => exact takes_onData hk h
  · next hk => exact takes_onHeaders hk h
  · next hk => exact takes_onRstStream hk h
  · next hk => exact takes_onSettings hk h
  · next hk => exact takes_onPing hk h
  · next hk => exact takes_onGoaway hk h
  · next hk => exact takes_onWindowUpdate hk h
  all_goals
    next hk => exact takes_of_plain (by simp [hk]) (by simp [hk]) rfl rfl rfl

end Endpoint

end Http2
