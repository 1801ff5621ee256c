import Http2.Connection.Basic
import Http2.Proofs.Frame.Content

/-!
Everything that a frame can do to an endpoint that awaits a response, as one list of effects. What
is said of the frames of a connection goes through this list and opens no handler again.
-/

namespace Http2

/-- A failure that ends the awaited stream and leaves the connection in use. -/
def Error.EndsStream : Error → Prop
  | .streamReset .. | .goAway .. => True
  | _ => False

theorem Error.IsBreach.not_endsStream {e : Error} (h : e.IsBreach) : ¬ e.EndsStream := by
  cases e <;> simp_all [IsBreach, EndsStream]

theorem Stream.Registry.modify_modify (r : Registry) (id : Nat) (f g : Stream → Stream)
    (hf : ∀ s, (f s).id = s.id) :
    (r.modify id f).modify id g = r.modify id fun s => g (f s) := by
  unfold modify
  simp only [List.map_map, Registry.mk.injEq, and_true]
  refine List.map_congr_left fun s _ => ?_
  by_cases h : s.id = id
  · simp [h, hf]
  · simp [h]

namespace Endpoint

theorem modify_id (r : Stream.Registry) (target : Nat) : r.modify target id = r := by
  simp [Stream.Registry.modify]

theorem responseOn_noteFrame (e : Endpoint) (target : Nat) :
    (e.noteFrame target).responseOn target = e.responseOn target := by
  simp only [responseOn, noteFrame,
    Stream.Registry.find?_modify_self _ _ _ Stream.id_frameReceived]
  cases e.streams.find? target with
  | none => rfl
  | some s =>
    simp only [Option.map_some, Option.getD_some]
    unfold Stream.frameReceived
    split <;> rfl

theorem noteFrame_noteFrame (e : Endpoint) (target : Nat) :
    (e.noteFrame target).noteFrame target = e.noteFrame target := by
  have htwice (s : Stream) : s.frameReceived.frameReceived = s.frameReceived := by
    unfold Stream.frameReceived
    split <;> simp_all
  unfold noteFrame
  simp only [Stream.Registry.modify_modify _ _ _ _ Stream.id_frameReceived, htwice]

/-- The effects that the frame `f` can have on the endpoint `e` that awaits the stream
`target`. -/
inductive Effect (e : Endpoint) (target : Nat) (f : Frame) : Reaction → Prop
  /-- The frame breaks the protocol. A header block that is refused may change the table. -/
  | breach (decoder : Hpack.Table) (err : Error) (isBreach : err.IsBreach) :
      Effect e target f (.fail { e with decoder } err)
  /-- Nothing, or a header block for another stream. -/
  | skip (decoder : Hpack.Table) : Effect e target f (.goOn { e with decoder })
  /-- The awaited stream takes something in, and may end. -/
  | absorb (decoder : Hpack.Table) (take : Stream → Stream) (keeps : ∀ s, (take s).id = s.id)
      (onTarget : f.streamId = target) :
      Effect e target f
        (.done (closeStreamIf { e with decoder, streams := e.streams.modify target take } target
          f.flags.endStream) f.flags.endStream)
  /-- The peer resets the awaited stream. -/
  | reset (code : ErrorCode) (kind : f.kind = .rstStream) (onTarget : f.streamId = target) :
      Effect e target f (.fail (e.closeStream target) (.streamReset target code))
  /-- The peer acknowledges the client's settings. -/
  | acked : Effect e target f (.goOn { e with settingsAcked := true })
  /-- The peer announces settings. -/
  | settings (s : Settings) (kind : f.kind = .settings)
      (decoded : Settings.decode f.payload = .ok s) :
      Effect e target f (.answer { e with remote := e.remote.merge s } .settingsAck)
  /-- The peer asks for an answer. -/
  | ping (p : Frame.Ping) : Effect e target f (.answer e p.reply)
  /-- The peer shuts down and still serves the awaited stream. -/
  | drain (kind : f.kind = .goaway) (serves : target ≤ f.lastStream) :
      Effect e target f (.goOn { e with phase := .draining f.lastStream })
  /-- The peer shuts down and leaves the awaited stream out. -/
  | refuse (code : ErrorCode) (debug : String) (kind : f.kind = .goaway)
      (leaves : f.lastStream < target) :
      Effect e target f
        (.fail (closeStream { e with phase := .draining f.lastStream } target)
          (.goAway f.lastStream code debug))

variable {e : Endpoint} {target : Nat} {f : Frame}

theorem effect_onData (hk : f.kind = .data) : Effect e target f (e.onData target f) := by
  unfold onData
  split
  · exact .breach e.decoder _ trivial
  · by_cases hp : f.BadPadding
    · obtain ⟨err, he, hb⟩ := Frame.Data.parse_of_badPadding hk hp
      rw [he]
      exact .breach e.decoder err hb
    · rw [Frame.Data.parse_of_not_badPadding hk hp]
      simp only
      split
      · next ht => exact .absorb e.decoder (·.receiveData f.content) (fun s => rfl) ht
      · exact .skip e.decoder

theorem isBreach_of_parseStatus {value : String} {err : Error}
    (h : Stream.parseStatus value = .error err) : err.IsBreach := by
  unfold Stream.parseStatus at h
  split at h
  · split at h
    · cases h
    · cases h
      trivial
  · cases h
    trivial

theorem isBreach_of_blockStatus {fs : List Field} {err : Error}
    (h : Stream.blockStatus fs = .error err) : err.IsBreach := by
  unfold Stream.blockStatus at h
  split at h
  · cases h
  · next x _ =>
    cases hp : Stream.parseStatus x.2 with
    | error err' =>
      rw [hp] at h
      cases h
      exact isBreach_of_parseStatus hp
    | ok n =>
      rw [hp] at h
      cases h

theorem isBreach_of_decompress {t t' : Hpack.Table} {block : Bytes} {err : Error}
    (h : Field.decompress t block = (.error err, t')) : err.IsBreach := by
  unfold Field.decompress at h
  split at h
  · cases h
    trivial
  · cases h

theorem effect_onHeaders (hk : f.kind = .headers) :
    Effect e target f (e.onHeaders target f) := by
  unfold onHeaders
  split
  · exact .breach e.decoder _ trivial
  · by_cases hb : f.BadHeaders
    · obtain ⟨err, he, hb⟩ := Frame.Headers.parse_of_bad hk hb
      rw [he]
      exact .breach e.decoder err hb
    · rw [Frame.Headers.parse_of_not_bad hk hb]
      simp only
      split
      · split
        · next err decoder hd => exact .breach decoder err (isBreach_of_decompress hd)
        · next fs decoder hd =>
          split
          · next ht =>
            split
            · next err hs => exact .breach decoder err (isBreach_of_blockStatus hs)
            · next status hs =>
              exact .absorb decoder (·.applyBlock status fs)
                (fun s => Stream.id_applyBlock s status fs) ht
          · exact .skip decoder
      · split
        · next ht =>
          -- a block that goes on elsewhere brings nothing, but its frame may end the stream
          have := Effect.absorb (e := e) e.decoder id (fun _ => rfl) ht
          rwa [modify_id] at this
        · exact .skip e.decoder

theorem effect_onRstStream (hk : f.kind = .rstStream) :
    Effect e target f (e.onRstStream target f) := by
  unfold onRstStream
  rw [Frame.RstStream.parse_eq hk]
  split
  · next err he =>
    split at he
    · cases he
    · cases he
      exact .breach e.decoder _ trivial
  · split
    · exact .breach e.decoder _ trivial
    · split
      · next ht =>
        rw [ht]
        exact .reset _ hk ht
      · exact .skip e.decoder

theorem effect_onSettings (hk : f.kind = .settings) : Effect e target f (e.onSettings f) := by
  unfold onSettings
  split
  · split
    · split
      · exact .acked
      · exact .breach e.decoder _ trivial
    · split
      · next err he => exact .breach e.decoder err (Settings.isBreach_of_decode he)
      · next s hs => exact .settings s hk hs
  · exact .breach e.decoder _ trivial

theorem effect_onPing (hk : f.kind = .ping) : Effect e target f (e.onPing f) := by
  unfold onPing
  by_cases hbad : f.streamId ≠ 0 ∨ f.payload.length ≠ 8
  · obtain ⟨err, he, hb⟩ := Frame.Ping.parse_of_bad hk hbad
    rw [he]
    exact .breach e.decoder err hb
  · have hs : f.streamId = 0 := Decidable.of_not_not fun hs => hbad (.inl hs)
    have hl : f.payload.length = 8 := Decidable.of_not_not fun hl => hbad (.inr hl)
    rw [Frame.Ping.parse_of_length hk hs hl]
    simp only
    split
    · exact .skip e.decoder
    · exact .ping _

theorem effect_onGoaway (hk : f.kind = .goaway) : Effect e target f (e.onGoaway target f) := by
  unfold onGoaway
  rw [Frame.Goaway.parse_eq hk]
  split
  · next err he =>
    split at he
    · cases he
      exact .breach e.decoder _ trivial
    · cases he
  · next goaway he =>
    split at he
    · cases he
    · cases he
      simp only
      split
      · next hl => exact .refuse _ _ hk hl
      · next hl => exact .drain hk (Nat.le_of_not_lt hl)

/-- A shutdown that leaves the awaited stream out ends it, and any other one lets it go on. -/
theorem receive_of_isShutdown (e : Endpoint) (target : Nat) (h : f.IsShutdown) :
    e.receive target f =
      if f.lastStream < target then
        .fail (closeStream { e with phase := .draining f.lastStream } target) f.refusal
      else .goOn { e with phase := .draining f.lastStream } := by
  obtain ⟨hk, hl⟩ := h
  simp only [receive, hk, onGoaway, Frame.Goaway.parse_eq hk, if_neg (Nat.not_lt.2 hl)]
  rfl

theorem effect_onWindowUpdate (hk : f.kind = .windowUpdate) :
    Effect e target f (e.onWindowUpdate f) := by
  unfold onWindowUpdate
  rw [Frame.WindowUpdate.parse_eq hk]
  split
  · next err he =>
    split at he
    · cases he
    · cases he
      exact .breach e.decoder _ trivial
  · exact .skip e.decoder

/-- **Every frame has one of the effects.** -/
theorem effect_receive (e : Endpoint) (target : Nat) (f : Frame) :
    Effect e target f (e.receive target f) := by
  unfold receive
  split
  · next hk => exact effect_onData hk
  · next hk => exact effect_onHeaders hk
  · next hk => exact effect_onRstStream hk
  · next hk => exact effect_onSettings hk
  · next hk => exact effect_onPing hk
  · next hk => exact effect_onGoaway hk
  · next hk => exact effect_onWindowUpdate hk
  all_goals exact .skip e.decoder

/-! ### What the effects have in common -/

variable {r : Reaction}

theorem Effect.outcome_of_reply (h : Effect e target f r) {g : Frame} (hr : r.reply = some g) :
    r.outcome = .ok false := by
  cases h with
  | settings s kind decoded => rfl
  | ping p => rfl
  | breach | skip | absorb | reset | acked | drain | refuse => cases hr

theorem Effect.reply_cases (h : Effect e target f r) {g : Frame} (hr : r.reply = some g) :
    (g = .settingsAck ∧ f.kind = .settings) ∨ ∃ p : Frame.Ping, g = p.reply := by
  cases h with
  | settings s kind decoded => exact .inl ⟨(Option.some.inj hr).symm, kind⟩
  | ping p => exact .inr ⟨p, (Option.some.inj hr).symm⟩
  | breach | skip | absorb | reset | acked | drain | refuse => cases hr

theorem Effect.phase (h : Effect e target f r) :
    r.endpoint.phase = e.phase ∨ r.endpoint.phase = .draining f.lastStream := by
  cases h with
  | absorb decoder take keeps onTarget =>
    left
    simp only [Reaction.done, closeStreamIf]
    split <;> rfl
  | drain | refuse => exact .inr rfl
  | breach | skip | reset | acked | settings | ping => exact .inl rfl

theorem Effect.encoder (h : Effect e target f r) : r.endpoint.encoder = e.encoder := by
  cases h with
  | absorb decoder take keeps onTarget =>
    simp only [Reaction.done, closeStreamIf]
    split <;> rfl
  | breach | skip | reset | acked | settings | ping | drain | refuse => rfl

theorem Effect.remote (h : Effect e target f r) (hk : f.kind ≠ .settings) :
    r.endpoint.remote = e.remote := by
  cases h with
  | absorb decoder take keeps onTarget =>
    simp only [Reaction.done, closeStreamIf]
    split <;> rfl
  | settings s kind decoded => exact absurd kind hk
  | breach | skip | reset | acked | ping | drain | refuse => rfl

theorem Effect.streams (h : Effect e target f r) :
    ∃ g : Stream → Stream, (∀ s, (g s).id = s.id) ∧
      r.endpoint.streams = e.streams.modify target g := by
  cases h with
  | absorb decoder take keeps onTarget =>
    simp only [Reaction.done, closeStreamIf]
    split
    · refine ⟨fun s => (take s).close, keeps, ?_⟩
      exact Stream.Registry.modify_modify _ _ _ _ keeps
    · exact ⟨take, keeps, rfl⟩
  | reset | refuse => exact ⟨Stream.close, fun _ => rfl, rfl⟩
  | breach | skip | acked | settings | ping | drain => exact ⟨id, fun _ => rfl, (modify_id _ _).symm⟩

theorem Effect.phase_of_streamReset (h : Effect e target f r) {id : Nat} {code : ErrorCode}
    (hout : r.outcome = .error (.streamReset id code)) : r.endpoint.phase = e.phase := by
  cases h with
  | breach decoder err hb =>
    cases hout
    exact hb.elim
  | reset code hk ht => rfl
  | refuse code debug hk hl => cases hout
  | skip | absorb | acked | settings | ping | drain => cases hout

theorem Effect.phase_of_goAway (h : Effect e target f r) {last : Nat} {code : ErrorCode}
    {debug : String} (hout : r.outcome = .error (.goAway last code debug)) :
    r.endpoint.phase = .draining last := by
  cases h with
  | breach decoder err hb =>
    cases hout
    exact hb.elim
  | reset code hk ht => cases hout
  | refuse code debug hk hl =>
    cases hout
    rfl
  | skip | absorb | acked | settings | ping | drain => cases hout

/-- A failure that ends the awaited stream leaves the table alone, and comes from no header block. -/
theorem Effect.decoder_of_endsStream (h : Effect e target f r) {err : Error}
    (hout : r.outcome = .error err) (he : err.EndsStream) :
    r.endpoint.decoder = e.decoder ∧ f.kind ≠ .headers := by
  cases h with
  | breach decoder err' hb =>
    cases hout
    exact absurd he hb.not_endsStream
  | reset code hk ht => exact ⟨rfl, by rw [hk]; exact nofun⟩
  | refuse code debug hk hl => exact ⟨rfl, by rw [hk]; exact nofun⟩
  | skip | absorb | acked | settings | ping | drain => cases hout

theorem Effect.closes (h : Effect e target f r)
    (hend : r.outcome = .ok true ∨ ∃ err, r.outcome = .error err ∧ err.EndsStream) :
    ∃ g : Stream → Stream, (∀ s, (g s).id = s.id ∧ (g s).state = .closed) ∧
      r.endpoint.streams = e.streams.modify target g := by
  cases h with
  | absorb decoder take keeps onTarget =>
    -- the frame ended the wait, so it carried the flag that ends the stream
    rcases hend with hout | ⟨err, hout, -⟩
    · have hends : f.flags.endStream = true := Except.ok.inj hout
      refine ⟨fun s => (take s).close, fun s => ⟨keeps s, rfl⟩, ?_⟩
      simp only [Reaction.done, closeStreamIf, hends, if_true]
      exact Stream.Registry.modify_modify _ _ _ _ keeps
    · cases hout
  | reset | refuse => exact ⟨Stream.close, fun _ => ⟨rfl, rfl⟩, rfl⟩
  | breach decoder err hb =>
    rcases hend with hout | ⟨err', hout, he⟩
    · cases hout
    · cases hout
      exact absurd he hb.not_endsStream
  | skip | acked | settings | ping | drain =>
    rcases hend with hout | ⟨err, hout, -⟩ <;> cases hout

end Endpoint

end Http2
