import Http2.Proofs.Connection.History
import Http2.Proofs.Frame.Reading
import Http2.Proofs.Settings.Validity

/-!
What goes in and out over calls, also over those that fail. A call hands the frames of its request
to the transport and then one reply for each frame that calls for one, in the order in which the
frames come in; and what the peer announced is merged frame by frame. Main statement: every call
and so every run is such an exchange.
-/

namespace Http2

theorem filterMap_singleton {α β : Type} (g : α → Option β) (a : α) :
    [a].filterMap g = (g a).toList := by
  cases h : g a <;> simp [h]

/-! ### What a frame calls for -/

namespace Frame

/-- The settings that a frame announces: it is no acknowledgement, belongs to the connection, and
its payload is allowed. -/
def adopted? (f : Frame) : Option Settings :=
  if f.kind = .settings ∧ f.streamId = 0 ∧ f.flags.ack = false then
    (Settings.decode f.payload).toOption
  else none

/-- A frame that announces settings. -/
def Adopted (f : Frame) : Prop := f.adopted?.isSome

/-- A frame that asks for an answer: a PING of eight bytes on the connection's own stream that is
no answer itself. -/
def Asks (f : Frame) : Prop :=
  f.kind = .ping ∧ f.streamId = 0 ∧ f.flags.ack = false ∧ f.payload.length = 8

instance (f : Frame) : Decidable f.Adopted := inferInstanceAs (Decidable (_ = true))

instance (f : Frame) : Decidable f.Asks := inferInstanceAs (Decidable (_ ∧ _ ∧ _ ∧ _))

def pong (f : Frame) : Frame where
  kind := .ping
  flags := ⟨Flags.ackBit⟩
  streamId := 0
  payload := f.payload
  payload_le := f.payload_le
  streamId_le := Nat.zero_le maxStreamId

/-- The reply that a frame calls for. -/
def dueReply (f : Frame) : Option Frame :=
  if f.Adopted then some .settingsAck
  else if f.Asks then some f.pong
  else none

/-- The settings in force after a frame. -/
def settingsAfter (s : Settings) (f : Frame) : Settings :=
  match f.adopted? with
  | some announced => s.merge announced
  | none => s

theorem adopted?_eq_none_of_kind {f : Frame} (h : f.kind ≠ .settings) : f.adopted? = none := by
  rw [adopted?, if_neg fun hn => h hn.1]

theorem decode_of_adopted? {f : Frame} {s : Settings} (h : f.adopted? = some s) :
    Settings.decode f.payload = .ok s := by
  unfold adopted? at h
  split at h
  · exact Settings.decode_of_toOption h
  · cases h

theorem valid_settingsAfter {s : Settings} (h : s.Valid) (f : Frame) :
    (settingsAfter s f).Valid := by
  unfold settingsAfter
  split
  · next announced hs =>
    obtain ⟨-, -, hvalid⟩ := Settings.decode_eq_ok_iff.1 (decode_of_adopted? hs)
    exact h.merge hvalid
  · exact h

theorem not_adopted_of_kind {f : Frame} (h : f.kind ≠ .settings) : ¬ f.Adopted := by
  rw [Adopted, adopted?_eq_none_of_kind h]
  exact nofun

theorem dueReply_of_kind {f : Frame} (hs : f.kind ≠ .settings) (hp : f.kind ≠ .ping) :
    f.dueReply = none := by
  rw [dueReply, if_neg (not_adopted_of_kind hs), if_neg fun ha => hp ha.1]

theorem dueReply_cases {f g : Frame} (h : f.dueReply = some g) : g = .settingsAck ∨ g = f.pong := by
  unfold dueReply at h
  split at h
  · exact .inl (Option.some.inj h).symm
  · split at h
    · exact .inr (Option.some.inj h).symm
    · cases h

theorem kind_of_dueReply {f g : Frame} (h : f.dueReply = some g) : g.kind ≠ .headers := by
  rcases dueReply_cases h with rfl | rfl <;> exact nofun

theorem onWire_of_dueReply {f g : Frame} (h : f.dueReply = some g) : g.onWire = g := by
  rcases dueReply_cases h with rfl | rfl <;> rfl

end Frame

namespace Endpoint

variable (e : Endpoint) (target : Nat) {f : Frame}

theorem reply_onData : (e.onData target f).reply = none := by
  unfold onData
  split
  · rfl
  · split
    · rfl
    · split <;> rfl

theorem reply_onHeaders : (e.onHeaders target f).reply = none := by
  unfold onHeaders
  split
  · rfl
  · split
    · rfl
    · simp only
      split
      · split
        · rfl
        · split
          · split <;> rfl
          · rfl
      · split <;> rfl

theorem reply_onRstStream : (e.onRstStream target f).reply = none := by
  unfold onRstStream
  split
  · rfl
  · split
    · rfl
    · split <;> rfl

theorem reply_onGoaway : (e.onGoaway target f).reply = none := by
  unfold onGoaway
  split
  · rfl
  · simp only
    split <;> rfl

theorem reply_onWindowUpdate : (e.onWindowUpdate f).reply = none := by
  unfold onWindowUpdate
  split <;> rfl

theorem reply_of_kind (hs : f.kind ≠ .settings) (hp : f.kind ≠ .ping) :
    (e.receive target f).reply = none := by
  unfold receive
  split
  · exact reply_onData e target
  · exact reply_onHeaders e target
  · exact reply_onRstStream e target
  · next hk => exact absurd hk hs
  · next hk => exact absurd hk hp
  · exact reply_onGoaway e target
  · exact reply_onWindowUpdate e
  all_goals rfl

/-- What SETTINGS do: what they announce is merged and acknowledged, and else they change nothing
that was announced and call for no reply. -/
theorem onSettings_adopts (hk : f.kind = .settings) :
    (e.onSettings f).endpoint.remote = Frame.settingsAfter e.remote f ∧
      (e.onSettings f).reply = f.dueReply := by
  have hasks : ¬ f.Asks := fun ha => by
    have hp := ha.1
    rw [hk] at hp
    cases hp
  have hnone (h : f.adopted? = none) :
      Frame.settingsAfter e.remote f = e.remote ∧ f.dueReply = none := by
    have hadopted : ¬ f.Adopted := by
      rw [Frame.Adopted, h]
      exact nofun
    exact ⟨by rw [Frame.settingsAfter, h], by rw [Frame.dueReply, if_neg hadopted, if_neg hasks]⟩
  unfold onSettings
  split
  · next hz =>
    split
    · next hack =>
      obtain ⟨hr, hd⟩ := hnone (by rw [Frame.adopted?, if_neg]; simp [hack])
      rw [hr, hd]
      split <;> exact ⟨rfl, rfl⟩
    · next hack =>
      have heq : f.adopted? = (Settings.decode f.payload).toOption := by
        rw [Frame.adopted?, if_pos ⟨hk, hz, by simpa using hack⟩]
      split
      · next hd =>
        obtain ⟨hr, hd⟩ := hnone (by rw [heq, hd]; rfl)
        rw [hr, hd]
        exact ⟨rfl, rfl⟩
      · next s hd =>
        rw [hd] at heq
        have hadopted : f.Adopted := by
          rw [Frame.Adopted, heq]
          rfl
        rw [Frame.settingsAfter, heq, Frame.dueReply, if_pos hadopted]
        exact ⟨rfl, rfl⟩
  · next hz =>
    obtain ⟨hr, hd⟩ := hnone (by rw [Frame.adopted?, if_neg fun h => hz h.2.1])
    rw [hr, hd]
    exact ⟨rfl, rfl⟩

theorem reply_onPing (hk : f.kind = .ping) : (e.onPing f).reply = f.dueReply := by
  have hadopted : ¬ f.Adopted := Frame.not_adopted_of_kind (by rw [hk]; exact nofun)
  rw [Frame.dueReply, if_neg hadopted]
  unfold onPing
  by_cases hbad : f.streamId ≠ 0 ∨ f.payload.length ≠ 8
  · obtain ⟨err, he, -⟩ := Frame.Ping.parse_of_bad hk hbad
    rw [he, if_neg]
    · rfl
    · rintro ⟨-, hz, -, hl⟩
      exact hbad.elim (· hz) (· hl)
  · have hs : f.streamId = 0 := Decidable.of_not_not fun hs => hbad (.inl hs)
    have hl : f.payload.length = 8 := Decidable.of_not_not fun hl => hbad (.inr hl)
    rw [Frame.Ping.parse_of_length hk hs hl]
    simp only
    split
    · next hack =>
      rw [if_neg fun ha => by rw [ha.2.2.1] at hack; cases hack]
      rfl
    · next hack =>
      rw [if_pos ⟨hk, hs, by simpa using hack, hl⟩]
      rfl

/-- **The reply to a frame** is the one that it calls for, whatever came before. -/
theorem reply_receive (f : Frame) : (e.receive target f).reply = f.dueReply := by
  by_cases hs : f.kind = .settings
  · simp only [receive, hs]
    exact (onSettings_adopts e hs).2
  · by_cases hp : f.kind = .ping
    · simp only [receive, hp]
      exact reply_onPing e hp
    · rw [reply_of_kind e target hs hp, Frame.dueReply_of_kind hs hp]

/-- **What the peer announced** changes with the frames that announce settings and no others,
whatever becomes of the reply. -/
theorem remote_receive_eq (f : Frame) :
    (e.receive target f).endpoint.remote = Frame.settingsAfter e.remote f := by
  by_cases hs : f.kind = .settings
  · simp only [receive, hs]
    exact (onSettings_adopts e hs).1
  · rw [(effect_receive e target f).remote hs, Frame.settingsAfter,
      Frame.adopted?_eq_none_of_kind hs]

/-- The frame of a request, if it is not refused. -/
def requestFrame? (fields : List Field) : Option Frame :=
  (e.prepare fields).1.toOption

end Endpoint

/-! ### Exchanges -/

theorem Frame.decodeAll_of_decode?_eq_none {bs : Bytes} (h : decode? bs = none) :
    decodeAll bs = ([], bs) := by
  rw [decodeAll]
  split
  · rfl
  · next e =>
    rw [h] at e
    cases e

/-- What writing a frame leaves on the output: the whole frame where it succeeds, and it does where
the transport accepts. -/
theorem Session.exists_pushed_writeFrame {s s' : Session} {f : Frame} {r : Except Error Unit}
    (h : s.writeFrame f = (r, s')) :
    ∃ sent, s.Pushed s' sent ∧ sent <+: f.encode ∧ (r = .ok () → sent = f.encode) ∧
      (s.Accepts → r = .ok () ∧ s'.Accepts) := by
  have haccepts (ha : s.Accepts) : r = .ok () ∧ s'.Accepts := by
    obtain ⟨s₁, hok, ha', -⟩ := ha.writeFrame f
    cases hok.symm.trans h
    exact ⟨rfl, ha'⟩
  cases r with
  | error e =>
    obtain ⟨-, sent, hs, hpre⟩ := pushed_writeFrame_of_error h
    exact ⟨sent, hs, hpre, nofun, haccepts⟩
  | ok u => exact ⟨f.encode, pushed_writeFrame h, List.prefix_rfl, fun _ => rfl, haccepts⟩

namespace Connection

/-- A failure to read a frame took no whole frame off the input. -/
theorem decode?_of_readFrame_error {c c' : Connection} {e : Error} {raw : Bytes}
    (h : c.readFrame = (.error e, c')) (hp : c.session.Pulled c'.session raw) :
    Frame.decode? raw = none := by
  unfold readFrame at h
  split at h
  · next hr =>
    cases h
    exact Session.decode?_of_readFrameUpTo_error hr hp
  · cases h

theorem remote_afterFailure (c : Connection) (e : Error) :
    (c.afterFailure e).remote = c.remote := by
  cases e <;> rfl

/-- From `c` to `d` the whole frames `ins` were taken off the input and the frames `outs` were
handed to the transport. Only where the connection is out of use afterwards can there be a part of
a frame behind `ins`, and only on a transport that does not accept can `outs` have broken off. -/
structure Exchanges (c d : Connection) (ins outs : List Frame) : Prop where
  taken : ∃ raw, c.session.transport.unread = raw ++ d.session.transport.unread ∧
    (Frame.decodeAll raw).1 = ins ∧ (d.phase.IsUsable → (Frame.decodeAll raw).2 = [])
  written : ∃ sent, d.session.transport.written = c.session.transport.written ++ sent ∧
    sent <+: outs.flatMap Frame.encode ∧
    (d.phase.IsUsable ∨ c.session.Accepts → sent = outs.flatMap Frame.encode)
  remote : d.remote = ins.foldl Frame.settingsAfter c.remote
  accepts : d.phase.IsUsable → c.session.Accepts → d.session.Accepts
  usable : d.phase.IsUsable → c.phase.IsUsable
  idle : ¬ c.phase.IsUsable →
    ins = [] ∧ outs = [] ∧ c.session.transport.unread = d.session.transport.unread

variable {c c' d e : Connection} {ins outs ins' outs' : List Frame} {target : Nat}

theorem Exchanges.of_still (hu : c.session.transport.unread = d.session.transport.unread)
    (hw : d.session.transport.written = c.session.transport.written) (hr : d.remote = c.remote)
    (ha : d.phase.IsUsable → c.session.Accepts → d.session.Accepts)
    (hp : d.phase.IsUsable → c.phase.IsUsable) : c.Exchanges d [] [] where
  taken := ⟨[], hu, by rw [Frame.decodeAll_nil], fun _ => by rw [Frame.decodeAll_nil]⟩
  written := ⟨[], by rw [hw, List.append_nil], List.nil_prefix, fun _ => rfl⟩
  remote := hr
  accepts := ha
  usable := hp
  idle := fun _ => ⟨rfl, rfl, hu⟩

theorem Exchanges.refl (c : Connection) : c.Exchanges c [] [] :=
  .of_still rfl rfl rfl (fun _ h => h) id

/-- A connection out of use exchanges nothing more. -/
theorem Exchanges.trans_of_idle (h₁ : c.Exchanges d ins outs) (h₂ : d.Exchanges e [] [])
    (hd : ¬ d.phase.IsUsable) : c.Exchanges e ins outs := by
  have he : ¬ e.phase.IsUsable := fun h => hd (h₂.usable h)
  obtain ⟨-, -, hsame⟩ := h₂.idle hd
  obtain ⟨sent', hw', hpre', -⟩ := h₂.written
  obtain rfl : sent' = [] := List.prefix_nil.1 hpre'
  obtain ⟨raw, hu, hins, -⟩ := h₁.taken
  obtain ⟨sent, hw, hpre, hall⟩ := h₁.written
  refine ⟨⟨raw, by rw [hu, hsame], hins, fun h => absurd h he⟩,
    ⟨sent, by rw [hw', hw, List.append_nil], hpre, fun h => hall (h.imp_left fun h => absurd h he)⟩,
    h₂.remote.trans h₁.remote, fun h => absurd h he, fun h => absurd h he, fun hc => ?_⟩
  obtain ⟨hi, ho, hsame'⟩ := h₁.idle hc
  exact ⟨hi, ho, hsame'.trans hsame⟩

/-- **One exchange after another** is one exchange. -/
theorem Exchanges.trans (h₁ : c.Exchanges d ins outs) (h₂ : d.Exchanges e ins' outs') :
    c.Exchanges e (ins ++ ins') (outs ++ outs') := by
  by_cases hd : d.phase.IsUsable
  · obtain ⟨raw, hu, hins, hwhole⟩ := h₁.taken
    obtain ⟨raw', hu', hins', hwhole'⟩ := h₂.taken
    obtain ⟨sent, hw, -, hall⟩ := h₁.written
    obtain ⟨sent', hw', hpre', hall'⟩ := h₂.written
    -- in between the connection stands between frames, in both directions
    obtain rfl : sent = outs.flatMap Frame.encode := hall (.inl hd)
    have hdec := Frame.decodeAll_append (hwhole hd) raw'
    refine ⟨⟨raw ++ raw', by rw [hu, hu', List.append_assoc], by rw [hdec, hins, hins'],
      fun he => by rw [hdec, hwhole' he]⟩,
      ⟨outs.flatMap Frame.encode ++ sent', by rw [hw', hw, List.append_assoc], ?_, fun h => ?_⟩,
      ?_, fun he ha => h₂.accepts he (h₁.accepts hd ha), fun _ => h₁.usable hd,
      fun hc => absurd (h₁.usable hd) hc⟩
    · rw [List.flatMap_append]
      exact (List.prefix_append_right_inj _).2 hpre'
    · rw [List.flatMap_append, hall' (h.imp_right (h₁.accepts hd))]
    · rw [h₂.remote, h₁.remote, List.foldl_append]
  · obtain ⟨rfl, rfl, -⟩ := h₂.idle hd
    rw [List.append_nil, List.append_nil]
    exact h₁.trans_of_idle h₂ hd

/-- What an exchange says depends on the session, the phase and what was announced alone. -/
theorem Exchanges.congr (h : c.Exchanges d ins outs) (hs : e.session = d.session)
    (hp : e.phase = d.phase) (hr : e.remote = d.remote) : c.Exchanges e ins outs := by
  obtain ⟨htaken, hwritten, hremote, haccepts, husable, hidle⟩ := h
  rw [← hs] at htaken hwritten haccepts hidle
  rw [← hp] at htaken hwritten haccepts husable
  rw [← hr] at hremote
  exact ⟨htaken, hwritten, hremote, haccepts, husable, hidle⟩

theorem toEndpoint_of_openOn {t : Transport} {timeout : Option Nat}
    (h : openOn t timeout = (.ok (), c)) :
    c.toEndpoint = {} ∧ t.unread = c.session.transport.unread := by
  unfold openOn at h
  simp only at h
  split at h
  · cases h
  · split at h
    · cases h
    · next session hs =>
      cases h
      exact ⟨rfl, (Session.pushed_sendPreface hs).unread.symm⟩

section Exchanges

variable {t : Transport} (h : c.Exchanges d ins outs)
  (ht : t.unread = c.session.transport.unread)
include h ht

theorem Exchanges.unread_eq : t.unread = d.bytesTaken t ++ d.session.transport.unread := by
  obtain ⟨raw, hu, -⟩ := h.taken
  rw [bytesTaken, ht, hu, List.length_append, Nat.add_sub_cancel_right, List.take_left' rfl]

theorem Exchanges.framesTaken_eq : d.framesTaken t = ins := by
  obtain ⟨raw, hu, hins, -⟩ := h.taken
  have hsame : d.bytesTaken t ++ d.session.transport.unread =
      raw ++ d.session.transport.unread := by
    rw [← h.unread_eq ht, ht, hu]
  rw [framesTaken, List.append_cancel_right hsame, hins]

end Exchanges

/-! ### Waits -/

/-- Handling a frame writes the reply that it calls for, or a beginning of it where that fails. -/
theorem pushed_of_handle {f : Frame} {outcome : Except Error Bool}
    (hh : c.handle target f = (outcome, c')) :
    ∃ sent, c.session.Pushed c'.session sent ∧
      sent <+: f.dueReply.toList.flatMap Frame.encode ∧
      ((∀ cause, outcome ≠ .error (.io cause)) ∨ c.session.Accepts →
        sent = f.dueReply.toList.flatMap Frame.encode) ∧
      (c.session.Accepts → c'.session.Accepts) := by
  have hreply := Endpoint.reply_receive c.toEndpoint target f
  cases hdue : f.dueReply with
  | none =>
    rw [hdue] at hreply
    rw [handle_of_reply_none hreply] at hh
    cases hh
    exact ⟨[], .refl _, List.nil_prefix, fun _ => rfl, id⟩
  | some g =>
    rw [hdue] at hreply
    rw [handle_of_reply_some hreply] at hh
    rcases hw : c.session.writeFrame g with ⟨r, session⟩
    obtain ⟨sent, hpush, hpre, hwhole, haccepts⟩ := Session.exists_pushed_writeFrame hw
    rw [hw] at hh
    have hsession : c'.session = session := by
      cases r <;> cases hh <;> rfl
    have hok (hio : ∀ cause, outcome ≠ .error (.io cause)) : r = .ok () := by
      cases r with
      | ok u => rfl
      | error err =>
        obtain ⟨⟨cause, rfl⟩, -⟩ := Session.pushed_writeFrame_of_error hw
        cases hh
        exact absurd rfl (hio cause)
    rw [hsession]
    refine ⟨sent, hpush, by simpa using hpre, fun h => ?_, fun ha => (haccepts ha).2⟩
    rw [hwhole (h.elim hok fun ha => (haccepts ha).1)]
    simp

/-- **A frame that was read and handled** was taken in, and the reply that it calls for was handed
to the transport. Where the reply could not be written the connection goes out of use. -/
theorem exchanges_of_handle {f : Frame} {read : Connection} {outcome : Except Error Bool}
    (hu : c.phase.IsUsable) (hread : c.readFrame = (.ok f, read))
    (hh : (read.noted target).handle target f = (outcome, c')) (hs : d.session = c'.session)
    (hr : d.remote = c'.remote)
    (hio : d.phase.IsUsable → ∀ cause, outcome ≠ .error (.io cause)) :
    c.Exchanges d [f] f.dueReply.toList := by
  obtain ⟨he, raw, hpull, hdec⟩ := readFrame_ok hread
  obtain ⟨hend, -⟩ := receive_of_handle hh
  have hremote : d.remote = [f].foldl Frame.settingsAfter c.remote := by
    rw [hr, hend, Endpoint.remote_receive_eq]
    simp only [noted, he]
    rfl
  have hall := Frame.decodeAll_of_whole hdec
  obtain ⟨sent, hp, hpre, hwhole, haccepts⟩ := pushed_of_handle hh
  rw [← hs] at hp haccepts
  have hnoted (ha : c.session.Accepts) : (read.noted target).session.Accepts :=
    ha.of_pulled hpull
  exact ⟨⟨raw, by rw [hpull.unread, hp.unread]; rfl, by rw [hall], fun _ => by rw [hall]⟩,
    ⟨sent, by rw [hp.written]; exact congrArg (· ++ sent) hpull.written, hpre,
      fun h => hwhole (h.imp hio hnoted)⟩,
    hremote, fun _ ha => haccepts (hnoted ha), fun _ => hu, fun h => absurd hu h⟩

theorem exchanges_of_handle_ok {f : Frame} {read : Connection} {ended : Bool}
    (hu : c.phase.IsUsable) (hread : c.readFrame = (.ok f, read))
    (hh : (read.noted target).handle target f = (.ok ended, d)) :
    c.Exchanges d [f] f.dueReply.toList :=
  exchanges_of_handle hu hread hh rfl rfl fun _ _ => nofun

theorem exchanges_of_handle_error {f : Frame} {read : Connection} {e : Error}
    (hu : c.phase.IsUsable) (hread : c.readFrame = (.ok f, read))
    (hh : (read.noted target).handle target f = (.error e, d)) :
    c.Exchanges (d.afterFailure e) [f] f.dueReply.toList := by
  refine exchanges_of_handle hu hread hh (session_afterFailure d e) (remote_afterFailure d e) ?_
  rintro hd cause heq
  cases heq
  exact hd.elim

theorem Round.exchanges (h : Round target c c') (hu : c.phase.IsUsable) :
    ∃ f : Frame, c.Exchanges c' [f] f.dueReply.toList := by
  obtain ⟨f, read, hread, hh⟩ := h
  exact ⟨f, exchanges_of_handle_ok hu hread hh⟩

/-- Where no frame could be read, a part of one was taken off the input at most. -/
theorem exchanges_of_readFrame_error {e : Error} (hu : c.phase.IsUsable)
    (hread : c.readFrame = (.error e, c')) : c.Exchanges c' [] [] := by
  obtain ⟨he, -, raw, hpull⟩ := readFrame_error hread
  have hout : ¬ c'.phase.IsUsable := by
    rw [he]
    exact id
  have hdec := Frame.decodeAll_of_decode?_eq_none (decode?_of_readFrame_error hread hpull)
  exact ⟨⟨raw, hpull.unread, by rw [hdec], fun h => absurd h hout⟩,
    ⟨[], by rw [hpull.written, List.append_nil], List.nil_prefix, fun _ => rfl⟩, by rw [he]; rfl,
    fun h => absurd h hout, fun _ => hu, fun h => absurd hu h⟩

theorem LastRound.exchanges {outcome : Except Error Unit} (h : LastRound target c outcome c')
    (hu : c.phase.IsUsable) : ∃ ins, c.Exchanges c' ins (ins.filterMap Frame.dueReply) := by
  cases h with
  | unread hread => exact ⟨[], exchanges_of_readFrame_error hu hread⟩
  | @failed f read d e hread hh =>
    exact ⟨[f], by rw [filterMap_singleton]; exact exchanges_of_handle_error hu hread hh⟩
  | @ended f read c' hread hh =>
    exact ⟨[f], by rw [filterMap_singleton]; exact exchanges_of_handle_ok hu hread hh⟩

theorem exchanges_rounds (hr : Relation.ReflTransGen (Round target) c d) (hu : c.phase.IsUsable) :
    ∃ ins, c.Exchanges d ins (ins.filterMap Frame.dueReply) ∧ d.phase.IsUsable := by
  refine rounds_induction (P := fun d => ∃ ins,
    c.Exchanges d ins (ins.filterMap Frame.dueReply) ∧ d.phase.IsUsable) ?_ ⟨[], .refl c, hu⟩ hr
  rintro d d' ⟨ins, hd, hud⟩ hround
  obtain ⟨f, hf⟩ := hround.exchanges hud
  refine ⟨ins ++ [f], ?_, hround.drains.isUsable hud⟩
  have hnext := hd.trans hf
  rwa [← filterMap_singleton, ← List.filterMap_append] at hnext

/-- **A wait** hands one reply to the transport for each frame that calls for one. -/
theorem exchanges_recvResponse (c : Connection) (target : Nat) :
    ∃ ins, c.Exchanges (c.recvResponse target).2 ins (ins.filterMap Frame.dueReply) := by
  cases hf : c.awaitFault? target with
  | some e =>
    simp only [recvResponse, hf]
    exact ⟨[], .refl c⟩
  | none =>
    obtain ⟨hu, -⟩ := of_awaitFault?_eq_none hf
    obtain ⟨mid, outcome, d, hr, hl, hcases⟩ := recvResponse_rounds hf
    obtain ⟨ins, hmid, hum⟩ := exchanges_rounds hr hu
    obtain ⟨last, hlast⟩ := hl.exchanges hum
    have hall := hmid.trans hlast
    rw [← List.filterMap_append] at hall
    refine ⟨ins ++ last, ?_⟩
    rcases hcases with ⟨e, -, heq⟩ | ⟨-, heq⟩
    · rw [heq]
      exact hall
    · rw [heq]
      exact hall.congr rfl rfl rfl

/-! ### Requests and closing -/

/-- **A request** hands its frame to the transport. -/
theorem exchanges_sendRequest (c : Connection) (method authority path : String)
    (extra : List Field) :
    c.Exchanges (c.sendRequest method authority path extra).2 []
      (c.requestFrame? (Endpoint.requestFields method authority path extra)).toList := by
  have hkeeps := Endpoint.keeps_prepare c.toEndpoint
    (Endpoint.requestFields method authority path extra)
  unfold sendRequest Endpoint.requestFrame?
  rcases hprep : c.toEndpoint.prepare (Endpoint.requestFields method authority path extra) with
    ⟨cause | f, ep⟩
  · rw [hprep] at hkeeps
    exact .of_still rfl rfl hkeeps.remote (fun _ h => h) fun h => hkeeps.phase ▸ h
  · rw [hprep] at hkeeps
    have hu : c.phase.IsUsable := by
      rw [(Endpoint.prepared_of_prepare hprep).ready]
      trivial
    simp only
    rcases hw : c.session.writeFrame f with ⟨r, session⟩
    obtain ⟨sent, hpush, hpre, hwhole, haccepts⟩ := Session.exists_pushed_writeFrame hw
    have hexchange {d : Connection} (hs : d.session = session) (hr : d.remote = c.remote)
        (hok : d.phase.IsUsable → r = .ok ()) : c.Exchanges d [] [f] := by
      subst hs
      exact ⟨⟨[], hpush.unread.symm, by rw [Frame.decodeAll_nil],
          fun _ => by rw [Frame.decodeAll_nil]⟩,
        ⟨sent, hpush.written, by simpa using hpre, fun h => by
          simpa using hwhole (h.elim hok fun ha => (haccepts ha).1)⟩,
        hr, fun _ ha => (haccepts ha).2, fun _ => hu, fun h => absurd hu h⟩
    cases r with
    | error e => exact hexchange rfl hkeeps.remote fun hd => hd.elim
    | ok u => exact hexchange rfl hkeeps.remote fun _ => rfl

theorem exchanges_close (c : Connection) : c.Exchanges c.close.2 [] [] := by
  have hout : ¬ c.close.2.phase.IsUsable := by
    rw [phase_close]
    exact id
  unfold close at hout ⊢
  split
  · exact .refl c
  · next hc =>
    rw [if_neg hc] at hout
    have hsame := Session.withoutClosing_close c.session
    exact .of_still (congrArg Transport.unread hsame :).symm
      (congrArg Transport.written hsame :) rfl (fun h => absurd h hout) fun h => absurd h hout

/-! ### Calls and runs -/

/-- The frames of the requests that a call makes. -/
def requestFrames (c : Connection) (call : Call) : List Frame :=
  call.fields.filterMap c.toEndpoint.requestFrame?

/-- The frames of the requests that calls make one after another. -/
def requestFramesOf (c : Connection) : List Call → List Frame
  | [] => []
  | call :: calls => c.requestFrames call ++ (c.perform call).requestFramesOf calls

theorem prepared_of_mem_requestFrames {call : Call} {f : Frame} (hf : f ∈ c.requestFrames call) :
    ∃ fields ∈ call.fields, ∃ ep, Endpoint.Prepared c.toEndpoint fields f ep := by
  obtain ⟨fields, hmem, hframe⟩ := List.mem_filterMap.1 hf
  refine ⟨fields, hmem, ?_⟩
  unfold Endpoint.requestFrame? at hframe
  rcases hprep : c.toEndpoint.prepare fields with ⟨e | g, ep⟩
  all_goals rw [hprep] at hframe
  · cases hframe
  · cases hframe
    exact ⟨ep, Endpoint.prepared_of_prepare hprep⟩

/-- The connection where a call has made its request and not yet begun to wait. -/
def afterRequest (c : Connection) : Call → Connection
  | .sendRequest method authority path extra | .request method authority path extra =>
    (c.sendRequest method authority path extra).2
  | .get authority path => (c.sendRequest "GET" authority path []).2
  | .recvResponse _ | .close => c

theorem exchanges_request (c : Connection) (method authority path : String)
    (extra : List Field) :
    ∃ ins, (c.sendRequest method authority path extra).2.Exchanges
      (c.request method authority path extra).2 ins (ins.filterMap Frame.dueReply) := by
  unfold request
  rcases c.sendRequest method authority path extra with ⟨e | id, d⟩
  · exact ⟨[], .refl d⟩
  · exact exchanges_recvResponse d id

/-- **Every call** hands its request over before it takes any frame in. -/
theorem exchanges_afterRequest (c : Connection) (call : Call) :
    c.Exchanges (c.afterRequest call) [] (c.requestFrames call) := by
  cases call with
  | sendRequest | request | get =>
    rw [requestFrames, Call.fields, filterMap_singleton]
    exact exchanges_sendRequest ..
  | recvResponse | close => exact .refl c

/-- Behind its request a call hands over nothing but replies. -/
theorem exchanges_call (c : Connection) (call : Call) :
    ∃ ins, (c.afterRequest call).Exchanges (c.perform call) ins (ins.filterMap Frame.dueReply) := by
  cases call with
  | sendRequest method authority path extra => exact ⟨[], .refl _⟩
  | recvResponse target => exact exchanges_recvResponse c target
  | request method authority path extra => exact exchanges_request c method authority path extra
  | get authority path => exact exchanges_request c "GET" authority path []
  | close => exact ⟨[], exchanges_close c⟩

theorem exchanges_perform (c : Connection) (call : Call) :
    ∃ ins, c.Exchanges (c.perform call) ins
      (c.requestFrames call ++ ins.filterMap Frame.dueReply) := by
  obtain ⟨ins, hwait⟩ := exchanges_call c call
  exact ⟨ins, (exchanges_afterRequest c call).trans hwait⟩

/-- What a call hands to the transport is of kinds that a peer reads as they are, and its HEADERS
frames are those of its requests. -/
theorem onWire_handedOver {call : Call} {f : Frame}
    (hf : f ∈ c.requestFrames call ++ ins.filterMap Frame.dueReply) :
    f.onWire = f ∧ (f.kind = .headers → f ∈ c.requestFrames call) := by
  rcases List.mem_append.1 hf with hf | hf
  · obtain ⟨fields, -, ep, hp⟩ := prepared_of_mem_requestFrames hf
    exact ⟨Frame.onWire_of_ofByte (by rw [hp.kind]; rfl), fun _ => hf⟩
  · obtain ⟨g, -, hdue⟩ := List.mem_filterMap.1 hf
    exact ⟨Frame.onWire_of_dueReply hdue, fun hk => absurd hk (Frame.kind_of_dueReply hdue)⟩

/-- **Every run** is an exchange, and the HEADERS frames of it are those of its requests. -/
theorem exchanges_run (c : Connection) (calls : List Call) :
    ∃ ins outs, c.Exchanges (c.run calls) ins outs ∧ (∀ f ∈ outs, f.onWire = f) ∧
      outs.filter (·.kind = .headers) = c.requestFramesOf calls := by
  induction calls generalizing c with
  | nil => exact ⟨[], [], .refl c, nofun, rfl⟩
  | cons call calls ih =>
    obtain ⟨ins, hcall⟩ := exchanges_perform c call
    obtain ⟨more, outs, hrun, hwire, houts⟩ := ih (c.perform call)
    refine ⟨_, _, hcall.trans hrun, fun f hf => ?_, ?_⟩
    · exact (List.mem_append.1 hf).elim (fun hf => (onWire_handedOver hf).1) (hwire f)
    · have hreplies : (ins.filterMap Frame.dueReply).filter (·.kind = .headers) = [] := by
        refine List.filter_eq_nil_iff.2 fun g hg => ?_
        obtain ⟨f, -, hdue⟩ := List.mem_filterMap.1 hg
        simpa using Frame.kind_of_dueReply hdue
      have hrequests :
          (c.requestFrames call).filter (·.kind = .headers) = c.requestFrames call := by
        refine List.filter_eq_self.2 fun f hf => ?_
        obtain ⟨fields, -, ep, hp⟩ := prepared_of_mem_requestFrames hf
        simpa using hp.kind
      rw [List.filter_append, List.filter_append, hrequests, hreplies, houts, List.append_nil]
      rfl

end Connection

end Http2
