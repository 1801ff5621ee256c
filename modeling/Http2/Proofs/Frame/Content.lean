import Http2.Frame.Payload
import Http2.Settings.Basic

/-!
What a frame of a kind that a client looks into carries, said of its payload as a whole: the
content between the padding, the header block behind the priority fields, the last stream of a
shutdown. Reading a view of a frame gives this or fails by a condition on the payload alone.
-/

namespace Http2

/-- A failure that a frame of the peer brings about by breaking the protocol. -/
def Error.IsBreach : Error → Prop
  | .protocol _ | .frameSize _ | .compression _ | .settings _ => True
  | _ => False

/-! ### Bounds of short frames -/

theorem eight_le_maxPayload : 8 ≤ maxPayload := by decide

theorem eleven_le_maxPayload : 11 ≤ maxPayload := by decide

theorem one_le_maxStreamId : 1 ≤ maxStreamId := by decide

theorem three_le_maxStreamId : 3 ≤ maxStreamId := by decide

namespace Frame

/-! ### Padding -/

/-- The padding leaves no room for itself: the first byte says more than what follows it. -/
def BadPadding (f : Frame) : Prop :=
  f.flags.padded = true ∧ f.payload.length ≤ (f.payload.headD 0).toNat

instance (f : Frame) : Decidable f.BadPadding := by unfold BadPadding; infer_instance

/-- The payload without its first byte and its padding, or all of it if it is not padded. -/
def content (f : Frame) : Bytes :=
  if f.flags.padded then
    f.payload.tail.take (f.payload.tail.length - (f.payload.headD 0).toNat)
  else f.payload

theorem unpadded_of_badPadding {f : Frame} (h : f.BadPadding) :
    ∃ e, f.unpadded = .error e ∧ e.IsBreach := by
  obtain ⟨hp, hl⟩ := h
  unfold unpadded
  rw [if_pos hp]
  split
  · exact ⟨_, rfl, trivial⟩
  · next pad rest heq =>
    rw [heq, List.headD_cons] at hl
    rw [heq, if_pos hl]
    exact ⟨_, rfl, trivial⟩

theorem unpadded_of_not_badPadding {f : Frame} (h : ¬ f.BadPadding) :
    f.unpadded = .ok f.content := by
  unfold unpadded content
  split
  · next hp =>
    have hl : (f.payload.headD 0).toNat < f.payload.length :=
      Nat.lt_of_not_le fun hn => h ⟨hp, hn⟩
    split
    · next heq =>
      rw [heq] at hl
      exact absurd hl (Nat.not_lt_zero _)
    · next pad rest heq =>
      rw [heq, List.headD_cons] at hl
      rw [heq, if_neg (Nat.not_le.2 hl)]
      rfl
  · rfl

/-! ### DATA -/

theorem Data.parse_eq_map {f : Frame} (hk : f.kind = .data) :
    Data.parse f = f.unpadded.map fun c => ⟨f.streamId, c, f.flags.endStream⟩ := by
  simp only [parse, expectKind, hk, if_true, bind, Except.bind, pure, Except.pure]
  cases f.unpadded <;> rfl

theorem Data.parse_of_badPadding {f : Frame} (hk : f.kind = .data) (h : f.BadPadding) :
    ∃ e, Data.parse f = .error e ∧ e.IsBreach := by
  obtain ⟨e, he, hb⟩ := unpadded_of_badPadding h
  refine ⟨e, ?_, hb⟩
  rw [parse_eq_map hk, he]
  rfl

theorem Data.parse_of_not_badPadding {f : Frame} (hk : f.kind = .data) (h : ¬ f.BadPadding) :
    Data.parse f = .ok ⟨f.streamId, f.content, f.flags.endStream⟩ := by
  rw [parse_eq_map hk, unpadded_of_not_badPadding h]
  rfl

/-! ### HEADERS -/

theorem Headers.parse_eq_bind {f : Frame} (hk : f.kind = .headers) :
    Headers.parse f = f.unpadded.bind fun c => (f.withoutPriority c).map fun block =>
      ⟨f.streamId, block, f.flags.endStream, f.flags.endHeaders⟩ := by
  simp only [parse, expectKind, hk, if_true, bind, Except.bind, pure, Except.pure]
  cases f.unpadded with
  | error e => rfl
  | ok c => cases f.withoutPriority c <;> rfl

def ShortPriority (f : Frame) : Prop :=
  f.flags.priority = true ∧ f.content.length < prioritySize

instance (f : Frame) : Decidable f.ShortPriority := by unfold ShortPriority; infer_instance

/-- The content without the priority fields, if it has them. -/
def headerBlock (f : Frame) : Bytes :=
  if f.flags.priority then f.content.drop prioritySize else f.content

def BadHeaders (f : Frame) : Prop := f.BadPadding ∨ f.ShortPriority

instance (f : Frame) : Decidable f.BadHeaders := by unfold BadHeaders; infer_instance

theorem Headers.parse_of_bad {f : Frame} (hk : f.kind = .headers) (h : f.BadHeaders) :
    ∃ e, Headers.parse f = .error e ∧ e.IsBreach := by
  by_cases hp : f.BadPadding
  · obtain ⟨e, he, hb⟩ := unpadded_of_badPadding hp
    refine ⟨e, ?_, hb⟩
    rw [parse_eq_bind hk, he]
    rfl
  · obtain ⟨hprio, hshort⟩ := h.resolve_left hp
    refine ⟨.frameSize .shortPriority, ?_, trivial⟩
    rw [parse_eq_bind hk, unpadded_of_not_badPadding hp, Except.bind, withoutPriority, if_pos hprio,
      if_pos hshort]
    rfl

theorem Headers.parse_of_not_bad {f : Frame} (hk : f.kind = .headers) (h : ¬ f.BadHeaders) :
    Headers.parse f =
      .ok ⟨f.streamId, f.headerBlock, f.flags.endStream, f.flags.endHeaders⟩ := by
  have hp : ¬ f.BadPadding := fun hp => h (.inl hp)
  have hw : f.withoutPriority f.content = .ok f.headerBlock := by
    unfold withoutPriority headerBlock
    split
    · next hprio =>
      rw [if_neg fun hs => h (.inr ⟨hprio, hs⟩)]
    · rfl
  rw [parse_eq_bind hk, unpadded_of_not_badPadding hp, Except.bind, hw]
  rfl

/-! ### Frames of a fixed shape -/

theorem RstStream.parse_eq {f : Frame} (hk : f.kind = .rstStream) :
    RstStream.parse f =
      if f.payload.length = 4 then .ok ⟨f.streamId, .ofNat (Bytes.toNat f.payload)⟩
      else .error (.frameSize (.payload .rstStream 4 f.payload.length)) := by
  simp only [parse, expectKind, hk, if_true, bind, Except.bind, pure, Except.pure, throw,
    throwThe, MonadExceptOf.throw]

theorem Ping.parse_of_bad {f : Frame} (hk : f.kind = .ping)
    (h : f.streamId ≠ 0 ∨ f.payload.length ≠ 8) : ∃ e, Ping.parse f = .error e ∧ e.IsBreach := by
  by_cases hs : f.streamId = 0
  · have hl : f.payload.length ≠ 8 := h.resolve_left fun hn => hn hs
    refine ⟨.frameSize (.payload .ping 8 f.payload.length), ?_, trivial⟩
    simp [parse, expectKind, hk, hs, hl, bind, Except.bind, throw, throwThe, MonadExceptOf.throw]
  · refine ⟨.protocol .pingStream, ?_, trivial⟩
    simp [parse, expectKind, hk, hs, bind, Except.bind, throw, throwThe, MonadExceptOf.throw]

theorem Ping.parse_of_length {f : Frame} (hk : f.kind = .ping) (hs : f.streamId = 0)
    (hl : f.payload.length = 8) : Ping.parse f = .ok ⟨f.flags.ack, f.payload, hl⟩ := by
  simp [parse, expectKind, hk, hs, hl, bind, Except.bind, pure, Except.pure]

/-- The last stream that a peer which shuts down may still serve. -/
def lastStream (f : Frame) : Nat := Bytes.toNat (f.payload.take 4) % 2 ^ 31

theorem Goaway.parse_eq {f : Frame} (hk : f.kind = .goaway) :
    Goaway.parse f =
      if f.payload.length < 8 then .error (.frameSize (.shortGoaway f.payload.length))
      else .ok ⟨f.lastStream, .ofNat (Bytes.toNat ((f.payload.drop 4).take 4)),
        f.payload.drop 8⟩ := by
  simp only [parse, expectKind, hk, if_true, bind, Except.bind, pure, Except.pure, throw,
    throwThe, MonadExceptOf.throw, Frame.lastStream]

/-- A GOAWAY frame that can be read. -/
def IsShutdown (f : Frame) : Prop := f.kind = .goaway ∧ 8 ≤ f.payload.length

instance (f : Frame) : Decidable f.IsShutdown := by unfold IsShutdown; infer_instance

/-- What a shutdown reports where it leaves the awaited stream out. -/
def refusal (f : Frame) : Error :=
  .goAway f.lastStream (.ofNat (Bytes.toNat ((f.payload.drop 4).take 4)))
    (Text.Utf8.lossy (f.payload.drop 8))

theorem WindowUpdate.parse_eq {f : Frame} (hk : f.kind = .windowUpdate) :
    WindowUpdate.parse f =
      if f.payload.length = 4 then .ok ⟨f.streamId, Bytes.toNat f.payload % 2 ^ 31⟩
      else .error (.frameSize (.payload .windowUpdate 4 f.payload.length)) := by
  simp only [parse, expectKind, hk, if_true, bind, Except.bind, pure, Except.pure, throw,
    throwThe, MonadExceptOf.throw]

end Frame

/-! ### SETTINGS -/

theorem Settings.isBreach_of_decode {payload : Bytes} {e : Error}
    (h : Settings.decode payload = .error e) : e.IsBreach := by
  unfold Settings.decode at h
  split at h
  · unfold Settings.validate at h
    simp only at h
    split at h
    · cases h
    · cases h
      trivial
  · cases h
    trivial

end Http2
