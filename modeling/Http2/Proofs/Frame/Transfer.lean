import Http2.Frame.Transfer
import Http2.Proofs.Frame.RoundTrip
import Http2.Proofs.Transport.Flow

/-!
Frames over a session. A frame that was read was whole on the input and is gone from it; a frame
that was written is whole on the output; and where the transport delivers and accepts, the next
frame of the input is read and a frame is written.
-/

namespace Http2.Session

variable {s s' : Session}

/-! ### Reading -/

/-- A frame that was read was the next bytes of the input, all of them and no more. -/
theorem pulled_readFrameUpTo {limit : Nat} {f : Frame}
    (h : s.readFrameUpTo limit = (.ok f, s')) :
    ∃ raw, Pulled s s' raw ∧ Frame.decode? raw = some (f, []) := by
  unfold readFrameUpTo at h
  split at h
  · cases h
  · next bytes s₁ h₁ =>
    split at h
    · cases h
    · next header rest hh =>
      split at h
      · cases h
      · split at h
        · cases h
        · next payload s₂ h₂ =>
          split at h
          · next hl =>
            cases h
            obtain ⟨hp₁, hb⟩ := pulled_fill h₁
            obtain ⟨hp₂, -⟩ := pulled_fill h₂
            -- the header was asked for alone, so nothing of the payload came with it
            have hr : rest = [] := by
              have := Frame.Header.length_of_take? hh
              exact List.length_eq_zero_iff.1 (by omega)
            subst hr
            refine ⟨bytes ++ payload, hp₁.trans hp₂, ?_⟩
            rw [Frame.decode?_eq_some_iff, Frame.Header.take?_append hh]
            simp [Frame.ofHeader, Frame.header, hl]
          · cases h

theorem pulled_readFrameUpTo_of_error {limit : Nat} {e : Error}
    (h : s.readFrameUpTo limit = (.error e, s')) : ∃ raw, Pulled s s' raw := by
  unfold readFrameUpTo at h
  split at h
  · next h₁ =>
    cases h
    obtain ⟨got, hg, -⟩ := pulled_fill_of_error h₁
    exact ⟨got, hg⟩
  · next bytes s₁ h₁ =>
    have hp₁ := (pulled_fill h₁).1
    split at h
    · cases h
      exact ⟨_, hp₁⟩
    · split at h
      · cases h
        exact ⟨_, hp₁⟩
      · split at h
        · next h₂ =>
          cases h
          obtain ⟨got, hg, -⟩ := pulled_fill_of_error h₂
          exact ⟨_, hp₁.trans hg⟩
        · next h₂ =>
          split at h
          · cases h
          · cases h
            exact ⟨_, hp₁.trans (pulled_fill h₂).1⟩

/-- **The next frame of the input is read** where the transport delivers it. -/
theorem Delivers.readFrameUpTo (hs : s.Delivers) {limit : Nat} {f : Frame} {rest : Bytes}
    (hd : Frame.decode? s.transport.unread = some (f, rest)) (hl : f.payload.length ≤ limit) :
    ∃ s', s.readFrameUpTo limit = (.ok f, s') ∧ s'.Delivers ∧ s'.transport.unread = rest := by
  rw [Frame.decode?_eq_some_iff] at hd
  obtain ⟨s₁, hf₁, hs₁, hu₁⟩ := hs.fill Frame.headerSize
  obtain ⟨s₂, hf₂, hs₂, hu₂⟩ := hs₁.fill f.payload.length
  -- the header is the first nine bytes, so taking them gives it and dropping them the rest
  have htake : Frame.Header.take? (s.transport.unread.take Frame.headerSize) =
      some (f.header, []) := Frame.Header.take?_take hd
  have hdrop : s.transport.unread.drop Frame.headerSize = f.payload ++ rest :=
    Frame.Header.drop_of_take? hd
  rw [hu₁, hdrop, List.take_left' rfl] at hf₂
  rw [hu₁, hdrop, List.drop_left' rfl] at hu₂
  refine ⟨s₂, ?_, hs₂, hu₂⟩
  unfold Session.readFrameUpTo
  rw [hf₁]
  simp only
  split
  · next e =>
    rw [htake] at e
    cases e
  · next header r e =>
    rw [htake] at e
    cases e
    have hlim : ¬ limit < f.header.length := Nat.not_lt.2 hl
    rw [if_neg hlim]
    simp only [show f.header.length = f.payload.length from rfl, hf₂, dite_true]
    rfl

theorem readFrameUpTo_of_unread_nil (hs : s.Delivers) (hu : s.transport.unread = [])
    (limit : Nat) : ∃ e s', s.readFrameUpTo limit = (.error e, s') := by
  obtain ⟨s₁, hf₁, -, -⟩ := hs.fill Frame.headerSize
  rw [hu, List.take_nil] at hf₁
  unfold Session.readFrameUpTo
  rw [hf₁]
  exact ⟨_, _, rfl⟩

/-! ### Writing -/

theorem pushed_writeFrame {f : Frame} (h : s.writeFrame f = (.ok (), s')) :
    Pushed s s' f.encode := by
  unfold writeFrame at h
  split at h
  · cases h
  · next s₁ hw =>
    have hfl := pushed_flush s₁
    split at h
    · cases h
    · next hf =>
      cases h
      rw [hf] at hfl
      simpa using (pushed_of_writeAll hw).trans hfl

theorem pushed_writeFrame_of_error {f : Frame} {e : Error}
    (h : s.writeFrame f = (.error e, s')) :
    (∃ cause, e = .io cause) ∧ ∃ sent, Pushed s s' sent ∧ sent <+: f.encode := by
  obtain ⟨sent, hs, hpre, hall⟩ := pushed_writeAll s f.encode
  unfold writeFrame at h
  split at h
  · next hw =>
    cases h
    rw [hw] at hs
    exact ⟨⟨_, rfl⟩, sent, hs, hpre⟩
  · next s₁ hw =>
    rw [hw] at hs
    have hfl := pushed_flush s₁
    split at h
    · next hf =>
      cases h
      rw [hf] at hfl
      exact ⟨⟨_, rfl⟩, sent, by simpa using hs.trans hfl, hpre⟩
    · cases h

/-- **A frame is written** where the transport accepts it. -/
theorem Accepts.writeFrame (hs : s.Accepts) (f : Frame) :
    ∃ s', s.writeFrame f = (.ok (), s') ∧ s'.Accepts ∧ Pushed s s' f.encode := by
  obtain ⟨s₁, hw, ha⟩ := hs.writeAll f.encode
  obtain ⟨s₂, hf, ha'⟩ := ha.flush
  have h : s.writeFrame f = (.ok (), s₂) := by
    unfold Session.writeFrame
    simp only [hw, hf]
  exact ⟨s₂, h, ha', pushed_writeFrame h⟩

theorem pushed_sendPreface (h : s.sendPreface = (.ok (), s')) :
    Pushed s s' (preface ++ Frame.initialSettings.encode) := by
  unfold sendPreface at h
  split at h
  · cases h
  · next hw => exact (pushed_of_writeAll hw).trans (pushed_writeFrame h)

end Http2.Session
