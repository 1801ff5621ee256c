import Http2.Proofs.Frame.Codec
import Http2.Proofs.Frame.Transfer

/-!
Reading frames from a session and decoding them from a byte string come to the same. Where the
input gives all its data, in whatever pieces, what is read is what the decoder finds at the front
of the data, and exactly the bytes of it are taken; what cannot be read is no whole frame.
-/

namespace Http2

theorem Frame.Header.take?_eq_none_iff {bs : Bytes} :
    take? bs = none ↔ bs.length < headerSize := by
  constructor
  · intro h
    refine Nat.lt_of_not_le fun hl => ?_
    have hsome := take?_isSome hl
    rw [h] at hsome
    cases hsome
  · intro hl
    cases h : take? bs with
    | none => rfl
    | some found =>
      have := length_of_take? h
      omega

namespace Session

variable {s s' s₁ : Session} {limit : Nat}

/-! ### What a failure leaves behind -/

theorem Pulled.unique {a b : Bytes} (ha : Pulled s s' a) (hb : Pulled s s' b) : a = b := by
  have h := ha.unread
  rw [hb.unread] at h
  exact (List.append_cancel_right h).symm

theorem length_unread_of_fillFrom_error {want : Nat} {done : Bytes} {e : SystemError}
    (h : (s.fillFrom want done).1 = .error e) :
    s.transport.unread.length < (s.fillFrom want done).2.transport.unread.length + want := by
  fun_induction fillFrom s want done with
  | case1 | case2 => cases h
  | case3 s want done _ b bs s' hp _ ih =>
    have hlater := ih h
    obtain ⟨hpull, hl⟩ := pulled_pull hp
    have hu := congrArg List.length hpull.unread
    simp only [List.length_append, List.length_cons] at hu hl
    omega
  | case4 s want done _ e s' hp hi _ ih =>
    rw [(pulled_pull_of_error hp).unread]
    exact ih h
  | case5 s want done hw e s' hp hi =>
    rw [(pulled_pull_of_error hp).unread, List.nil_append]
    exact Nat.lt_add_of_pos_right (Nat.pos_of_ne_zero hw)

theorem pulled_fill_short {want : Nat} {e : SystemError} (h : s.fill want = (.error e, s')) :
    ∃ got, Pulled s s' got ∧ got.length < want := by
  obtain ⟨got, hg, -⟩ := pulled_fill_of_error h
  unfold fill at h
  have hlt := length_unread_of_fillFrom_error (congrArg Prod.fst h)
  have hu := congrArg List.length hg.unread
  rw [h] at hlt
  simp only [List.length_append] at hu hlt
  exact ⟨got, hg, by omega⟩

/-- **What cannot be read is no whole frame**: the bytes that a failure took hold none. -/
theorem decode?_of_readFrameUpTo_error {e : Error} {raw : Bytes}
    (h : s.readFrameUpTo limit = (.error e, s')) (hp : Pulled s s' raw) :
    Frame.decode? raw = none := by
  -- behind a header, fewer bytes than it says are no frame
  have hshort {bytes rest got : Bytes} {header : Frame.Header}
      (hh : Frame.Header.take? bytes = some (header, rest))
      (hl : (rest ++ got).length < header.length) : Frame.decode? (bytes ++ got) = none := by
    rw [Frame.decode?_eq_none_iff, Frame.Header.take?_append hh]
    rintro _ _ heq
    cases heq
    exact hl
  have hnone {bytes : Bytes} (hl : bytes.length < Frame.headerSize) :
      Frame.decode? bytes = none := by
    rw [Frame.decode?_eq_none_iff, Frame.Header.take?_eq_none_iff.2 hl]
    exact nofun
  unfold readFrameUpTo at h
  split at h
  · next h₁ =>
    cases h
    obtain ⟨got, hg, hl⟩ := pulled_fill_short h₁
    rw [hp.unique hg]
    exact hnone hl
  · next bytes s₁ h₁ =>
    obtain ⟨hp₁, hl₁⟩ := pulled_fill h₁
    split at h
    · next hh =>
      cases h
      rw [hp.unique hp₁]
      exact hnone (Frame.Header.take?_eq_none_iff.1 hh)
    · next header rest hh =>
      have hrest : rest = [] := by
        have := Frame.Header.length_of_take? hh
        exact List.length_eq_zero_iff.1 (by omega)
      subst hrest
      split at h
      · next hlim =>
        cases h
        rw [hp.unique hp₁, ← List.append_nil bytes]
        exact hshort hh (Nat.lt_of_le_of_lt (Nat.zero_le _) hlim)
      · split at h
        · next h₂ =>
          cases h
          obtain ⟨got, hg, hl⟩ := pulled_fill_short h₂
          rw [hp.unique (hp₁.trans hg)]
          exact hshort hh hl
        · next payload s₂ h₂ =>
          obtain ⟨hp₂, hl₂⟩ := pulled_fill h₂
          split at h
          · cases h
          · next hne =>
            cases h
            rw [hp.unique (hp₁.trans hp₂)]
            exact hshort hh (Nat.lt_of_le_of_ne hl₂ hne)

/-! ### Reading by the bytes that are there -/

/-- Reading a frame comes to `outcome` and takes the first `n` bytes off the input, and nothing
else changes. -/
def Reads (s : Session) (limit : Nat) (outcome : Except Error Frame) (n : Nat) : Prop :=
  ∃ s', s.readFrameUpTo limit = (outcome, s') ∧ n ≤ s.transport.unread.length ∧
    Pulled s s' (s.transport.unread.take n)

theorem Pulled.unread_eq_drop {n : Nat} (hp : Pulled s s' (s.transport.unread.take n)) :
    s'.transport.unread = s.transport.unread.drop n := by
  have hu : s.transport.unread.take n ++ s'.transport.unread =
      s.transport.unread.take n ++ s.transport.unread.drop n := by
    rw [← hp.unread, List.take_append_drop]
  exact List.append_cancel_left hu

theorem Pulled.take_trans {n m : Nat} (hp₁ : Pulled s s₁ (s.transport.unread.take n))
    (hp₂ : Pulled s₁ s' (s₁.transport.unread.take m)) :
    Pulled s s' (s.transport.unread.take (n + m)) := by
  have hp := hp₁.trans hp₂
  rwa [hp₁.unread_eq_drop, ← List.take_add] at hp

/-- Behind a header, the payload that it says is read unless it is too long. -/
theorem readFrameUpTo_of_header {bytes rest : Bytes} {h : Frame.Header}
    (hf : s.fill Frame.headerSize = (.ok bytes, s₁))
    (hh : Frame.Header.take? bytes = some (h, rest)) :
    s.readFrameUpTo limit =
      if limit < h.length then (.error (.frameSize (.overLimit h.kind h.length limit)), s₁)
      else
        match s₁.fill h.length with
        | (.error e, s) => (.error (.io e), s)
        | (.ok payload, s) =>
          if hl : payload.length = h.length then
            (.ok (.ofHeader h payload (Frame.Header.bounded_of_take? hh) hl), s)
          else (.error (.truncated h.length payload.length), s) := by
  unfold readFrameUpTo
  rw [hf]
  simp only
  split
  · next e =>
    rw [hh] at e
    cases e
  · next e =>
    rw [hh] at e
    cases e
    rfl

section Supplies

variable (hc : s.closed = false) (hs : s.transport.Supplies)
include hc hs

theorem reads_of_short (hl : s.transport.unread.length < 9) (limit : Nat) :
    s.Reads limit (.error (.shortRead 9 s.transport.unread.length)) s.transport.unread.length := by
  obtain ⟨s₁, hf, -, hp⟩ := supplies_fill hc hs Frame.headerSize
  have hall : s.transport.unread.take Frame.headerSize = s.transport.unread :=
    List.take_of_length_le (Nat.le_of_lt hl)
  rw [hall] at hf hp
  refine ⟨s₁, ?_, Nat.le_refl _, by rwa [List.take_length]⟩
  unfold readFrameUpTo
  rw [hf]
  simp only
  split
  · rfl
  · next hh =>
    rw [Frame.Header.take?_eq_none_iff.2 hl] at hh
    cases hh

variable {h : Frame.Header} {behind : Bytes}
  (htake : Frame.Header.take? s.transport.unread = some (h, behind))
include htake

theorem reads_of_long (hlim : limit < h.length) :
    s.Reads limit (.error (.frameSize (.overLimit h.kind h.length limit))) 9 := by
  obtain ⟨s₁, hf, -, hp⟩ := supplies_fill hc hs Frame.headerSize
  refine ⟨s₁, ?_, ?_, hp⟩
  · rw [readFrameUpTo_of_header hf (Frame.Header.take?_take htake), if_pos hlim]
  · have := Frame.Header.length_of_take? htake
    simp only [Frame.headerSize] at this
    omega

theorem readFrameUpTo_of_le (hlim : h.length ≤ limit) :
    ∃ s', Pulled s s' (s.transport.unread.take (9 + h.length)) ∧
      s.readFrameUpTo limit =
        if hl : (behind.take h.length).length = h.length then
          (.ok (.ofHeader h (behind.take h.length) (Frame.Header.bounded_of_take? htake) hl), s')
        else (.error (.truncated h.length (behind.take h.length).length), s') := by
  obtain ⟨s₁, hf₁, hs₁, hp₁⟩ := supplies_fill hc hs Frame.headerSize
  obtain ⟨s₂, hf₂, -, hp₂⟩ := supplies_fill (hp₁.closed.trans hc) hs₁ h.length
  have hbehind : s₁.transport.unread = behind :=
    hp₁.unread_eq_drop.trans (Frame.Header.drop_of_take? htake)
  refine ⟨s₂, hp₁.take_trans hp₂, ?_⟩
  rw [hbehind] at hf₂
  rw [readFrameUpTo_of_header hf₁ (Frame.Header.take?_take htake), if_neg (Nat.not_lt.2 hlim), hf₂]

theorem reads_of_whole (hlim : h.length ≤ limit) {f : Frame} {rest : Bytes}
    (hd : Frame.decode? s.transport.unread = some (f, rest)) :
    s.Reads limit (.ok f) (9 + h.length) := by
  obtain ⟨s', hp, hread⟩ := readFrameUpTo_of_le hc hs htake hlim
  have hsame := Frame.decode?_eq_some_iff.1 hd
  rw [htake, Option.some.injEq, Prod.mk.injEq] at hsame
  obtain ⟨rfl, rfl⟩ := hsame
  have htaken : (f.payload ++ rest).take f.header.length = f.payload := List.take_left' rfl
  refine ⟨s', ?_, ?_, hp⟩
  · simp only [hread, htaken]
    exact dif_pos rfl
  · have := Frame.length_of_decode? hd
    simp only [Frame.size, Frame.headerSize, Frame.header] at this ⊢
    omega

theorem reads_of_cut (hlim : h.length ≤ limit)
    (hd : Frame.decode? s.transport.unread = none) :
    s.Reads limit (.error (.truncated h.length (s.transport.unread.length - 9)))
      s.transport.unread.length := by
  obtain ⟨s', hp, hread⟩ := readFrameUpTo_of_le hc hs htake hlim
  have hfew : behind.length < h.length := Frame.decode?_eq_none_iff.1 hd h behind htake
  have hlen : s.transport.unread.length = 9 + behind.length := Frame.Header.length_of_take? htake
  have hall : behind.take h.length = behind := List.take_of_length_le (Nat.le_of_lt hfew)
  refine ⟨s', ?_, Nat.le_refl _, ?_⟩
  · rw [hread, hall, dif_neg (Nat.ne_of_lt hfew), hlen, Nat.add_sub_cancel_left]
  · rwa [List.take_of_length_le (by omega), ← List.take_length (l := s.transport.unread)] at hp

end Supplies

theorem readFrame_ne_frameSize (s : Session) (fault : SizeFault) :
    s.readFrame.1 ≠ .error (.frameSize fault) := by
  intro h
  unfold readFrame readFrameUpTo at h
  split at h
  · cases h
  · split at h
    · cases h
    · next header rest hh =>
      rw [if_neg (Nat.not_lt.2 (Frame.Header.bounded_of_take? hh).length_le)] at h
      split at h
      · cases h
      · split at h <;> cases h

/-- **The reader agrees with the decoder.** On an open session whose input gives all its data, in
pieces of any sizes and with any interruptions, reading a frame of at most `limit` bytes comes to
one of four outcomes, by the data that is there. Fewer than nine bytes are a short read, and all
of them are taken. A header that says more than `limit` is refused, and it alone is taken, whether
or not the payload is there. Else the frame that the decoder finds is read, which is the one that
`make` gives, and exactly its bytes are taken; and where the decoder finds none the payload is
truncated, and all is taken. A reader without a limit of its own is the one with the greatest
length that a header can say, and refuses no header. -/
theorem readFrameUpTo_agrees (hc : s.closed = false) (hs : s.transport.Supplies) (limit : Nat) :
    ((s.transport.unread.length < 9 ∧
        s.Reads limit (.error (.shortRead 9 s.transport.unread.length))
          s.transport.unread.length) ∨
      ∃ h behind, Frame.Header.take? s.transport.unread = some (h, behind) ∧
        ((limit < h.length ∧
            s.Reads limit (.error (.frameSize (.overLimit h.kind h.length limit))) 9) ∨
          (h.length ≤ limit ∧ ∃ f,
            Frame.decode? s.transport.unread =
              some (f, s.transport.unread.drop (9 + h.length)) ∧
            Frame.make h.kind h.flags h.streamId (behind.take h.length) = .ok f ∧
            s.Reads limit (.ok f) (9 + h.length)) ∨
          (h.length ≤ limit ∧ Frame.decode? s.transport.unread = none ∧
            s.Reads limit (.error (.truncated h.length (s.transport.unread.length - 9)))
              s.transport.unread.length))) ∧
    s.readFrame = s.readFrameUpTo (2 ^ 24 - 1) ∧
    ∀ fault, s.readFrame.1 ≠ .error (.frameSize fault) := by
  refine ⟨?_, rfl, readFrame_ne_frameSize s⟩
  cases htake : Frame.Header.take? s.transport.unread with
  | none =>
    have hl := Frame.Header.take?_eq_none_iff.1 htake
    exact .inl ⟨hl, reads_of_short hc hs hl limit⟩
  | some found =>
    obtain ⟨h, behind⟩ := found
    refine .inr ⟨h, behind, rfl, ?_⟩
    rcases Nat.lt_or_ge limit h.length with hlim | hlim
    · exact .inl ⟨hlim, reads_of_long hc hs htake hlim⟩
    · cases hd : Frame.decode? s.transport.unread with
      | none => exact .inr (.inr ⟨hlim, rfl, reads_of_cut hc hs htake hlim hd⟩)
      | some decoded =>
        obtain ⟨f, rest⟩ := decoded
        obtain ⟨h', behind', htake', hmake⟩ := Frame.make_of_decode? hd
        rw [htake, Option.some.injEq, Prod.mk.injEq] at htake'
        obtain ⟨rfl, rfl⟩ := htake'
        have hlen : f.payload.length = h.length := by
          have hsame := Frame.decode?_eq_some_iff.1 hd
          rw [htake, Option.some.injEq, Prod.mk.injEq] at hsame
          exact (congrArg Frame.Header.length hsame.1).symm
        have hrest := (Frame.encode_of_decode? hd).2
        rw [Frame.size, hlen] at hrest
        exact .inr (.inl ⟨hlim, f, by rw [hrest]; rfl, hmake, reads_of_whole hc hs htake hlim hd⟩)

/-- A frame of one byte and one more byte, in pieces and with interruptions. -/
def inParts : Session :=
  .new
    { input := [.fail (.io ⟨.interrupted, ""⟩), .data [0, 0], .pollFail (.io ⟨.interrupted, ""⟩),
        .data [1, 6, 0, 0, 0, 0, 1, 7], .data [9], .eof]
      chunk := some 3 }

/-- The frame of ten bytes is read from it, and refused by its header if no payload is allowed. -/
theorem readFrameUpTo_agrees_inParts : inParts.closed = false ∧ inParts.transport.Supplies ∧
    inParts.Reads 1 (.ok ⟨.ping, ⟨0⟩, 1, [7], by decide, by decide⟩) 10 ∧
    inParts.Reads 0 (.error (.frameSize (.overLimit .ping 1 0))) 9 := by
  have hs : inParts.transport.Supplies := ⟨by decide, by simp [inParts, new], by decide⟩
  have htake : Frame.Header.take? inParts.transport.unread =
      some (⟨1, .ping, ⟨0⟩, 1⟩, [7, 9]) := by decide
  have hdec : Frame.decode? inParts.transport.unread =
      some (⟨.ping, ⟨0⟩, 1, [7], by decide, by decide⟩, [9]) := by cbv
  have hlen : ¬ inParts.transport.unread.length < 9 := by decide
  refine ⟨rfl, hs, ?_, ?_⟩
  · obtain ⟨⟨hl, -⟩ | ⟨h, behind, ht, hcases⟩, -⟩ := readFrameUpTo_agrees rfl hs 1
    · exact absurd hl hlen
    · rw [htake] at ht
      cases ht
      rcases hcases with ⟨hl, -⟩ | ⟨-, f, hd, -, hr⟩ | ⟨-, hd, -⟩
      · exact absurd hl (by decide)
      · rw [hdec] at hd
        cases hd
        exact hr
      · rw [hdec] at hd
        cases hd
  · obtain ⟨⟨hl, -⟩ | ⟨h, behind, ht, hcases⟩, -⟩ := readFrameUpTo_agrees rfl hs 0
    · exact absurd hl hlen
    · rw [htake] at ht
      cases ht
      rcases hcases with ⟨-, hr⟩ | ⟨hl, -⟩ | ⟨hl, -⟩
      · exact hr
      · exact absurd hl (by decide)
      · exact absurd hl (by decide)

end Session

end Http2
