import Http2.Proofs.Frame.Content

/-!
Padding and its removal. Main statement: a padded payload is read exactly if it is a content behind
the number of padding bytes and in front of that many bytes, whatever they are; then the content is
read, without the priority fields if there are any, and no slice is cut out of range.
-/

namespace Http2

/-- The bytes from `first` up to `last`; none if these are out of order or reach past the end. -/
def Bytes.slice? (bs : Bytes) (first last : Nat) : Option Bytes :=
  if first ≤ last ∧ last ≤ bs.length then some ((bs.take last).drop first) else none

namespace Frame

variable {f : Frame} {c : Bytes}

/-! ### The content -/

/-- The frame carries a content: as its payload or, if it is padded, behind the number of padding
bytes and in front of these. -/
def Carries (f : Frame) (c : Bytes) : Prop :=
  if f.flags.padded then ∃ k z, f.payload = k :: (c ++ z) ∧ z.length = k.toNat else f.payload = c

theorem carries_of_padded (hp : f.flags.padded = true) :
    f.Carries c ↔ ∃ k z, f.payload = k :: (c ++ z) ∧ z.length = k.toNat := by
  rw [Carries, if_pos hp]

theorem take_eq_iff_exists_append {bs : Bytes} {n : Nat} (hn : n ≤ bs.length) :
    bs.take (bs.length - n) = c ↔ ∃ z, bs = c ++ z ∧ z.length = n := by
  constructor
  · rintro rfl
    refine ⟨bs.drop (bs.length - n), (List.take_append_drop _ _).symm, ?_⟩
    rw [List.length_drop]
    omega
  · rintro ⟨z, rfl, rfl⟩
    rw [List.length_append, Nat.add_sub_cancel, List.take_left]

/-- **Padding is removed** exactly where it was put around a content. -/
theorem unpadded_eq_ok_iff : f.unpadded = .ok c ↔ f.Carries c := by
  by_cases hp : f.flags.padded = true
  · rw [carries_of_padded hp, unpadded, if_pos hp]
    split
    · next heq => simp [heq]
    · next k rest heq =>
      simp only [heq, List.cons.injEq, List.length_cons]
      split
      · next hlong =>
        constructor
        · intro h
          cases h
        · rintro ⟨k', z, ⟨rfl, rfl⟩, hz⟩
          rw [List.length_append] at hlong
          omega
      · next hfits =>
        rw [Except.ok.injEq, take_eq_iff_exists_append (by omega)]
        constructor
        · rintro ⟨z, hrest, hz⟩
          exact ⟨k, z, ⟨rfl, hrest⟩, hz⟩
        · rintro ⟨k', z, ⟨rfl, hrest⟩, hz⟩
          exact ⟨z, hrest, hz⟩
  · rw [Carries, unpadded, if_neg hp, if_neg hp, Except.ok.injEq]

theorem unpadded_eq_error_iff {e : Error} : f.unpadded = .error e ↔ f.flags.padded = true ∧
    (f.payload = [] ∧ e = .frameSize (.noPadLength f.kind) ∨
      ∃ k rest, f.payload = k :: rest ∧ f.payload.length ≤ k.toNat ∧
        e = .protocol (.padding f.kind k.toNat f.payload.length)) := by
  by_cases hp : f.flags.padded = true
  · rw [unpadded, if_pos hp, and_iff_right hp]
    split
    · next heq => simp [heq, eq_comm]
    · next k rest heq =>
      simp only [heq, List.cons.injEq, List.length_cons]
      split
      · next hlong =>
        simp only [Except.error.injEq]
        constructor
        · rintro rfl
          exact .inr ⟨k, rest, ⟨rfl, rfl⟩, hlong, rfl⟩
        · rintro (⟨h, -⟩ | ⟨k', rest', ⟨rfl, rfl⟩, -, rfl⟩)
          · cases h
          · rfl
      · next hfits =>
        constructor
        · intro h
          cases h
        · rintro (⟨h, -⟩ | ⟨k', rest', ⟨rfl, rfl⟩, hlong, -⟩)
          · cases h
          · exact absurd hlong hfits
  · rw [unpadded, if_neg hp]
    simp [hp]

/-- The content is a slice of the payload, and its bounds are in range. -/
theorem slice?_of_unpadded (hp : f.flags.padded = true) (h : f.unpadded = .ok c) :
    ∃ k rest, f.payload = k :: rest ∧ k.toNat ≤ f.payload.length ∧
      f.payload.slice? 1 (f.payload.length - k.toNat) = some c := by
  obtain ⟨k, z, hpayload, hz⟩ := (carries_of_padded hp).1 (unpadded_eq_ok_iff.1 h)
  have hlen : f.payload.length = c.length + 1 + k.toNat := by
    rw [hpayload, List.length_cons, List.length_append, hz]
    omega
  refine ⟨k, c ++ z, hpayload, by omega, ?_⟩
  rw [Bytes.slice?, if_pos (by omega), hlen, Nat.add_sub_cancel, hpayload, List.take_succ_cons,
    List.take_left]
  rfl

/-! ### The header block -/

theorem withoutPriority_of_priority (hprio : f.flags.priority = true) (c : Bytes) :
    f.withoutPriority c =
      if c.length < prioritySize then .error (.frameSize .shortPriority)
      else .ok (c.drop prioritySize) := by
  rw [withoutPriority, if_pos hprio]

theorem slice?_of_withoutPriority {block : Bytes} (hprio : f.flags.priority = true)
    (h : f.withoutPriority c = .ok block) : c.slice? prioritySize c.length = some block := by
  rw [withoutPriority_of_priority hprio] at h
  split at h
  · cases h
  · next hlen =>
    cases h
    rw [Bytes.slice?, if_pos ⟨Nat.le_of_not_lt hlen, Nat.le_refl _⟩, List.take_length]

/-- A header block comes back from behind any priority fields and any padding. -/
theorem Headers.parse_make {flags : Flags} {id : Nat} {k : UInt8} {r c z : Bytes}
    (hp : flags.padded = true) (hprio : flags.priority = true) (hr : r.length = prioritySize)
    (hz : z.length = k.toNat) (hl : (k :: (r ++ c ++ z)).length ≤ maxPayload)
    (hid : id ≤ maxStreamId) :
    ∃ g, make .headers flags id (k :: (r ++ c ++ z)) = .ok g ∧
      Headers.parse g = .ok ⟨id, c, flags.endStream, flags.endHeaders⟩ := by
  let g : Frame := ⟨.headers, flags, id, k :: (r ++ c ++ z), hl, hid⟩
  have hunpadded : g.unpadded = .ok (r ++ c) :=
    unpadded_eq_ok_iff.2 ((carries_of_padded hp).2 ⟨k, z, rfl, hz⟩)
  have hblock : g.withoutPriority (r ++ c) = .ok c := by
    have hlen : ¬ (r ++ c).length < prioritySize := by
      rw [List.length_append, hr]
      omega
    rw [withoutPriority_of_priority hprio, if_neg hlen, List.drop_left' hr]
  refine ⟨g, make_eq_ok_iff.2 ⟨rfl, rfl, rfl, rfl⟩, ?_⟩
  rw [parse_eq_bind rfl, hunpadded, Except.bind, hblock]
  rfl

/-- **Removing padding undoes it.** A padded payload is read exactly if it is a content between the
number of padding bytes and these bytes, and otherwise refused for its size if it is empty and as a
breach if the padding leaves no room for itself; one that is not padded is the content. A DATA frame
gives the content; a HEADERS frame gives it without the five bytes of the priority fields, if it has
them, and is refused for its size if it is shorter. Every slice on the way is in range, and a header
block is read from behind any priority fields and any padding. -/
theorem parse_undoes_padding (f : Frame) :
    (∀ c, f.unpadded = .ok c ↔ f.Carries c) ∧
    (∀ e, f.unpadded = .error e ↔ f.flags.padded = true ∧
      (f.payload = [] ∧ e = .frameSize (.noPadLength f.kind) ∨
        ∃ k rest, f.payload = k :: rest ∧ f.payload.length ≤ k.toNat ∧
          e = .protocol (.padding f.kind k.toNat f.payload.length))) ∧
    (f.kind = .data →
      Data.parse f = f.unpadded.map fun c => ⟨f.streamId, c, f.flags.endStream⟩) ∧
    (f.kind = .headers →
      (∀ e, f.unpadded = .error e → Headers.parse f = .error e) ∧
      ∀ c, f.unpadded = .ok c → Headers.parse f =
        if f.flags.priority then
          if c.length < 5 then .error (.frameSize .shortPriority)
          else .ok ⟨f.streamId, c.drop 5, f.flags.endStream, f.flags.endHeaders⟩
        else .ok ⟨f.streamId, c, f.flags.endStream, f.flags.endHeaders⟩) ∧
    (f.flags.padded = true → ∀ c, f.unpadded = .ok c →
      ∃ k rest, f.payload = k :: rest ∧ k.toNat ≤ f.payload.length ∧
        f.payload.slice? 1 (f.payload.length - k.toNat) = some c) ∧
    (f.flags.priority = true → ∀ c block, f.withoutPriority c = .ok block →
      c.slice? 5 c.length = some block) ∧
    ∀ (flags : Flags) (id : Nat) (k : UInt8) (r c z : Bytes), flags.padded = true →
      flags.priority = true → r.length = 5 → z.length = k.toNat →
      (k :: (r ++ c ++ z)).length ≤ maxPayload → id ≤ maxStreamId →
      ∃ g, make .headers flags id (k :: (r ++ c ++ z)) = .ok g ∧
        Headers.parse g = .ok ⟨id, c, flags.endStream, flags.endHeaders⟩ := by
  refine ⟨fun c => unpadded_eq_ok_iff, fun e => unpadded_eq_error_iff, Data.parse_eq_map,
    fun hk => ⟨fun e he => ?_, fun c hc => ?_⟩, fun hp c => slice?_of_unpadded hp,
    fun hprio c block => slice?_of_withoutPriority hprio,
    fun flags id k r c z hp hprio hr hz => Headers.parse_make hp hprio hr hz⟩
  · rw [Headers.parse_eq_bind hk, he]
    rfl
  · rw [Headers.parse_eq_bind hk, hc, Except.bind, withoutPriority]
    split
    · change Except.map _ (if c.length < 5 then _ else _) = _
      split <;> rfl
    · rfl

-- the priority fields and the padding fill the payload exactly; with a byte less they do not fit
example : ((make .headers ⟨Flags.paddedBit ||| Flags.priorityBit⟩ 1 [2, 0, 0, 0, 3, 16, 7, 7]).bind
    Headers.parse) = .ok ⟨1, [], false, false⟩ := rfl

example : ((make .headers ⟨Flags.paddedBit ||| Flags.priorityBit⟩ 1 [2, 0, 0, 0, 3, 7, 7]).bind
    Headers.parse) = .error (.frameSize .shortPriority) := rfl

end Frame

end Http2
