import Http2.Frame.Wire

/-!
Frames and their bytes. The decoder takes a whole frame off the front and leaves what follows
alone, so it cuts a run of whole frames at the right places; what was encoded comes back, but for
the kind, which is then the one that its byte names.
-/

namespace Http2.Frame

/-! ### Headers -/

theorem Header.take?_append {bs rest : Bytes} {h : Header} (e : take? bs = some (h, rest))
    (more : Bytes) : take? (bs ++ more) = some (h, rest ++ more) := by
  unfold take? at e
  split at e
  · cases e
    rfl
  · cases e

theorem Header.take?_take {bs rest : Bytes} {h : Header} (e : take? bs = some (h, rest)) :
    take? (bs.take headerSize) = some (h, []) := by
  unfold take? at e
  split at e
  · cases e
    rfl
  · cases e

theorem Header.drop_of_take? {bs rest : Bytes} {h : Header} (e : take? bs = some (h, rest)) :
    bs.drop headerSize = rest := by
  unfold take? at e
  split at e
  · cases e
    rfl
  · cases e

/-- A header with values in range is read as it was written, with the kind of its byte. -/
theorem Header.take?_encode {h : Header} (hl : h.length ≤ maxPayload)
    (hs : h.streamId ≤ maxStreamId) (rest : Bytes) :
    take? (h.encode ++ rest) = some ({ h with kind := .ofByte h.kind.toByte }, rest) := by
  have h₃ : Bytes.toNat (Bytes.ofNat 3 h.length) = h.length := by
    rw [Bytes.toNat_ofNat]
    simp only [maxPayload] at hl
    omega
  have h₄ : Bytes.toNat (Bytes.ofNat 4 (h.streamId % 2 ^ 31)) % 2 ^ 31 = h.streamId := by
    rw [Bytes.toNat_ofNat]
    simp only [maxStreamId] at hs
    omega
  simp only [Bytes.ofNat, List.nil_append, List.cons_append] at h₃ h₄
  simp only [encode, Bytes.ofNat, List.nil_append, List.cons_append, take?, h₃, h₄]

/-! ### Frames -/

/-- The frame that a peer reads: of a kind that names another one's byte, the other one. -/
def onWire (f : Frame) : Frame :=
  { f with kind := .ofByte f.kind.toByte }

theorem onWire_of_ofByte {f : Frame} (h : Kind.ofByte f.kind.toByte = f.kind) : f.onWire = f := by
  unfold onWire
  rw [h]

@[simp] theorem onWire_onWire (f : Frame) : f.onWire.onWire = f.onWire :=
  onWire_of_ofByte (by rw [onWire, Kind.toByte_ofByte])

@[simp] theorem encode_onWire (f : Frame) : f.onWire.encode = f.encode := by
  simp [encode, header, onWire, Header.encode]

theorem decode?_eq_some_iff {bs rest : Bytes} {f : Frame} :
    decode? bs = some (f, rest) ↔ Header.take? bs = some (f.header, f.payload ++ rest) := by
  unfold decode?
  constructor
  · intro h
    split at h
    · cases h
    · next hd r e =>
      split at h
      · next hl =>
        cases h
        refine e.trans ?_
        simp only [ofHeader, header, hl, List.take_append_drop]
      · cases h
  · intro h
    obtain ⟨kind, flags, streamId, payload, hp, hs⟩ := f
    have ht : (payload ++ rest).take payload.length = payload := List.take_left' rfl
    have hd : (payload ++ rest).drop payload.length = rest := List.drop_left' rfl
    split
    · next e =>
      rw [e] at h
      cases h
    · next hd' r e =>
      rw [e] at h
      cases h
      simp only [header, ht, hd, ofHeader, dite_true]

theorem decode?_append {bs rest : Bytes} {f : Frame} (h : decode? bs = some (f, rest))
    (more : Bytes) : decode? (bs ++ more) = some (f, rest ++ more) := by
  rw [decode?_eq_some_iff] at h ⊢
  rw [Header.take?_append h, List.append_assoc]

/-- **What was encoded is decoded**, and what follows is left alone. -/
theorem decode?_encode (f : Frame) (rest : Bytes) :
    decode? (f.encode ++ rest) = some (f.onWire, rest) := by
  rw [decode?_eq_some_iff, encode, List.append_assoc]
  exact Header.take?_encode (h := f.header) f.payload_le f.streamId_le _

/-! ### Runs of frames -/

@[simp] theorem decodeAll_nil : decodeAll [] = ([], []) := by
  rw [decodeAll]
  rfl

theorem decodeAll_of_decode? {bs rest : Bytes} {f : Frame} (h : decode? bs = some (f, rest)) :
    decodeAll bs = (f :: (decodeAll rest).1, (decodeAll rest).2) := by
  rw [decodeAll]
  split
  · next e =>
    rw [h] at e
    cases e
  · next e =>
    rw [h] at e
    cases e
    rfl

theorem decodeAll_of_whole {bs : Bytes} {f : Frame} (h : decode? bs = some (f, [])) :
    decodeAll bs = ([f], []) := by
  rw [decodeAll_of_decode? h, decodeAll_nil]

/-- Behind whole frames decoding begins anew. -/
theorem decodeAll_append {a : Bytes} (h : (decodeAll a).2 = []) (b : Bytes) :
    decodeAll (a ++ b) = ((decodeAll a).1 ++ (decodeAll b).1, (decodeAll b).2) := by
  fun_induction decodeAll a with
  | case1 a e =>
    -- nothing whole is at the front, so there is nothing
    simp only at h
    rw [h]
    simp
  | case2 a f rest e _ fs left hr ih =>
    simp only at h
    rw [hr] at ih
    rw [decodeAll_of_decode? (decode?_append e b), ih h]
    rfl

/-- **A run of encoded frames** is decoded to these frames, and nothing is left. -/
theorem decodeAll_flatMap_encode (fs : List Frame) :
    decodeAll (fs.flatMap encode) = (fs.map onWire, []) := by
  induction fs with
  | nil => simp
  | cons f fs ih =>
    rw [List.flatMap_cons, decodeAll_of_decode? (decode?_encode f _), ih, List.map_cons]

end Http2.Frame
