import Http2.Proofs.Frame.RoundTrip

/-!
The codec of frames in both directions. Decoding is the inverse of encoding on whole frames, with
whatever follows them; nothing is decoded from less than a whole frame; and what is decoded from
any bytes is encoded as these bytes again, but for the reserved bit of the stream identifier.
-/

namespace Http2.Frame

/-! ### The reserved bit -/

/-- The bytes of a frame with the reserved bit, the top bit of byte 5, cleared. -/
def clearReserved (bs : Bytes) : Bytes :=
  bs.modify 5 (· &&& 0x7F)

theorem toNat_and_0x7F (b : UInt8) : (b &&& 0x7F).toNat = b.toNat % 128 := by
  rw [UInt8.toNat_and]
  exact Nat.and_two_pow_sub_one_eq_mod b.toNat 7

theorem ofNat_toNat_mod (s₃ s₂ s₁ s₀ : UInt8) :
    Bytes.ofNat 4 (Bytes.toNat [s₃, s₂, s₁, s₀] % 2 ^ 31) = [s₃ &&& 0x7F, s₂, s₁, s₀] := by
  have hlow : Bytes.toNat [s₃ &&& 0x7F, s₂, s₁, s₀] = Bytes.toNat [s₃, s₂, s₁, s₀] % 2 ^ 31 := by
    have h₂ : s₂.toNat < 256 := s₂.toNat_lt
    have h₁ : s₁.toNat < 256 := s₁.toNat_lt
    have h₀ : s₀.toNat < 256 := s₀.toNat_lt
    simp only [Bytes.toNat, List.foldl_cons, List.foldl_nil, toNat_and_0x7F]
    omega
  rw [← hlow]
  exact Bytes.ofNat_toNat [s₃ &&& 0x7F, s₂, s₁, s₀]

/-- A header that was read is written as the bytes it was read from, the reserved bit cleared. -/
theorem Header.clearReserved_of_take? {bs rest : Bytes} {h : Header}
    (e : take? bs = some (h, rest)) : clearReserved bs = h.encode ++ rest := by
  unfold take? at e
  split at e
  · next l₂ l₁ l₀ k fl s₃ s₂ s₁ s₀ r =>
    cases e
    have hlen : Bytes.ofNat 3 (Bytes.toNat [l₂, l₁, l₀]) = [l₂, l₁, l₀] :=
      Bytes.ofNat_toNat [l₂, l₁, l₀]
    simp only [encode, hlen, Nat.mod_mod, ofNat_toNat_mod, Kind.toByte_ofByte]
    rfl
  · cases e

/-! ### Whole frames and less -/

theorem decode?_eq_none_iff {bs : Bytes} :
    decode? bs = none ↔ ∀ h rest, Header.take? bs = some (h, rest) → rest.length < h.length := by
  unfold decode?
  split
  · next e => simp [e]
  · next h r e =>
    have hlen : (r.take h.length).length = h.length ↔ ¬ r.length < h.length := by
      rw [List.length_take]
      omega
    split
    · next hl =>
      simp only [reduceCtorEq, false_iff]
      exact fun hall => hlen.1 hl (hall h r e)
    · next hl =>
      simp only [true_iff]
      intro h' r' e'
      rw [e] at e'
      cases e'
      exact Decidable.of_not_not fun hn => hl (hlen.2 hn)

/-- The frame that is decoded is the one that `make` gives for the parts that its header names, so
no header is refused. -/
theorem make_of_decode? {bs rest : Bytes} {f : Frame} (hd : decode? bs = some (f, rest)) :
    ∃ h behind, Header.take? bs = some (h, behind) ∧
      make h.kind h.flags h.streamId (behind.take h.length) = .ok f := by
  refine ⟨f.header, f.payload ++ rest, decode?_eq_some_iff.1 hd, ?_⟩
  exact make_eq_ok_iff.2 ⟨rfl, rfl, rfl, (List.take_left' rfl).symm⟩

/-- **A proper beginning of a frame** is no frame. -/
theorem decode?_of_isPrefix {f : Frame} {p : Bytes} (hp : p <+: f.encode) (hne : p ≠ f.encode) :
    decode? p = none := by
  obtain ⟨more, hmore⟩ := hp
  cases hd : decode? p with
  | none => rfl
  | some found =>
    obtain ⟨g, rest⟩ := found
    -- the same frame is found with the other bytes behind it, and there nothing is left
    have hwhole := decode?_encode f []
    rw [List.append_nil, ← hmore, decode?_append hd more, Option.some.injEq, Prod.mk.injEq] at hwhole
    obtain ⟨-, hnil⟩ := List.append_eq_nil_iff.1 hwhole.2
    rw [hnil, List.append_nil] at hmore
    exact absurd hmore hne

/-- **What was decoded is encoded** as the bytes that it took, the reserved bit cleared. -/
theorem encode_of_decode? {bs rest : Bytes} {f : Frame} (hd : decode? bs = some (f, rest)) :
    f.encode = clearReserved (bs.take f.size) ∧ rest = bs.drop f.size := by
  have htake := decode?_eq_some_iff.1 hd
  have hclear : clearReserved bs = f.encode ++ rest := by
    rw [Header.clearReserved_of_take? htake, encode, List.append_assoc]
  have hsize : f.size = headerSize + f.payload.length := rfl
  constructor
  · rw [clearReserved, ← List.take_modify, ← clearReserved, hclear, ← length_encode,
      List.take_left' rfl]
  · rw [hsize, ← List.drop_drop, Header.drop_of_take? htake, List.drop_left' rfl]

/-! ### Parts -/

theorem Kind.ofByte_toByte_eq_iff {k : Kind} :
    ofByte k.toByte = k ↔ ∀ byte, k = unknown byte → 10 ≤ byte.toNat := by
  cases k with
  | unknown byte =>
    simp only [toByte, unknown.injEq, forall_eq']
    unfold ofByte
    split <;> simp_all
    omega
  | _ => simp [toByte, ofByte]

theorem onWire_eq_iff {f : Frame} :
    f.onWire = f ↔ ∀ byte, f.kind = .unknown byte → 10 ≤ byte.toNat := by
  rw [← Kind.ofByte_toByte_eq_iff]
  exact ⟨fun h => congrArg kind h, onWire_of_ofByte⟩

theorem encodeParts_eq (kind : Kind) (flags : Flags) (streamId : Nat) (payload : Bytes) :
    encodeParts kind flags streamId payload = (make kind flags streamId payload).map encode := by
  unfold encodeParts make
  split
  · split <;> rfl
  · rfl

theorem make_cases (kind : Kind) (flags : Flags) (streamId : Nat) (payload : Bytes) :
    (2 ^ 24 - 1 < payload.length ∧
      make kind flags streamId payload = .error (.payloadTooLarge payload.length)) ∨
    (payload.length ≤ 2 ^ 24 - 1 ∧ 2 ^ 31 - 1 < streamId ∧
      make kind flags streamId payload = .error (.streamIdOverflow streamId)) ∨
    (payload.length ≤ 2 ^ 24 - 1 ∧ streamId ≤ 2 ^ 31 - 1 ∧
      ∃ f, make kind flags streamId payload = .ok f) := by
  unfold make
  split
  · next hp =>
    split
    · next hs => exact .inr (.inr ⟨hp, hs, _, rfl⟩)
    · next hs => exact .inr (.inl ⟨hp, Nat.lt_of_not_le hs, rfl⟩)
  · next hp => exact .inl ⟨Nat.lt_of_not_le hp, rfl⟩

/-! ### Both directions -/

/-- **The codec in both directions.** A frame with any bytes behind it is decoded with the payload,
flags and stream that were encoded and the kind that its byte names, in nine bytes and its payload;
from a proper beginning of its bytes nothing is decoded. From any bytes either nothing is decoded,
as the header or the payload that it says is not all there, or a frame that `make` gives for what
the header says and that is encoded as the bytes it took, the reserved bit cleared. Parts are
encoded as the frame that is made of them, and refused with the same error: for a payload of more
than `2 ^ 24 - 1` bytes, and else for a stream above `2 ^ 31 - 1`. So a run of frames is decoded
to these frames and leaves nothing over. -/
theorem codec_roundTrip :
    (∀ (f : Frame) (rest : Bytes),
      decode? (f.encode ++ rest) = some (f.onWire, rest) ∧
      f.encode.length = 9 + f.payload.length ∧
      f.onWire.flags = f.flags ∧ f.onWire.streamId = f.streamId ∧
      f.onWire.payload = f.payload ∧ f.onWire.kind = .ofByte f.kind.toByte ∧
      (f.onWire = f ↔ ∀ byte, f.kind = .unknown byte → 10 ≤ byte.toNat) ∧
      ∀ p, p <+: f.encode → p ≠ f.encode → decode? p = none) ∧
    (∀ bs : Bytes,
      (decode? bs = none ∧
        ∀ h rest, Header.take? bs = some (h, rest) → rest.length < h.length) ∨
      ∃ h behind f rest, Header.take? bs = some (h, behind) ∧
        make h.kind h.flags h.streamId (behind.take h.length) = .ok f ∧
        decode? bs = some (f, rest) ∧
        bs.length = 9 + f.payload.length + rest.length ∧
        rest = bs.drop (9 + f.payload.length) ∧
        f.encode = clearReserved (bs.take (9 + f.payload.length))) ∧
    (∀ (kind : Kind) (flags : Flags) (streamId : Nat) (payload : Bytes),
      encodeParts kind flags streamId payload =
        (make kind flags streamId payload).map encode ∧
      ((2 ^ 24 - 1 < payload.length ∧
        make kind flags streamId payload = .error (.payloadTooLarge payload.length)) ∨
      (payload.length ≤ 2 ^ 24 - 1 ∧ 2 ^ 31 - 1 < streamId ∧
        make kind flags streamId payload = .error (.streamIdOverflow streamId)) ∨
      (payload.length ≤ 2 ^ 24 - 1 ∧ streamId ≤ 2 ^ 31 - 1 ∧
        ∃ f, make kind flags streamId payload = .ok f))) ∧
    ∀ fs : List Frame, decodeAll (fs.flatMap encode) = (fs.map onWire, []) := by
  refine ⟨fun f rest => ?_, fun bs => ?_, fun kind flags streamId payload => ?_,
    decodeAll_flatMap_encode⟩
  · exact ⟨decode?_encode f rest, length_encode f, rfl, rfl, rfl, rfl, onWire_eq_iff,
      fun p hp hne => decode?_of_isPrefix hp hne⟩
  · cases hd : decode? bs with
    | none => exact .inl ⟨rfl, decode?_eq_none_iff.1 hd⟩
    | some found =>
      obtain ⟨f, rest⟩ := found
      obtain ⟨h, behind, htake, hmake⟩ := make_of_decode? hd
      have hlen : bs.length = f.size + rest.length := length_of_decode? hd
      obtain ⟨henc, hrest⟩ := encode_of_decode? hd
      exact .inr ⟨h, behind, f, rest, htake, hmake, rfl, hlen, hrest, henc⟩
  · exact ⟨encodeParts_eq kind flags streamId payload, make_cases kind flags streamId payload⟩

def extension : Frame :=
  ⟨.unknown 0xbb, ⟨0x1⟩, 3, [104, 105], by decide, by decide⟩

/-- It comes back as it was, also where the reserved bit was set on the way, and nothing comes of
its first ten bytes; a payload of no bytes is refused on a stream of 32 bits. -/
theorem codec_roundTrip_extension :
    decode? (extension.encode ++ [7]) = some (extension, [7]) ∧
    decode? (extension.encode.take 10) = none ∧
    decode? [0, 0, 2, 0xbb, 0x1, 0x80, 0, 0, 3, 104, 105, 7] = some (extension, [7]) ∧
    extension.encode = clearReserved [0, 0, 2, 0xbb, 0x1, 0x80, 0, 0, 3, 104, 105] ∧
    encodeParts .data .empty (2 ^ 31) [] = .error (.streamIdOverflow (2 ^ 31)) := by
  obtain ⟨hforth, hback, hparts, -⟩ := codec_roundTrip
  obtain ⟨hdec, -, -, -, -, -, hkind, hless⟩ := hforth extension [7]
  have hsame : extension.onWire = extension := by
    refine hkind.2 fun byte hb => ?_
    obtain rfl : (0xbb : UInt8) = byte := Kind.unknown.inj hb
    decide
  have hshort : decode? (extension.encode.take 10) = none :=
    hless _ (List.take_prefix 10 extension.encode) (by decide)
  have hset : decode? [0, 0, 2, 0xbb, 0x1, 0x80, 0, 0, 3, 104, 105, 7] =
      some (extension, [7]) := by cbv
  rw [hsame] at hdec
  refine ⟨hdec, hshort, hset, ?_, ?_⟩
  · rcases hback [0, 0, 2, 0xbb, 0x1, 0x80, 0, 0, 3, 104, 105, 7] with ⟨hnone, -⟩ |
      ⟨h, behind, f, rest, -, -, hsome, -, -, henc⟩
    · rw [hset] at hnone
      cases hnone
    · rw [hset] at hsome
      cases hsome
      exact henc
  · obtain ⟨heq, ⟨hlong, -⟩ | ⟨-, -, herr⟩ | ⟨-, hfits, -⟩⟩ := hparts .data .empty (2 ^ 31) []
    · exact absurd hlong (by decide)
    · rw [heq, herr]
      rfl
    · exact absurd hfits (by decide)

end Http2.Frame
