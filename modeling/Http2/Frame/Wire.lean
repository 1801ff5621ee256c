import Http2.Frame.Basic

/-!
Frames as bytes: nine bytes of header, then the payload. The header holds the length in 24 bits,
the kind, the flags and the stream identifier in 31 bits below a reserved bit, which is written as
zero and ignored when read.
-/

namespace Http2.Frame

def headerSize : Nat := 9

/-- What a header says. -/
structure Header where
  length : Nat
  kind : Kind
  flags : Flags
  streamId : Nat
  deriving DecidableEq, Repr

namespace Header

/-- The nine bytes of a header: the last 24 bits of the length, the last 31 of the stream. -/
def encode (h : Header) : Bytes :=
  Bytes.ofNat 3 h.length ++ h.kind.toByte :: h.flags.bits :: Bytes.ofNat 4 (h.streamId % 2 ^ 31)

/-- The header at the front of a byte string, and the bytes after it. -/
def take? : Bytes → Option (Header × Bytes)
  | l₂ :: l₁ :: l₀ :: k :: fl :: s₃ :: s₂ :: s₁ :: s₀ :: rest =>
    some ({ length := Bytes.toNat [l₂, l₁, l₀], kind := .ofByte k, flags := ⟨fl⟩
            streamId := Bytes.toNat [s₃, s₂, s₁, s₀] % 2 ^ 31 }, rest)
  | _ => none

/-- What a header that was read can say. -/
structure Bounded (h : Header) : Prop where
  length_le : h.length ≤ maxPayload
  streamId_le : h.streamId ≤ maxStreamId

theorem bounded_of_take? {bs rest : Bytes} {h : Header} (e : take? bs = some (h, rest)) :
    h.Bounded := by
  unfold take? at e
  split at e
  · next l₂ l₁ l₀ k fl s₃ s₂ s₁ s₀ r =>
    cases e
    have hl := Bytes.toNat_lt [l₂, l₁, l₀]
    constructor
    · simp only [maxPayload]
      simp only [List.length_cons, List.length_nil] at hl
      omega
    · simp only [maxStreamId]
      omega
  · cases e

theorem length_of_take? {bs rest : Bytes} {h : Header} (e : take? bs = some (h, rest)) :
    bs.length = headerSize + rest.length := by
  unfold take? at e
  split at e
  · cases e
    simp only [List.length_cons, headerSize]
    omega
  · cases e

theorem take?_isSome {bs : Bytes} (h : headerSize ≤ bs.length) : (take? bs).isSome := by
  rcases bs with _ | ⟨_, _ | ⟨_, _ | ⟨_, _ | ⟨_, _ | ⟨_, _ | ⟨_, _ | ⟨_, _ | ⟨_, _ | ⟨_, _⟩⟩⟩⟩⟩⟩⟩⟩⟩
  all_goals simp_all [headerSize, take?]

@[simp] theorem length_encode (h : Header) : h.encode.length = headerSize := by
  simp [encode, headerSize]

end Header

def header (f : Frame) : Header :=
  ⟨f.payload.length, f.kind, f.flags, f.streamId⟩

/-- The frame of a header and a payload of the length it says. -/
def ofHeader (h : Header) (payload : Bytes) (bounded : h.Bounded)
    (length : payload.length = h.length) : Frame where
  kind := h.kind
  flags := h.flags
  streamId := h.streamId
  payload := payload
  payload_le := length ▸ bounded.length_le
  streamId_le := bounded.streamId_le

def encode (f : Frame) : Bytes :=
  f.header.encode ++ f.payload

/-- The bytes of a frame of the given parts, checked as `make` checks them. -/
def encodeParts (kind : Kind) (flags : Flags) (streamId : Nat) (payload : Bytes) :
    Except Error Bytes :=
  if payload.length ≤ maxPayload then
    if streamId ≤ maxStreamId then
      .ok (Header.encode ⟨payload.length, kind, flags, streamId⟩ ++ payload)
    else .error (.streamIdOverflow streamId)
  else .error (.payloadTooLarge payload.length)

def size (f : Frame) : Nat :=
  headerSize + f.payload.length

/-- The frame at the front of a byte string and the bytes after it, once it is there whole. -/
def decode? (bs : Bytes) : Option (Frame × Bytes) :=
  match e : Header.take? bs with
  | none => none
  | some (h, rest) =>
    if hl : (rest.take h.length).length = h.length then
      some (ofHeader h (rest.take h.length) (Header.bounded_of_take? e) hl, rest.drop h.length)
    else none

theorem length_encode (f : Frame) : f.encode.length = f.size := by
  simp [encode, size]

theorem length_of_decode? {bs rest : Bytes} {f : Frame} (e : decode? bs = some (f, rest)) :
    bs.length = f.size + rest.length := by
  unfold decode? at e
  split at e
  · cases e
  · next h r he =>
    split at e
    · next hl =>
      cases e
      have h₁ := Header.length_of_take? he
      have h₂ : (r.take h.length).length + (r.drop h.length).length = r.length := by
        rw [← List.length_append, List.take_append_drop]
      simp only [size, ofHeader]
      omega
    · cases e

/-- All the whole frames at the front of a byte string, and the bytes that are no frame yet. -/
def decodeAll (bs : Bytes) : List Frame × Bytes :=
  match e : decode? bs with
  | none => ([], bs)
  | some (f, rest) =>
    have : rest.length < bs.length := by
      have := length_of_decode? e
      simp only [size, headerSize] at this
      omega
    let (fs, left) := decodeAll rest
    (f :: fs, left)
termination_by bs.length

end Http2.Frame
