import Http2.Error

/-!
Frames. A frame exists only with a payload that a 24-bit length can describe and a stream identifier
of 31 bits, so every frame has a form on the wire. What a flag bit means depends on the kind: `0x1`
ends the stream on DATA and HEADERS and acknowledges on SETTINGS and PING.
-/

namespace Http2

/-! ### Flags -/

namespace Frame

structure Flags where
  bits : UInt8
  deriving DecidableEq, Repr

namespace Flags

def empty : Flags := ⟨0⟩

/-- END_STREAM, on DATA and HEADERS. -/
def endStreamBit : UInt8 := 0x1

/-- ACK, on SETTINGS and PING. -/
def ackBit : UInt8 := 0x1

def endHeadersBit : UInt8 := 0x4

def paddedBit : UInt8 := 0x8

def priorityBit : UInt8 := 0x20

/-- The flags with the bits of `flag` added. -/
def set (f : Flags) (flag : UInt8) : Flags := ⟨f.bits ||| flag⟩

def union (f g : Flags) : Flags := ⟨f.bits ||| g.bits⟩

/-- Whether any bit of `flag` is set. -/
def isSet (f : Flags) (flag : UInt8) : Bool := f.bits &&& flag != 0

def endStream (f : Flags) : Bool := f.isSet endStreamBit

def ack (f : Flags) : Bool := f.isSet ackBit

def endHeaders (f : Flags) : Bool := f.isSet endHeadersBit

def padded (f : Flags) : Bool := f.isSet paddedBit

def priority (f : Flags) : Bool := f.isSet priorityBit

end Flags

end Frame

/-! ### Frames -/

/-- The longest payload of a frame. -/
def maxPayload : Nat := 0xFFFFFF

def maxStreamId : Nat := 0x7FFFFFFF

/-- A frame. Stream 0 stands for the connection. -/
structure Frame where
  kind : Frame.Kind
  flags : Frame.Flags
  streamId : Nat
  payload : Bytes
  payload_le : payload.length ≤ maxPayload
  streamId_le : streamId ≤ maxStreamId
  deriving DecidableEq, Repr

namespace Frame

/-- A frame of the given parts; the payload is checked before the stream. -/
def make (kind : Kind) (flags : Flags) (streamId : Nat) (payload : Bytes) : Except Error Frame :=
  if hp : payload.length ≤ maxPayload then
    if hs : streamId ≤ maxStreamId then .ok ⟨kind, flags, streamId, payload, hp, hs⟩
    else .error (.streamIdOverflow streamId)
  else .error (.payloadTooLarge payload.length)

/-- END_STREAM is set on a frame of a kind that has this flag. -/
def endsStream (f : Frame) : Bool :=
  match f.kind with
  | .data | .headers => f.flags.endStream
  | _ => false

def summary (f : Frame) : String :=
  let flags := Text.hexByte f.flags.bits
  s!"{f.kind.name} stream={f.streamId} flags=0x{flags} length={f.payload.length}"

/-- The empty SETTINGS frame that a client begins with. -/
def initialSettings : Frame where
  kind := .settings
  flags := .empty
  streamId := 0
  payload := []
  payload_le := by decide
  streamId_le := by decide

/-- The acknowledgement of a SETTINGS frame. -/
def settingsAck : Frame where
  kind := .settings
  flags := ⟨Flags.ackBit⟩
  streamId := 0
  payload := []
  payload_le := by decide
  streamId_le := by decide

theorem make_eq_ok_iff {kind : Kind} {flags : Flags} {streamId : Nat} {payload : Bytes}
    {f : Frame} : make kind flags streamId payload = .ok f ↔
      f.kind = kind ∧ f.flags = flags ∧ f.streamId = streamId ∧ f.payload = payload := by
  obtain ⟨k, fl, s, p, hp, hs⟩ := f
  unfold make
  split
  · split
    · simp only [Except.ok.injEq, mk.injEq]
      constructor <;> (rintro ⟨rfl, rfl, rfl, rfl⟩; exact ⟨rfl, rfl, rfl, rfl⟩)
    · simp only [reduceCtorEq, false_iff]
      rintro ⟨-, -, rfl, -⟩
      contradiction
  · simp only [reduceCtorEq, false_iff]
    rintro ⟨-, -, -, rfl⟩
    contradiction

end Frame

end Http2
