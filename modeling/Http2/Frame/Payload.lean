import Http2.Frame.Basic

/-!
The payloads of the frames that a client looks into.
-/

namespace Http2.Frame

def expectKind (f : Frame) (kind : Kind) : Except Error Unit :=
  if f.kind = kind then .ok () else .error (.protocol (.kind kind f.kind))

/-- The payload without its padding: a padded one begins with the number of padding bytes at its
end, and that first byte counts as part of the payload. -/
def unpadded (f : Frame) : Except Error Bytes :=
  if f.flags.padded then
    match f.payload with
    | [] => .error (.frameSize (.noPadLength f.kind))
    | pad :: rest =>
      if f.payload.length ≤ pad.toNat then
        .error (.protocol (.padding f.kind pad.toNat f.payload.length))
      else .ok (rest.take (rest.length - pad.toNat))
  else .ok f.payload

/-! ### DATA -/

structure Data where
  streamId : Nat
  bytes : Bytes
  endStream : Bool
  deriving DecidableEq, Repr

def Data.parse (f : Frame) : Except Error Data := do
  f.expectKind .data
  let bytes ← f.unpadded
  return ⟨f.streamId, bytes, f.flags.endStream⟩

/-! ### HEADERS -/

/-- A HEADERS frame, with the part of the header block that it carries. -/
structure Headers where
  streamId : Nat
  block : Bytes
  endStream : Bool
  endHeaders : Bool
  deriving DecidableEq, Repr

/-- The number of bytes that a stream's dependency and weight take. -/
def prioritySize : Nat := 5

/-- The content of a HEADERS frame without the priority fields. -/
def withoutPriority (f : Frame) (content : Bytes) : Except Error Bytes :=
  if f.flags.priority then
    if content.length < prioritySize then .error (.frameSize .shortPriority)
    else .ok (content.drop prioritySize)
  else .ok content

def Headers.parse (f : Frame) : Except Error Headers := do
  f.expectKind .headers
  let content ← f.unpadded
  let block ← f.withoutPriority content
  return ⟨f.streamId, block, f.flags.endStream, f.flags.endHeaders⟩

/-! ### RST_STREAM -/

structure RstStream where
  streamId : Nat
  code : ErrorCode
  deriving DecidableEq, Repr

def RstStream.parse (f : Frame) : Except Error RstStream := do
  f.expectKind .rstStream
  if f.payload.length = 4 then return ⟨f.streamId, .ofNat (Bytes.toNat f.payload)⟩
  else throw (.frameSize (.payload .rstStream 4 f.payload.length))

/-! ### PING -/

structure Ping where
  ack : Bool
  bytes : Bytes
  length_eq : bytes.length = 8
  deriving DecidableEq, Repr

def Ping.parse (f : Frame) : Except Error Ping := do
  f.expectKind .ping
  if f.streamId = 0 then
    if h : f.payload.length = 8 then return ⟨f.flags.ack, f.payload, h⟩
    else throw (.frameSize (.payload .ping 8 f.payload.length))
  else throw (.protocol .pingStream)

/-- The acknowledgement of a PING, with the same eight bytes. -/
def Ping.reply (p : Ping) : Frame where
  kind := .ping
  flags := ⟨Flags.ackBit⟩
  streamId := 0
  payload := p.bytes
  payload_le := by rw [p.length_eq]; decide
  streamId_le := Nat.zero_le maxStreamId

/-! ### GOAWAY -/

structure Goaway where
  lastStream : Nat
  code : ErrorCode
  debug : Bytes
  deriving DecidableEq, Repr

def Goaway.parse (f : Frame) : Except Error Goaway := do
  f.expectKind .goaway
  if f.payload.length < 8 then throw (.frameSize (.shortGoaway f.payload.length))
  else
    return { lastStream := Bytes.toNat (f.payload.take 4) % 2 ^ 31
             code := .ofNat (Bytes.toNat ((f.payload.drop 4).take 4))
             debug := f.payload.drop 8 }

/-! ### WINDOW_UPDATE -/

structure WindowUpdate where
  streamId : Nat
  increment : Nat
  deriving DecidableEq, Repr

def WindowUpdate.parse (f : Frame) : Except Error WindowUpdate := do
  f.expectKind .windowUpdate
  if f.payload.length = 4 then return ⟨f.streamId, Bytes.toNat f.payload % 2 ^ 31⟩
  else throw (.frameSize (.payload .windowUpdate 4 f.payload.length))

end Http2.Frame
