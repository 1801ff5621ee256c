import Http2.Field.Basic
import Http2.Frame.Payload
import Http2.Settings.Basic
import Http2.Stream.Registry

/-!
The client's end of a connection without its transport: what a request turns into, and what each
frame that arrives changes, answers and ends.
-/

namespace Http2

inductive Phase where
  | ready
  /-- The peer shuts down; streams up to `lastStream` may still be served. -/
  | draining (lastStream : Nat)
  | failed
  | closed
  deriving DecidableEq, Repr

/-- What a client knows on a connection. -/
structure Endpoint where
  streams : Stream.Registry := .empty
  encoder : Hpack.Table := .initial
  decoder : Hpack.Table := .initial
  /-- What the peer announced. -/
  remote : Settings := .empty
  /-- The peer acknowledged the client's settings. -/
  settingsAcked : Bool := false
  phase : Phase := .ready
  deriving DecidableEq, Repr

namespace Endpoint

/-- New requests can be sent. -/
def isReady (e : Endpoint) : Bool :=
  e.phase == .ready

def isDraining (e : Endpoint) : Bool :=
  match e.phase with
  | .draining _ => true
  | _ => false

/-! ### Requests -/

/-- The fields of a request. -/
def requestFields (method authority path : String) (extra : List Field) : List Field :=
  [(":method", method), (":scheme", "https"), (":authority", authority), (":path", path)] ++ extra

def requestFlags : Frame.Flags :=
  ⟨Frame.Flags.endStreamBit ||| Frame.Flags.endHeadersBit⟩

/-- Turns the fields of a request into its frame on a new stream. Compression comes before the
check of the block's size, so a request refused for its size has changed the table. -/
def prepare (e : Endpoint) (fs : List Field) : Except Error Frame × Endpoint :=
  if e.phase = .ready then
    let streams := e.streams.dropClosed
    match Field.compress e.encoder fs with
    | (.error err, encoder) => (.error err, { e with streams, encoder })
    | (.ok block, encoder) =>
      let limit := e.remote.maxFrameSizeInForce
      if limit < block.length then
        (.error (.frameSize (.headerBlock block.length limit)), { e with streams, encoder })
      else
        match streams.create with
        | (.error err, streams) => (.error err, { e with streams, encoder })
        | (.ok id, streams) =>
          (Frame.make .headers requestFlags id block, { e with streams, encoder })
  else (.error .notConnected, e)

/-- Records that the request of a stream went out. -/
def markSent (e : Endpoint) (id : Nat) : Endpoint :=
  { e with streams := e.streams.modify id Stream.sent }

/-! ### Frames that arrive -/

/-- What a frame does: the state after it, the frame to answer with, and whether the awaited
stream ended. -/
structure Reaction where
  endpoint : Endpoint
  reply : Option Frame
  outcome : Except Error Bool

namespace Reaction

/-- Nothing to answer, and more to come. -/
def goOn (e : Endpoint) : Reaction := ⟨e, none, .ok false⟩

/-- Nothing to answer; the stream ended or not. -/
def done (e : Endpoint) (ended : Bool) : Reaction := ⟨e, none, .ok ended⟩

/-- An answer, and more to come. -/
def answer (e : Endpoint) (f : Frame) : Reaction := ⟨e, some f, .ok false⟩

/-- The end of the wait. -/
def fail (e : Endpoint) (err : Error) : Reaction := ⟨e, none, .error err⟩

end Reaction

/-- Records that a frame was read while a response is due. -/
def noteFrame (e : Endpoint) (target : Nat) : Endpoint :=
  { e with streams := e.streams.modify target Stream.frameReceived }

def closeStream (e : Endpoint) (id : Nat) : Endpoint :=
  { e with streams := e.streams.modify id Stream.close }

def closeStreamIf (e : Endpoint) (id : Nat) (ends : Bool) : Endpoint :=
  if ends then e.closeStream id else e

/-- Data adds to the body of the awaited stream. -/
def onData (e : Endpoint) (target : Nat) (f : Frame) : Reaction :=
  if f.streamId = 0 then .fail e (.protocol (.streamZero .data))
  else
    match Frame.Data.parse f with
    | .error err => .fail e err
    | .ok data =>
      if f.streamId = target then
        let e := { e with streams := e.streams.modify target (·.receiveData data.bytes) }
        .done (e.closeStreamIf target data.endStream) data.endStream
      else .goOn e

/-- A whole header block is decoded on whichever stream, to keep the table in step with the
peer's; on the awaited stream its fields are taken in. A block that goes on in other frames is
passed over. -/
def onHeaders (e : Endpoint) (target : Nat) (f : Frame) : Reaction :=
  if f.streamId = 0 then .fail e (.protocol (.streamZero .headers))
  else
    match Frame.Headers.parse f with
    | .error err => .fail e err
    | .ok headers =>
      let finish (e : Endpoint) : Reaction :=
        if f.streamId = target then
          .done (e.closeStreamIf target headers.endStream) headers.endStream
        else .goOn e
      if headers.endHeaders then
        match Field.decompress e.decoder headers.block with
        | (.error err, decoder) => .fail { e with decoder } err
        | (.ok fs, decoder) =>
          let e := { e with decoder }
          if f.streamId = target then
            match Stream.blockStatus fs with
            | .error err => .fail e err
            | .ok status =>
              finish { e with streams := e.streams.modify target (·.applyBlock status fs) }
          else finish e
      else finish e

/-- A reset of the awaited stream ends it. -/
def onRstStream (e : Endpoint) (target : Nat) (f : Frame) : Reaction :=
  match Frame.RstStream.parse f with
  | .error err => .fail e err
  | .ok rst =>
    if f.streamId = 0 then .fail e (.protocol (.streamZero .rstStream))
    else if f.streamId = target then
      .fail (e.closeStream target) (.streamReset f.streamId rst.code)
    else .goOn e

/-- Settings are merged and acknowledged; an acknowledgement is noted. -/
def onSettings (e : Endpoint) (f : Frame) : Reaction :=
  if f.streamId = 0 then
    if f.flags.ack then
      if f.payload = [] then .goOn { e with settingsAcked := true }
      else .fail e (.frameSize .settingsAck)
    else
      match Settings.decode f.payload with
      | .error err => .fail e err
      | .ok settings => .answer { e with remote := e.remote.merge settings } .settingsAck
  else .fail e (.protocol (.settingsStream f.streamId))

/-- A ping is answered with its bytes. -/
def onPing (e : Endpoint) (f : Frame) : Reaction :=
  match Frame.Ping.parse f with
  | .error err => .fail e err
  | .ok ping => if ping.ack then .goOn e else .answer e ping.reply

/-- A shutdown keeps new requests from going out; one that leaves the awaited stream out ends
it. -/
def onGoaway (e : Endpoint) (target : Nat) (f : Frame) : Reaction :=
  match Frame.Goaway.parse f with
  | .error err => .fail e err
  | .ok goaway =>
    let e := { e with phase := .draining goaway.lastStream }
    if goaway.lastStream < target then
      .fail (e.closeStream target)
        (.goAway goaway.lastStream goaway.code (Text.Utf8.lossy goaway.debug))
    else .goOn e

/-- A window update is only checked. -/
def onWindowUpdate (e : Endpoint) (f : Frame) : Reaction :=
  match Frame.WindowUpdate.parse f with
  | .error err => .fail e err
  | .ok _ => .goOn e

/-- What a frame does to an endpoint that awaits the response on the stream `target`. -/
def receive (e : Endpoint) (target : Nat) (f : Frame) : Reaction :=
  match f.kind with
  | .data => e.onData target f
  | .headers => e.onHeaders target f
  | .rstStream => e.onRstStream target f
  | .settings => e.onSettings f
  | .ping => e.onPing f
  | .goaway => e.onGoaway target f
  | .windowUpdate => e.onWindowUpdate f
  | .priority | .pushPromise | .continuation | .unknown _ => .goOn e

/-! ### Responses -/

/-- Why a stream awaits no response, if so. -/
def streamFault? (e : Endpoint) (target : Nat) : Option Error :=
  let state := e.streams.state? target
  if state.any Stream.State.isAwaiting then none else some (.protocol (.notAwaiting target state))

/-- Why no response on a stream can be waited for, if so. -/
def awaitFault? (e : Endpoint) (target : Nat) : Option Error :=
  match e.phase with
  | .failed | .closed => some .notConnected
  | .draining lastStream =>
    if lastStream < target then some .notConnected else e.streamFault? target
  | .ready => e.streamFault? target

/-- What arrived on a stream. -/
def responseOn (e : Endpoint) (id : Nat) : Response :=
  ((e.streams.find? id).getD (.new id)).response

/-- The endpoint after the response on a stream was taken. -/
def taken (e : Endpoint) (id : Nat) : Endpoint :=
  { e with streams := e.streams.modify id Stream.taken }

end Endpoint

end Http2
