import Http2.ErrorCode
import Http2.Frame.Kind
import Http2.Hpack.Primitive
import Http2.Settings.Parameter
import Http2.Stream.State
import Http2.Text.Utf8
import Http2.Tls.Basic
import Http2.Transport.Fault

/-!
The failures of HTTP/2 by their causes, and their messages.
-/

namespace Http2

/-! ### Fields -/

namespace Field

/-- What is wrong with a field of a request. -/
inductive Fault where
  | emptyName
  /-- A pseudo-header after a regular field. -/
  | latePseudo (name : String)
  | unknownPseudo (name : String)
  | repeatedPseudo (name : String)
  | upperCase (name : String)
  /-- A field that belongs to one connection of HTTP/1. -/
  | connectionSpecific (name : String)
  /-- A `te` field with another value than `trailers`. -/
  | te
  deriving DecidableEq, Repr

def Fault.message : Fault → String
  | emptyName => "Invalid header: empty header name"
  | latePseudo name => s!"Pseudo-header {name} must precede regular header fields"
  | unknownPseudo name => s!"Invalid header: unknown pseudo-header {name}"
  | repeatedPseudo name => s!"Invalid header: duplicate pseudo-header {name}"
  | upperCase name => s!"Invalid header: header name {Text.quoted name} must be lowercase"
  | connectionSpecific name =>
    s!"Invalid header: connection-specific header {Text.quoted name} is not allowed"
  | te => "Invalid header: te may only be \"trailers\""

end Field

/-! ### Causes -/

/-- A breach of the protocol. -/
inductive ProtocolFault where
  /-- A frame of another kind than the one asked for. -/
  | kind (expected got : Frame.Kind)
  /-- Padding that leaves no room for itself. -/
  | padding (kind : Frame.Kind) (pad length : Nat)
  /-- A frame of a stream on stream 0. -/
  | streamZero (kind : Frame.Kind)
  /-- A SETTINGS frame on a stream. -/
  | settingsStream (id : Nat)
  /-- A PING frame on a stream. -/
  | pingStream
  /-- A `:status` that is no number from 100 to 999. -/
  | status (value : String)
  /-- A request on a stream that already has one. -/
  | alreadySent (id : Nat) (state : Stream.State)
  /-- A response asked for on a stream that awaits none. -/
  | notAwaiting (id : Nat) (state : Option Stream.State)
  deriving DecidableEq, Repr

/-- A frame or block of a wrong size. -/
inductive SizeFault where
  /-- A padded frame without its first byte. -/
  | noPadLength (kind : Frame.Kind)
  /-- A HEADERS frame that ends inside its priority fields. -/
  | shortPriority
  | payload (kind : Frame.Kind) (expected got : Nat)
  | shortGoaway (got : Nat)
  | settingsAck
  | settingsPayload (length : Nat)
  /-- A frame longer than the reader allows. -/
  | overLimit (kind : Frame.Kind) (length limit : Nat)
  /-- A header block longer than the peer allows. -/
  | headerBlock (length limit : Nat)
  deriving DecidableEq, Repr

def ProtocolFault.message : ProtocolFault → String
  | kind expected got => s!"Expected {expected.name} frame, got {got.name}"
  | padding k pad length => s!"{k.name} padding ({pad} bytes) exceeds payload ({length} bytes)"
  | streamZero k => s!"{k.name} frame on stream 0"
  | settingsStream id => s!"SETTINGS frame on stream {id}"
  | pingStream => "PING frame must have stream ID 0"
  | status value => s!"Invalid :status {Text.quoted value}"
  | alreadySent id state => s!"Cannot send HEADERS on stream {id} in state {state.name}"
  | notAwaiting id state =>
    s!"stream {id} is not awaiting a response ({Stream.State.describe state})"

def SizeFault.message : SizeFault → String
  | noPadLength kind => s!"{kind.name} frame with PADDED flag has no pad length"
  | shortPriority => "HEADERS frame too short for priority fields"
  | payload kind expected got => s!"{kind.name} must be {expected} bytes, got {got}"
  | shortGoaway got => s!"GOAWAY must be at least 8 bytes, got {got}"
  | settingsAck => "SETTINGS ACK with payload"
  | settingsPayload length => s!"SETTINGS payload of {length} bytes is not a multiple of 6"
  | overLimit kind length limit =>
    s!"{kind.label} frame of {length} bytes exceeds limit of {limit}"
  | headerBlock length limit => s!"header block of {length} bytes exceeds peer limit {limit}"

/-! ### Failures -/

inductive Error where
  | io (cause : SystemError)
  | transport (cause : TransportError)
  | tls (fault : Tls.Fault)
  /-- No connection to an address could be opened. -/
  | dial (address : String) (cause : SystemError)
  /-- The handshake did not select `h2`. -/
  | alpnMismatch (selected : Option Bytes)
  /-- A payload longer than a 24-bit length can say. -/
  | payloadTooLarge (length : Nat)
  /-- A stream identifier of more than 31 bits. -/
  | streamIdOverflow (id : Nat)
  /-- The input ended inside a frame header. -/
  | shortRead (expected got : Nat)
  /-- The input ended inside a payload. -/
  | truncated (expected got : Nat)
  | protocol (fault : ProtocolFault)
  /-- No frame could be read where one was due. -/
  | unreadable (cause : Error)
  | frameSize (fault : SizeFault)
  | compression (fault : Hpack.Fault)
  | field (fault : Field.Fault)
  | settings (fault : Settings.Fault)
  /-- The connection takes no more of this. -/
  | notConnected
  | streamIdsExhausted
  /-- The peer ended the stream. -/
  | streamReset (id : Nat) (code : ErrorCode)
  /-- The peer shuts down before the stream was served. -/
  | goAway (lastStream : Nat) (code : ErrorCode) (debug : String)
  deriving DecidableEq, Repr

/-- The protocol that a handshake selected, for a message. -/
def describeProtocol : Option Bytes → String
  | none => "no protocol"
  | some name => Text.quoted (Text.Utf8.lossy name)

def Error.message : Error → String
  | io cause => s!"I/O error: {cause.text}"
  | transport cause => s!"HTTP error: {cause.message}"
  | tls fault => s!"TLS error: {fault.message}"
  | dial address cause => s!"Failed to connect to {address}: {cause.text}"
  | alpnMismatch selected =>
    s!"ALPN negotiation failed: expected h2, got {describeProtocol selected}"
  | payloadTooLarge length => s!"Frame payload too large: {length} bytes"
  | streamIdOverflow id => s!"Stream ID exceeds 2^31-1: {id}"
  | shortRead expected got => s!"Short read: frame header needs {expected} bytes, got {got}"
  | truncated expected got => s!"Truncated frame: payload needs {expected} bytes, got {got}"
  | protocol fault => s!"Protocol error: {fault.message}"
  | unreadable cause => s!"Protocol error: failed to read frame: {cause.message}"
  | frameSize fault => s!"Frame size error: {fault.message}"
  | compression fault => s!"Compression error: HPACK decode error: {fault.name}"
  | field fault => fault.message
  | settings fault => s!"Invalid settings value: {fault.message}"
  | notConnected => "Connection not ready"
  | streamIdsExhausted => "Stream IDs exhausted"
  | streamReset id code => s!"Stream {id} reset by peer: {code.label}"
  | goAway lastStream code debug =>
    s!"GOAWAY received (last stream {lastStream}): {code.label} {debug}"

end Http2
