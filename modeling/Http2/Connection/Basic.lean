import Http2.Connection.Endpoint
import Http2.Frame.Transfer

/-!
A client's connection: an endpoint on a session. Requests run one after another. A failure to read
or write, and a frame that breaks the protocol, make the connection unusable; a reset of the
stream or a shutdown of the peer only ends the wait. Main statement: handling a frame leaves the
input alone, so the wait for a response ends with the input.
-/

namespace Http2

structure Connection extends Endpoint where
  session : Session
  deriving DecidableEq, Repr

namespace Connection

/-- The protocol that a handshake has to select. -/
def protocolName : Bytes := Text.Utf8.encode "h2"

/-- Refuses any other selected protocol. -/
def verifyProtocol (selected : Option Bytes) : Except Error Unit :=
  if selected = some protocolName then .ok () else .error (.alpnMismatch selected)

/-- A connection on a session whose preface was sent. -/
def ofSession (s : Session) : Connection := { session := s }

def fail (c : Connection) : Connection := { c with phase := .failed }

/-- The connection made unusable and its session closed, whatever the closing answers. -/
def abandon (c : Connection) : Connection :=
  { c.fail with session := c.session.close.2 }

/-- Opens a connection on a transport after its handshake: checks the protocol and sends the
preface. Where that fails, the connection comes back abandoned. -/
def openOn (t : Transport) (timeout : Option Nat) : Except Error Unit × Connection :=
  let c := ofSession ((Session.new t).setTimeout timeout)
  match verifyProtocol t.protocol with
  | .error e => (.error e, c.abandon)
  | .ok () =>
    match c.session.sendPreface with
    | (.error e, session) => (.error e, abandon { c with session })
    | (.ok (), session) => (.ok (), { c with session })

/-! ### Requests -/

/-- Sends a request without a body, and says on which stream. -/
def sendRequest (c : Connection) (method authority path : String) (extra : List Field) :
    Except Error Nat × Connection :=
  match c.toEndpoint.prepare (Endpoint.requestFields method authority path extra) with
  | (.error e, ep) => (.error e, { c with toEndpoint := ep })
  | (.ok f, ep) =>
    match c.session.writeFrame f with
    | (.error e, session) => (.error e, fail ⟨ep, session⟩)
    | (.ok (), session) => (.ok f.streamId, ⟨ep.markSent f.streamId, session⟩)

/-! ### Responses -/

/-- The longest payload that the client takes, the default one. -/
def payloadLimit : Nat := 16384

/-- The failure to read a frame as a connection reports it. -/
def readFailure : Error → Error
  | .io cause =>
    match cause.kind with
    | .timedOut | .wouldBlock => .transport .timeout
    | _ => .unreadable (.io cause)
  | .frameSize fault => .frameSize fault
  | e => .unreadable e

def readFrame (c : Connection) : Except Error Frame × Connection :=
  match c.session.readFrameUpTo payloadLimit with
  | (.error e, session) => (.error (readFailure e), fail { c with session })
  | (.ok f, session) => (.ok f, { c with session })

/-- Writes the answer to a frame, if there is one. -/
def sendReply (c : Connection) : Option Frame → Except Error Unit × Connection
  | none => (.ok (), c)
  | some f =>
    let (r, session) := c.session.writeFrame f
    (r, { c with session })

/-- Handles a frame while the response on `target` is due, and says whether that stream ended. -/
def handle (c : Connection) (target : Nat) (f : Frame) : Except Error Bool × Connection :=
  let r := c.toEndpoint.receive target f
  match sendReply ⟨r.endpoint, c.session⟩ r.reply with
  | (.error e, c) => (.error e, c)
  | (.ok (), c) => (r.outcome, c)

/-- The connection after a failure to handle a frame: a reset or a shutdown leaves it as it is. -/
def afterFailure (c : Connection) : Error → Connection
  | .streamReset .. | .goAway .. => c
  | _ => c.fail

theorem inputSize_readFrame {c c' : Connection} {f : Frame} (h : c.readFrame = (.ok f, c')) :
    c'.session.inputSize < c.session.inputSize := by
  unfold readFrame at h
  split at h
  · cases h
  · next hr =>
    cases h
    exact Nat.lt_of_lt_of_le (Nat.lt_add_of_pos_left (by decide))
      (Session.inputSize_readFrameUpTo hr)

theorem inputSize_handle (c : Connection) (target : Nat) (f : Frame) :
    (c.handle target f).2.session.inputSize = c.session.inputSize := by
  have hs (ep : Endpoint) (o : Option Frame) :
      (sendReply ⟨ep, c.session⟩ o).2.session.inputSize = c.session.inputSize := by
    cases o with
    | none => rfl
    | some f => exact Session.inputSize_writeFrame c.session f
  unfold handle
  simp only
  split
  · next h => simpa only [h] using hs (c.receive target f).endpoint (c.receive target f).reply
  · next h => simpa only [h] using hs (c.receive target f).endpoint (c.receive target f).reply

/-- Reads and handles frames until the stream `target` ends. -/
def awaitEnd (c : Connection) (target : Nat) : Except Error Unit × Connection :=
  match h : c.readFrame with
  | (.error e, c') => (.error e, c')
  | (.ok f, c') =>
    let noted : Connection := { c' with toEndpoint := c'.noteFrame target }
    match hh : noted.handle target f with
    | (.error e, c'') => (.error e, c''.afterFailure e)
    | (.ok true, c'') => (.ok (), c'')
    | (.ok false, c'') =>
      have : c''.session.inputSize < c.session.inputSize := by
        have h₁ := inputSize_readFrame h
        have h₂ := inputSize_handle noted target f
        rw [hh] at h₂
        simp only [noted] at h₂
        omega
      awaitEnd c'' target
termination_by c.session.inputSize

def recvResponse (c : Connection) (target : Nat) : Except Error Response × Connection :=
  match c.awaitFault? target with
  | some e => (.error e, c)
  | none =>
    match c.awaitEnd target with
    | (.error e, c) => (.error e, c)
    | (.ok (), c) => (.ok (c.responseOn target), { c with toEndpoint := c.taken target })

/-- Sends a request and waits for its response. -/
def request (c : Connection) (method authority path : String) (extra : List Field) :
    Except Error Response × Connection :=
  match c.sendRequest method authority path extra with
  | (.error e, c) => (.error e, c)
  | (.ok id, c) => c.recvResponse id

def get (c : Connection) (authority path : String) : Except Error Response × Connection :=
  c.request "GET" authority path []

/-- Closes the connection, the first time with its session. -/
def close (c : Connection) : Except Error Unit × Connection :=
  if c.phase = .closed then (.ok (), c)
  else
    let (r, session) := c.session.close
    (r.mapError .transport, { c with session, phase := .closed })

end Connection

end Http2
