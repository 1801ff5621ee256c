import Http2.Connection.Basic
import Http2.Tls.Basic
import Http2.Url.Basic

/-!
Clients: options for their connections and fields for all their requests. A client is built only
from fields that can stand in a request.
-/

namespace Http2

structure Client where
  options : ConnectOptions
  /-- The fields of every request. -/
  headers : List Field
  deriving DecidableEq, Repr

namespace Client

def defaultUserAgent : String := "rawh2/0.1.0"

def default : Client := ⟨{}, [("user-agent", defaultUserAgent)]⟩

/-! ### Building -/

/-- A client that is being put together. -/
structure Draft where
  options : ConnectOptions := Client.default.options
  headers : List Field := Client.default.headers
  deriving DecidableEq, Repr

namespace Draft

def withConnectTimeout (d : Draft) (timeout : Option Nat) : Draft :=
  { d with options := { d.options with connectTimeout := timeout } }

/-- Limits the time of each read and write. -/
def withTimeout (d : Draft) (timeout : Option Nat) : Draft :=
  { d with options := { d.options with ioTimeout := timeout } }

def withVerification (d : Draft) (verify : Bool) : Draft :=
  { d with options := { d.options with verifyPeer := verify } }

def withTrustFile (d : Draft) (path : String) : Draft :=
  { d with options := { d.options with trustFile := some path } }

def withVersions (d : Draft) (min max : Tls.Version) : Draft :=
  { d with options := { d.options with minVersion := min, maxVersion := max } }

/-- Adds a field, in place of those of the same name; names are written small. -/
def withHeader (d : Draft) (name value : String) : Draft :=
  let name := Text.asciiLower name
  { d with headers := d.headers.filter (fun f => f.1 ≠ name) ++ [(name, value)] }

def withUserAgent (d : Draft) (agent : String) : Draft :=
  d.withHeader "user-agent" agent

/-- The client, if the versions are a range and the fields can stand in a request. -/
def build (d : Draft) : Except Error Client :=
  let o := d.options
  if o.maxVersion.rank < o.minVersion.rank then
    .error (.tls (.config (.minAboveMax o.minVersion o.maxVersion)))
  else (Field.validateRequest d.headers).map fun () => ⟨o, d.headers⟩

end Draft

/-! ### Requests -/

def send (c : Client) (conn : Connection) (method : String) (url : Url) :
    Except Error Response × Connection :=
  conn.request method url.authority url.path c.headers

/-- A way to open a transport to a host and a port. -/
abbrev Dialer := ConnectOptions → String → Nat → Except SystemError Transport

/-- Why a host cannot be looked up, if so: its name is passed on as a text that ends in NUL. -/
def hostFault? (host : String) : Option SystemError :=
  if host.toList.contains '\x00' then
    some .nulInName
  else none

def dial (c : Client) (dialer : Dialer) (host : String) (port : Nat) : Except Error Transport :=
  match hostFault? host with
  | some cause => .error (.dial s!"{host}:{port}" cause)
  | none => (dialer c.options host port).mapError (.dial s!"{host}:{port}")

/-- Opens a connection for a URL, asks for it with `GET` and closes the connection again. The
closed connection comes back too, if there was one. -/
def get (c : Client) (dialer : Dialer) (text : String) :
    Except Error Response × Option Connection :=
  match Url.parse text with
  | .error fault => (.error (.transport (.invalidUrl fault)), none)
  | .ok url =>
    match c.dial dialer url.host url.port with
    | .error e => (.error e, none)
    | .ok t =>
      match Connection.openOn t c.options.ioTimeout with
      | (.error e, conn) => (.error e, some conn)
      | (.ok (), conn) =>
        let (r, conn) := c.send conn "GET" url
        (r, some conn.close.2)

end Client

end Http2
