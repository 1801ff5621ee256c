import Http2.FileTree
import Http2.Text.Utf8
import Http2.Tls.Basic
import Http2.Tls.Cipher.Choice

/-!
Configurations of TLS for either side, each step of which can fail on its own, and the negotiation
of the application protocol: a client's list of names, each after its length, and a server's choice
from such a list, which ends on any bytes.
-/

namespace Http2.Tls

/-! ### The application protocol -/

namespace Alpn

/-- A client's list of names as bytes; a name has from 1 to 255 of them. -/
def encode : List String → Except Fault Bytes
  | [] => .ok []
  | name :: names =>
    let bytes := Text.Utf8.encode name
    if bytes = [] ∨ 255 < bytes.length then .error (.config (.protocolName name))
    else (encode names).map fun rest => UInt8.ofNat bytes.length :: bytes ++ rest

/-- The first entry of a client's list that the server speaks too. A list that ends inside an
entry has no entries from there on. -/
def select (spoken : List Bytes) : Bytes → Option Bytes
  | [] => none
  | length :: rest =>
    if rest.length < length.toNat then none
    else
      let name := rest.take length.toNat
      if name ∈ spoken then some name else select spoken (rest.drop length.toNat)
termination_by bs => bs.length
decreasing_by simp only [List.length_drop, List.length_cons]; omega

end Alpn

/-! ### Files -/

structure Pem where
  certificate : Bool
  key : Bool
  deriving DecidableEq, Repr

abbrev Files := FileSystem Pem

/-! ### Clients -/

structure ClientConfig where
  minVersion : Version := .tls12
  maxVersion : Version := .tls13
  /-- The protocols offered, as they are sent. -/
  protocols : Bytes := []
  /-- The name sent to the server and looked for in its certificate. -/
  serverName : Option String := none
  verifyPeer : Bool := true
  /-- The files trusted besides the system's. -/
  trustFiles : List String := []
  /-- The choice of ciphers up to TLS 1.2. -/
  cipherList : Option String := none
  /-- Suite B was asked for. From then on no other choice counts. -/
  suiteB : Bool := false
  /-- The suites chosen for TLS 1.3. -/
  suites : Option (List String) := none
  deriving DecidableEq, Repr

namespace ClientConfig

def withVersionRange (c : ClientConfig) (min max : Version) : Except Fault ClientConfig :=
  if max.rank < min.rank then .error (.config (.emptyRange min max))
  else .ok { c with minVersion := min, maxVersion := max }

def withVersion (c : ClientConfig) (version : Version) : Except Fault ClientConfig :=
  c.withVersionRange version version

/-- Offers protocols, the preferred one first. -/
def withProtocols (c : ClientConfig) (names : List String) : Except Fault ClientConfig :=
  (Alpn.encode names).map fun protocols => { c with protocols }

def withServerName (c : ClientConfig) (name : String) : ClientConfig :=
  { c with serverName := some name }

def withVerification (c : ClientConfig) (verify : Bool) : ClientConfig :=
  { c with verifyPeer := verify }

def withTrustFile (c : ClientConfig) (files : Files) (path : String) : Except Fault ClientConfig :=
  if path.contains '\x00' then .error .nulInText
  else
    match files.read path with
    | .ok pem =>
      if pem.certificate then .ok { c with trustFiles := c.trustFiles ++ [path] }
      else .error .trustFile
    | .error _ => .error .trustFile

/-- Rules leave something to offer up to TLS 1.2: a cipher that they choose, or an older name among
the suites chosen before. -/
def leavesCiphers (c : ClientConfig) (rules : List Cipher.Rule) : Bool :=
  !(Cipher.chosen rules).isEmpty || c.suites.any (·.any Cipher.isOlder)

/-- Chooses ciphers up to TLS 1.2. -/
def withCipherList (c : ClientConfig) (ciphers : String) : Except Fault ClientConfig :=
  if ciphers.contains '\x00' then .error .nulInText
  else if c.suiteB || Cipher.isSuiteB ciphers then
    .ok { c with cipherList := some ciphers, suiteB := true }
  else
    match Cipher.rules? ciphers with
    | some rules =>
      if c.leavesCiphers rules then .ok { c with cipherList := some ciphers } else .error .ciphers
    | none => .error .ciphers

/-- Chooses cipher suites of TLS 1.3. -/
def withCipherSuites (c : ClientConfig) (ciphers : String) : Except Fault ClientConfig :=
  if ciphers.contains '\x00' then .error .nulInText
  else
    match Cipher.suites? ciphers with
    | some suites => .ok { c with suites := some suites }
    | none => .error .ciphers

/-- The configuration for HTTP/2 with a host. -/
def forHost (files : Files) (host : String) (o : ConnectOptions) : Except Fault ClientConfig := do
  let c ← withVersionRange {} o.minVersion o.maxVersion
  let c ← c.withProtocols ["h2"]
  let c := (c.withServerName host).withVerification o.verifyPeer
  match o.trustFile with
  | none => return c
  | some path => c.withTrustFile files path

end ClientConfig

/-! ### Servers -/

structure ServerConfig where
  /-- The only version allowed, if there is one. -/
  version : Option Version := none
  /-- The protocols spoken. -/
  protocols : List Bytes := []
  deriving DecidableEq, Repr

namespace ServerConfig

def withVersion (s : ServerConfig) (version : Version) : ServerConfig :=
  { s with version := some version }

def withProtocols (s : ServerConfig) (names : List String) : ServerConfig :=
  { s with protocols := names.map Text.Utf8.encode }

/-- Takes the certificate and the key from a PEM text. -/
def withCertificate (s : ServerConfig) (pem : Pem) : Except Fault ServerConfig :=
  if pem.certificate && pem.key then .ok s else .error .certificate

def withCertificateFile (s : ServerConfig) (files : Files) (path : String) :
    Except Fault ServerConfig :=
  match files.read path with
  | .ok pem => s.withCertificate pem
  | .error e => .error (.io e)

/-- The protocol that the server chooses from a client's list. -/
def select (s : ServerConfig) (offered : Bytes) : Option Bytes :=
  Alpn.select s.protocols offered

end ServerConfig

end Http2.Tls
