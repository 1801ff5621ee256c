import Http2.Transport.Fault

/-!
The versions of TLS that HTTP/2 may run over, the failures of putting a configuration together, and
what a client asks of the transport of its connections.
-/

namespace Http2

namespace Tls

/-! ### Versions -/

inductive Version where
  | tls12 | tls13
  deriving DecidableEq, Repr

namespace Version

def text : Version → String
  | tls12 => "TLSv1.2"
  | tls13 => "TLSv1.3"

def rank : Version → Nat
  | tls12 => 2
  | tls13 => 3

/-- A capital for each letter that has one; the long s is one of them. -/
def capital (c : Char) : Char :=
  if c = 'ſ' then 'S' else c.toUpper

/-- The version that a text names, in any case and with or without the `v`. -/
def ofText? (s : String) : Option Version :=
  match s.map capital with
  | "TLSV1.2" | "TLS1.2" => some tls12
  | "TLSV1.3" | "TLS1.3" => some tls13
  | _ => none

end Version

/-! ### Failures -/

inductive ConfigFault where
  /-- A range of versions that ends before it begins. -/
  | emptyRange (min max : Version)
  /-- The same range, as a client's options hold it. -/
  | minAboveMax (min max : Version)
  /-- A protocol name that is empty or longer than 255 bytes. -/
  | protocolName (name : String)
  deriving DecidableEq, Repr

def ConfigFault.message : ConfigFault → String
  | emptyRange min max => s!"TLS version range {min.text}..{max.text} is empty"
  | minAboveMax min max => s!"minimum TLS version {min.text} is above maximum {max.text}"
  | protocolName name => s!"ALPN protocol name must be 1-255 bytes: {Text.quoted name}"

inductive Fault where
  /-- A trust file that is missing or holds no certificate. -/
  | trustFile
  /-- A choice of ciphers that names none, or one that does not exist. -/
  | ciphers
  /-- A text with the character U+0000, which cannot be handed on: that panics, and the fault stands
  for it. -/
  | nulInText
  /-- A certificate or private key that is missing or unreadable. -/
  | certificate
  | io (cause : SystemError)
  | version (text : String)
  | config (fault : ConfigFault)
  deriving DecidableEq, Repr

def Fault.message : Fault → String
  | trustFile => "no certificate in the trust file"
  | ciphers => "no such cipher"
  | nulInText => "text with a NUL character"
  | certificate => "Certificate error: no certificate with its private key"
  | io cause => s!"I/O error: {cause.text}"
  | version text => s!"Invalid TLS version: {text}"
  | config fault => s!"Invalid configuration: {fault.message}"

def Version.parse (s : String) : Except Fault Version :=
  match ofText? s with
  | some version => .ok version
  | none => .error (.version s)

end Tls

/-! ### Options -/

/-- The options of a connection; times are in milliseconds, and without one there is no limit. -/
structure ConnectOptions where
  connectTimeout : Option Nat := some 10000
  ioTimeout : Option Nat := some 30000
  /-- Check the peer's certificate and name. -/
  verifyPeer : Bool := true
  /-- A file with more certificates to trust. -/
  trustFile : Option String := none
  minVersion : Tls.Version := .tls12
  maxVersion : Tls.Version := .tls13
  deriving DecidableEq, Repr

end Http2
