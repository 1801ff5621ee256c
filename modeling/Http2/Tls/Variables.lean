/-!
What a handshake agreed on, by name.
-/

namespace Http2.Tls

/-- What stands for a value that is not there. -/
def undefinedValue : String := "<undef>"

/-- What a handshake agreed on. -/
structure Variables where
  version : String := undefinedValue
  cipher : String := undefinedValue
  serverName : Option String := none
  protocol : Option String := none
  /-- An earlier session was taken up again. -/
  reused : Bool := false
  deriving DecidableEq, Repr

def Variables.get? (v : Variables) (name : String) : Option String :=
  match name with
  | "tls.version" => some v.version
  | "tls.cipher" => some v.cipher
  | "tls.servername" => some (v.serverName.getD undefinedValue)
  | "tls.alpn" => some (v.protocol.getD undefinedValue)
  | "tls.sess_reused" => some (if v.reused then "true" else "false")
  | _ => none

end Http2.Tls
