import Http2.Text.Basic
import Http2.Text.Characters
import Http2.Transport.Fault

/-!
URLs that can be fetched, and their form as a text. The text of a URL brackets a host with a colon
in it and leaves out the port 443.
-/

namespace Http2

structure Url where
  /-- A name or an address; an IPv6 address without its brackets. -/
  host : String
  port : Nat
  /-- The path with the query. -/
  path : String
  deriving DecidableEq, Repr

namespace Url

def defaultPort : Nat := 443

/-- The host as it stands in an authority. -/
def bracketedHost (u : Url) : String :=
  if u.host.toList.contains ':' then s!"[{u.host}]" else u.host

/-- The authority: the host, and the port unless it is the default. -/
def authority (u : Url) : String :=
  if u.port = defaultPort then u.bracketedHost else s!"{u.bracketedHost}:{u.port}"

def text (u : Url) : String :=
  s!"https://{u.authority}{u.path}"

/-! ### Reading -/

/-- The characters before the first `://` and those after it. -/
def splitScheme : List Char → Option (List Char × List Char)
  | ':' :: '/' :: '/' :: rest => some ([], rest)
  | c :: cs => (splitScheme cs).map fun (scheme, rest) => (c :: scheme, rest)
  | [] => none

/-- Reads a port from 1 to 65535. -/
def parsePort (cs : List Char) : Except Fault Nat :=
  match Text.word16? cs with
  | some (n + 1) => .ok (n + 1)
  | _ => .error (.port (String.ofList cs))

/-- Reads what follows the opening bracket of an authority. -/
def parseBracketed (cs : List Char) : Except Fault (String × Nat) :=
  match cs.span (· ≠ ']') with
  | (_, []) => .error .unclosedBracket
  | ([], _ :: _) => .error .emptyHost
  | (host, _ :: after) =>
    match after with
    | [] => .ok (String.ofList host, defaultPort)
    | ':' :: port => (parsePort port).map fun p => (String.ofList host, p)
    | _ => .error (.afterBracket (String.ofList after))

/-- The characters before the last colon and those after it. -/
def splitLastColon (cs : List Char) : Option (List Char × List Char) :=
  match cs.reverse.span (· ≠ ':') with
  | (_, []) => none
  | (port, _ :: host) => some (host.reverse, port.reverse)

def parseHost (cs : List Char) : Except Fault String :=
  if cs = [] then .error .emptyHost
  else if cs.any fun c => Text.isBlank c || c == ':' then .error (.host (String.ofList cs))
  else .ok (Text.asciiLower (String.ofList cs))

def parseAuthority (cs : List Char) : Except Fault (String × Nat) :=
  match cs with
  | [] => .error .emptyHost
  | '[' :: rest => parseBracketed rest
  | _ =>
    match splitLastColon cs with
    | none => (parseHost cs).map fun host => (host, defaultPort)
    | some (host, port) => do
      let p ← parsePort port
      let h ← parseHost host
      return (h, p)

/-- The path that is asked for, from what follows the authority. -/
def requestPath (cs : List Char) : List Char :=
  match cs with
  | '/' :: _ => cs
  | _ => '/' :: cs

/-- Reads what follows `://`; a fragment is dropped. -/
def parseRest (cs : List Char) : Except Fault Url :=
  let (authority, path) := (cs.takeWhile (· ≠ '#')).span fun c => c ≠ '/' && c ≠ '?'
  if authority.contains '@' then .error .userinfo
  else (parseAuthority authority).map fun (host, port) =>
    ⟨host, port, String.ofList (requestPath path)⟩

/-- Reads a URL, with any white space around it. -/
def parse (s : String) : Except Fault Url :=
  let cs := Text.trim s.toList
  if cs = [] then .error .empty
  else
    match splitScheme cs with
    | none => .error (.missingScheme (String.ofList cs))
    | some (scheme, rest) =>
      if Text.sameIgnoringCase (String.ofList scheme) "https" then parseRest rest
      else .error (.unsupportedScheme (String.ofList scheme))

end Url

end Http2
