import Http2.Client.Basic

/-!
The command line: one URL to fetch, and a switch that turns the check of the server off.
-/

namespace Http2.CommandLine

/-- What the arguments ask for. -/
inductive Command where
  | usage
  | fetch (insecure : Bool) (url : String)
  deriving DecidableEq, Repr

/-- Reads the arguments after the switch and the URL so far. -/
def parseFrom (insecure : Bool) (url : Option String) : List String → Command
  | [] =>
    match url with
    | none => .usage
    | some url => .fetch insecure url
  | arg :: args =>
    if arg = "-k" ∨ arg = "--insecure" then parseFrom true url args
    else if arg = "-h" ∨ arg = "--help" then .usage
    else
      match url with
      | none => parseFrom insecure (some arg) args
      | some _ => .usage

def parse (args : List String) : Command :=
  parseFrom false none args

structure Outcome where
  exit : Nat
  stdout : Bytes
  stderr : String
  deriving DecidableEq, Repr

def usageText : String := "usage: h2get [--insecure] <https-url>\n"

def statusLine : Option Nat → String
  | some status => s!":status {status}\n"
  | none => ":status (none)\n"

/-- A response as it is shown: the status, the fields, an empty line and the body. -/
def render (r : Response) : Bytes :=
  let fields := r.headers.map fun (name, value) => s!"{name}: {value}\n"
  Text.Utf8.encode (statusLine r.status ++ String.join fields ++ "\n") ++ r.body

def run (dialer : Client.Dialer) (args : List String) : Outcome :=
  match parse args with
  | .usage => ⟨2, [], usageText⟩
  | .fetch insecure url =>
    match (({} : Client.Draft).withVerification !insecure).build with
    | .error e => ⟨1, [], s!"h2get: {e.message}\n"⟩
    | .ok client =>
      match (client.get dialer url).1 with
      | .error e => ⟨1, [], s!"h2get: {url}: {e.message}\n"⟩
      | .ok r => ⟨0, render r, ""⟩

end Http2.CommandLine
