import Http2.Error
import Http2.Hpack.Codec

/-!
Header fields, and the rules for the fields of a request: the four pseudo-headers first, each at
most once, then regular fields with small letters in their names and without those that belong to a
connection of HTTP/1. In header blocks texts become their UTF-8 form, and they are read back
leniently.
-/

namespace Http2

/-- A header field: its name and its value. -/
abbrev Field := String × String

namespace Field

/-- A pseudo-header's name begins with a colon. -/
def isPseudoName (name : String) : Bool :=
  name.toList.head? == some ':'

def requestPseudoNames : List String :=
  [":method", ":scheme", ":authority", ":path"]

/-- The fields that belong to one connection of HTTP/1. -/
def connectionNames : List String :=
  ["connection", "keep-alive", "proxy-connection", "transfer-encoding", "upgrade"]

/-- What the fields so far leave open: the pseudo-headers that occurred, and whether a regular
field did. -/
structure Seen where
  pseudo : List String := []
  regular : Bool := false
  deriving DecidableEq, Repr

/-- The fault of a pseudo-header after the fields so far. -/
def pseudoFault? (seen : Seen) (name : String) : Option Fault :=
  if seen.regular then some (.latePseudo name)
  else if name ∉ requestPseudoNames then some (.unknownPseudo name)
  else if name ∈ seen.pseudo then some (.repeatedPseudo name)
  else none

def regularFault? (name value : String) : Option Fault :=
  if Text.hasAsciiUpper name then some (.upperCase name)
  else if name ∈ connectionNames then some (.connectionSpecific name)
  else if Text.sameIgnoringCase name "te" && !Text.sameIgnoringCase value "trailers" then some .te
  else none

def fault? (seen : Seen) (f : Field) : Option Fault :=
  if f.1 = "" then some .emptyName
  else if isPseudoName f.1 then pseudoFault? seen f.1
  else regularFault? f.1 f.2

def Seen.add (seen : Seen) (f : Field) : Seen :=
  if isPseudoName f.1 then { seen with pseudo := f.1 :: seen.pseudo }
  else { seen with regular := true }

/-- The first fault of fields that follow those so far. -/
def firstFault? (seen : Seen) : List Field → Option Fault
  | [] => none
  | f :: fs =>
    match fault? seen f with
    | some fault => some fault
    | none => firstFault? (seen.add f) fs

/-- Refuses a list of fields that cannot be the header of a request. -/
def validateRequest (fs : List Field) : Except Error Unit :=
  match firstFault? {} fs with
  | none => .ok ()
  | some fault => .error (.field fault)

/-! ### Header blocks -/

def toEntry (f : Field) : Hpack.Entry :=
  ⟨Text.Utf8.encode f.1, Text.Utf8.encode f.2⟩

/-- A field from bytes, with U+FFFD for what is no text. -/
def ofEntry (e : Hpack.Entry) : Field :=
  (Text.Utf8.lossy e.name, Text.Utf8.lossy e.value)

/-- The header block of a request's fields, and the table after it. A list that is refused leaves
the table as it was. -/
def compress (t : Hpack.Table) (fs : List Field) : Except Error Bytes × Hpack.Table :=
  match validateRequest fs with
  | .error e => (.error e, t)
  | .ok () =>
    let (block, t) := Hpack.encode t (fs.map toEntry)
    (.ok block, t)

/-- The fields of a header block, and the table after it. -/
def decompress (t : Hpack.Table) (block : Bytes) : Except Error (List Field) × Hpack.Table :=
  match Hpack.decode t block with
  | (.error fault, t) => (.error (.compression fault), t)
  | (.ok es, t) => (.ok (es.map ofEntry), t)

end Field

end Http2
