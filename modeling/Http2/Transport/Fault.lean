import Http2.Text.Basic

/-!
The failures of what lies below HTTP/2: addresses that cannot be fetched, the operating system, and
the transport built on it.
-/

namespace Http2

/-! ### Addresses -/

namespace Url

/-- What is wrong with a URL. -/
inductive Fault where
  | empty
  /-- No `://` occurs. -/
  | missingScheme (text : String)
  /-- The scheme is not `https`. -/
  | unsupportedScheme (scheme : String)
  /-- The authority names a user. -/
  | userinfo
  | emptyHost
  | unclosedBracket
  /-- Something other than a port follows a bracketed host. -/
  | afterBracket (text : String)
  | port (text : String)
  /-- The host holds white space or a colon. -/
  | host (text : String)
  /-- A fault that a transport reports in its own words. -/
  | reported (text : String)
  deriving DecidableEq, Repr

def Fault.message : Fault → String
  | empty => "empty URL"
  | missingScheme text => s!"missing scheme in {Text.quoted text}"
  | unsupportedScheme scheme => s!"unsupported scheme {Text.quoted scheme}"
  | userinfo => "userinfo is not supported"
  | emptyHost => "empty host"
  | unclosedBracket => "missing closing bracket in IPv6 host"
  | afterBracket text => s!"unexpected {Text.quoted text} after IPv6 host"
  | port text => s!"invalid port {Text.quoted text}"
  | host text => s!"invalid host {Text.quoted text}"
  | reported text => text

end Url

/-! ### System failures -/

inductive SystemError.Kind where
  | wouldBlock | timedOut | interrupted | connectionReset | connectionRefused | unexpectedEof
  | notConnected | brokenPipe | writeZero | notFound | notADirectory | isADirectory
  | invalidFilename | invalidInput | unsupported | other
  deriving DecidableEq, Repr

/-- A failure that the operating system, or a reader or writer above it, reports. -/
structure SystemError where
  kind : SystemError.Kind
  text : String
  deriving DecidableEq, Repr

namespace SystemError

/-- A writer that takes no more bytes. -/
def writeZero : SystemError := ⟨.writeZero, "failed to write whole buffer"⟩

/-- An input that ends before a buffer is full. -/
def unexpectedEof : SystemError := ⟨.unexpectedEof, "failed to fill whole buffer"⟩

def timedOut : SystemError := ⟨.timedOut, "operation timed out"⟩

/-- A session that was closed before. -/
def notConnected : SystemError := ⟨.notConnected, "session is closed"⟩

def notFound : SystemError := ⟨.notFound, "No such file or directory (os error 2)"⟩

def notADirectory : SystemError := ⟨.notADirectory, "Not a directory (os error 20)"⟩

def isADirectory : SystemError := ⟨.isADirectory, "Is a directory (os error 21)"⟩

def nameTooLong : SystemError := ⟨.invalidFilename, "File name too long (os error 36)"⟩

def nulInName : SystemError :=
  ⟨.invalidInput, "file name contained an unexpected NUL byte"⟩

end SystemError

/-! ### Transport failures -/

/-- A failure of a transport or of the session on it. -/
inductive TransportError where
  | io (cause : SystemError)
  | invalidUrl (fault : Url.Fault)
  | timeout
  | closed
  deriving DecidableEq, Repr

namespace TransportError

def message : TransportError → String
  | io cause => s!"I/O error: {cause.text}"
  | invalidUrl fault => s!"Invalid URL: {fault.message}"
  | timeout => "Timeout"
  | closed => "Connection closed"

/-- The same failure as readers and writers of bytes report it. -/
def toSystem : TransportError → SystemError
  | io cause => cause
  | timeout => .timedOut
  | closed => .notConnected
  | invalidUrl fault => ⟨.other, message (invalidUrl fault)⟩

end TransportError

end Http2
