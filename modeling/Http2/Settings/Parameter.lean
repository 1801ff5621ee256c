import Http2.Text.Basic

/-!
The parameters of a SETTINGS frame that have a meaning here, and what can be wrong with their
values.
-/

namespace Http2.Settings

inductive Parameter where
  | headerTableSize | enablePush | maxConcurrentStreams | initialWindowSize | maxFrameSize
  | maxHeaderListSize | enableConnectProtocol | noRfc7540Priorities
  deriving DecidableEq, Repr

namespace Parameter

/-- All parameters, by ascending identifier. -/
def all : List Parameter :=
  [headerTableSize, enablePush, maxConcurrentStreams, initialWindowSize, maxFrameSize,
    maxHeaderListSize, enableConnectProtocol, noRfc7540Priorities]

def id : Parameter → Nat
  | headerTableSize => 0x1
  | enablePush => 0x2
  | maxConcurrentStreams => 0x3
  | initialWindowSize => 0x4
  | maxFrameSize => 0x5
  | maxHeaderListSize => 0x6
  | enableConnectProtocol => 0x8
  | noRfc7540Priorities => 0x9

def ofId? (n : Nat) : Option Parameter :=
  all.find? fun p => p.id == n

def name : Parameter → String
  | headerTableSize => "HEADER_TABLE_SIZE"
  | enablePush => "ENABLE_PUSH"
  | maxConcurrentStreams => "MAX_CONCURRENT_STREAMS"
  | initialWindowSize => "INITIAL_WINDOW_SIZE"
  | maxFrameSize => "MAX_FRAME_SIZE"
  | maxHeaderListSize => "MAX_HEADER_LIST_SIZE"
  | enableConnectProtocol => "ENABLE_CONNECT_PROTOCOL"
  | noRfc7540Priorities => "NO_RFC7540_PRIORITIES"

/-- The name with the identifier after it. -/
def label (p : Parameter) : String :=
  s!"{p.name} (0x{Text.hex p.id})"

@[simp] theorem ofId?_id (p : Parameter) : ofId? p.id = some p := by cases p <;> rfl

end Parameter

/-! ### Values out of range -/

inductive Fault where
  /-- A parameter that is only on or off. -/
  | notBinary (parameter : Parameter) (value : Nat)
  | initialWindowSize (value : Nat)
  | maxFrameSize (value : Nat)
  deriving DecidableEq, Repr

def Fault.message : Fault → String
  | notBinary parameter value => s!"{parameter.label} must be 0 or 1, got {value}"
  | initialWindowSize value => s!"Initial window size {value} exceeds maximum (2^31-1)"
  | maxFrameSize value => s!"Max frame size {value} outside valid range (16384-16777215)"

end Http2.Settings
