/-!
The states of one request's stream, in the order in which it passes through them.
-/

namespace Http2.Stream

inductive State where
  /-- It has its number and nothing was sent. -/
  | idle
  /-- The request went out. -/
  | headersSent
  /-- A frame was read since the request went out. -/
  | awaitingFrames
  /-- It ended, by either side. -/
  | closed
  deriving DecidableEq, Repr

namespace State

def name : State → String
  | idle => "Idle"
  | headersSent => "HeadersSent"
  | awaitingFrames => "AwaitingFrames"
  | closed => "Closed"

/-- The text of a stream's state, or of there being no such stream. -/
def describe : Option State → String
  | none => "None"
  | some state => s!"Some({state.name})"

/-- The place of a state in the order of a stream's life. -/
def rank : State → Nat
  | idle => 0
  | headersSent => 1
  | awaitingFrames => 2
  | closed => 3

/-- The request went out and the response has not ended. -/
def isAwaiting : State → Bool
  | headersSent | awaitingFrames => true
  | idle | closed => false

end State

end Http2.Stream
