import Http2.Text.Basic

/-!
The error codes that RST_STREAM and GOAWAY frames carry. Main statement: reading the number of a
code gives back the code, unless it is an `unknown` with a number that has a name.
-/

namespace Http2

inductive ErrorCode where
  | noError | protocolError | internalError | flowControlError | settingsTimeout | streamClosed
  | frameSizeError | refusedStream | cancel | compressionError | connectError | enhanceYourCalm
  | inadequateSecurity | http11Required
  /-- A code without a name. -/
  | unknown (code : Nat)
  deriving DecidableEq, Repr

namespace ErrorCode

/-- The number on the wire. -/
def toNat : ErrorCode → Nat
  | noError => 0x0
  | protocolError => 0x1
  | internalError => 0x2
  | flowControlError => 0x3
  | settingsTimeout => 0x4
  | streamClosed => 0x5
  | frameSizeError => 0x6
  | refusedStream => 0x7
  | cancel => 0x8
  | compressionError => 0x9
  | connectError => 0xa
  | enhanceYourCalm => 0xb
  | inadequateSecurity => 0xc
  | http11Required => 0xd
  | unknown code => code

def ofNat : Nat → ErrorCode
  | 0x0 => noError
  | 0x1 => protocolError
  | 0x2 => internalError
  | 0x3 => flowControlError
  | 0x4 => settingsTimeout
  | 0x5 => streamClosed
  | 0x6 => frameSizeError
  | 0x7 => refusedStream
  | 0x8 => cancel
  | 0x9 => compressionError
  | 0xa => connectError
  | 0xb => enhanceYourCalm
  | 0xc => inadequateSecurity
  | 0xd => http11Required
  | code => unknown code

def name : ErrorCode → String
  | noError => "NO_ERROR"
  | protocolError => "PROTOCOL_ERROR"
  | internalError => "INTERNAL_ERROR"
  | flowControlError => "FLOW_CONTROL_ERROR"
  | settingsTimeout => "SETTINGS_TIMEOUT"
  | streamClosed => "STREAM_CLOSED"
  | frameSizeError => "FRAME_SIZE_ERROR"
  | refusedStream => "REFUSED_STREAM"
  | cancel => "CANCEL"
  | compressionError => "COMPRESSION_ERROR"
  | connectError => "CONNECT_ERROR"
  | enhanceYourCalm => "ENHANCE_YOUR_CALM"
  | inadequateSecurity => "INADEQUATE_SECURITY"
  | http11Required => "HTTP_1_1_REQUIRED"
  | unknown _ => "UNKNOWN"

/-- The name with the number after it. -/
def label (c : ErrorCode) : String :=
  s!"{c.name} (0x{Text.hex c.toNat})"

@[simp] theorem toNat_ofNat (n : Nat) : (ofNat n).toNat = n := by
  unfold ofNat
  split <;> rfl

end ErrorCode

end Http2
