import Http2.Text.Basic

/-!
The kinds of frames. Main statement: every byte is the byte of the kind that it names.
-/

namespace Http2.Frame

inductive Kind where
  | data | headers | priority | rstStream | settings | pushPromise | ping | goaway | windowUpdate
  | continuation
  /-- An extension, which a receiver ignores. -/
  | unknown (byte : UInt8)
  deriving DecidableEq, Repr

namespace Kind

def toByte : Kind → UInt8
  | data => 0x0
  | headers => 0x1
  | priority => 0x2
  | rstStream => 0x3
  | settings => 0x4
  | pushPromise => 0x5
  | ping => 0x6
  | goaway => 0x7
  | windowUpdate => 0x8
  | continuation => 0x9
  | unknown byte => byte

def ofByte (byte : UInt8) : Kind :=
  match byte.toNat with
  | 0x0 => data
  | 0x1 => headers
  | 0x2 => priority
  | 0x3 => rstStream
  | 0x4 => settings
  | 0x5 => pushPromise
  | 0x6 => ping
  | 0x7 => goaway
  | 0x8 => windowUpdate
  | 0x9 => continuation
  | _ => unknown byte

def name : Kind → String
  | data => "DATA"
  | headers => "HEADERS"
  | priority => "PRIORITY"
  | rstStream => "RST_STREAM"
  | settings => "SETTINGS"
  | pushPromise => "PUSH_PROMISE"
  | ping => "PING"
  | goaway => "GOAWAY"
  | windowUpdate => "WINDOW_UPDATE"
  | continuation => "CONTINUATION"
  | unknown _ => "UNKNOWN"

/-- The name with the byte after it. -/
def label (k : Kind) : String :=
  s!"{k.name} (0x{Text.hex k.toByte.toNat})"

@[simp] theorem toByte_ofByte (byte : UInt8) : (ofByte byte).toByte = byte := by
  unfold ofByte
  split <;> (apply UInt8.toNat_inj.1; simp_all [toByte])

end Kind

end Http2.Frame
