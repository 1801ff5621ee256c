import Http2.Bytes

/-!
UTF-8: the encoded form of a text, the first fault of a byte string that is no such form, and the
lossy reading, which puts U+FFFD for every maximal piece of a broken form.
-/

namespace Http2.Text.Utf8

/-- The UTF-8 form of a text. -/
def encode (s : String) : Bytes :=
  s.toList.flatMap String.utf8EncodeChar

/-! ### One piece of a byte string -/

/-- What a lead byte asks for: its share of the code point, the least and the greatest second
byte, and the number of bytes that follow it. -/
structure Lead where
  bits : Nat
  low : UInt8 := 0x80
  high : UInt8 := 0xBF
  tails : Nat

/-- A lead byte's demands; `none` for a byte that begins no form. -/
def Lead.of? (b : UInt8) : Option Lead :=
  if b < 0x80 then some { bits := b.toNat, tails := 0 }
  else if b < 0xC2 then none
  else if b < 0xE0 then some { bits := b.toNat - 0xC0, tails := 1 }
  else if b < 0xF0 then
    some { bits := b.toNat - 0xE0, tails := 2
           low := if b = 0xE0 then 0xA0 else 0x80
           high := if b = 0xED then 0x9F else 0xBF }
  else if b < 0xF5 then
    some { bits := b.toNat - 0xF0, tails := 3
           low := if b = 0xF0 then 0x90 else 0x80
           high := if b = 0xF4 then 0x8F else 0xBF }
  else none

/-- A byte that may stand third or fourth in a form. -/
def isTail (b : UInt8) : Bool :=
  0x80 ≤ b && b ≤ 0xBF

/-- The bytes at the front that go on from the lead. -/
def Lead.accepted (l : Lead) (rest : Bytes) : Bytes :=
  match rest.take l.tails with
  | [] => []
  | b :: bs => if l.low ≤ b ∧ b ≤ l.high then b :: bs.takeWhile isTail else []

def Lead.value (l : Lead) (tails : Bytes) : Nat :=
  tails.foldl (fun n t => n * 64 + (t.toNat - 0x80)) l.bits

/-- A piece at the front of a byte string. -/
inductive Piece where
  /-- The form of a character. -/
  | char (c : Char)
  /-- A beginning of a form, or a single byte, that the next byte cannot complete. -/
  | broken
  /-- A beginning of a form at the very end. -/
  | cut
  deriving DecidableEq, Repr

/-- The piece at the front of `b :: rest`, and how many bytes of `rest` belong to it. -/
def piece (b : UInt8) (rest : Bytes) : Piece × Nat :=
  match Lead.of? b with
  | none => (.broken, 0)
  | some l =>
    let tails := l.accepted rest
    if tails.length = l.tails then (.char (Char.ofNat (l.value tails)), tails.length)
    else if (rest.drop tails.length).isEmpty then (.cut, tails.length)
    else (.broken, tails.length)

/-! ### Whole byte strings -/

/-- Why a byte string is no UTF-8. -/
inductive Fault where
  /-- A piece of `width` bytes at `index` that nothing can complete. -/
  | invalid (width index : Nat)
  /-- A form that begins at `index` and is cut off by the end. -/
  | incomplete (index : Nat)
  deriving DecidableEq, Repr

def Fault.message : Fault → String
  | .invalid width index => s!"invalid utf-8 sequence of {width} bytes from index {index}"
  | .incomplete index => s!"incomplete utf-8 byte sequence from index {index}"

/-- Reads strictly, with the characters before `index` in `done`, last first. -/
def decodeFrom (index : Nat) (done : List Char) : Bytes → Except Fault (List Char)
  | [] => .ok done.reverse
  | b :: rest =>
    match piece b rest with
    | (.char c, n) => decodeFrom (index + n + 1) (c :: done) (rest.drop n)
    | (.broken, n) => .error (.invalid (n + 1) index)
    | (.cut, _) => .error (.incomplete index)
termination_by bs => bs.length
decreasing_by simp only [List.length_drop, List.length_cons]; omega

/-- The text of a byte string, or its first fault. -/
def decode (bs : Bytes) : Except Fault String :=
  (decodeFrom 0 [] bs).map String.ofList

/-- Reads leniently, with the characters so far in `done`, last first. -/
def lossyFrom (done : List Char) : Bytes → List Char
  | [] => done.reverse
  | b :: rest =>
    match piece b rest with
    | (.char c, n) => lossyFrom (c :: done) (rest.drop n)
    | (_, n) => lossyFrom ('\uFFFD' :: done) (rest.drop n)
termination_by bs => bs.length
decreasing_by all_goals simp only [List.length_drop, List.length_cons]; omega

/-- The text of a byte string with U+FFFD for every piece that is no character's form. -/
def lossy (bs : Bytes) : String :=
  String.ofList (lossyFrom [] bs)

end Http2.Text.Utf8
