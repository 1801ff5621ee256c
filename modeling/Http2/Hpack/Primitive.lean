import Http2.Bytes

/-!
The integers and coded strings of header compression, and why a header block cannot be decoded.

An integer takes the low bits of a first octet, and where those are all ones, seven bits more in
each further octet, least significant first. At most five octets are read.

The Huffman code is canonical: the lengths alone fix it, since the codes of one length follow one
another in the order of their symbols, and the first code of a length follows the last shorter one.
So a string is read level by level, where a level holds the symbols of one length and an offset
counts the codes from the first one of that length.
-/

namespace Http2.Hpack

/-! ### Faults -/

inductive HuffmanFault where
  /-- The end-of-string code occurs. -/
  | endOfString
  /-- More than seven bits are left over. -/
  | longPadding
  /-- The bits left over are not all ones. -/
  | wrongPadding
  deriving DecidableEq, Repr

inductive IntegerFault where
  /-- It goes on after its fifth octet. -/
  | tooLong
  /-- The block ends inside it. -/
  | unfinished
  deriving DecidableEq, Repr

/-- What is wrong with a header block. -/
inductive Fault where
  | integer (fault : IntegerFault)
  /-- The block ends inside a string. -/
  | unfinishedString
  | huffman (fault : HuffmanFault)
  /-- No table has an entry at the index. -/
  | index
  /-- The integer of a table size update is bad. The `hpack` library does not report this but panics,
  and a caller gets no answer at all; the fault stands for that. -/
  | sizeUpdate (fault : IntegerFault)
  deriving DecidableEq, Repr

def HuffmanFault.name : HuffmanFault → String
  | endOfString => "EOSInString"
  | longPadding => "PaddingTooLarge"
  | wrongPadding => "InvalidPadding"

def IntegerFault.name : IntegerFault → String
  | tooLong => "TooManyOctets"
  | unfinished => "NotEnoughOctets"

/-- The name of a fault, with its parts in parentheses. That of `sizeUpdate` is made up, as no such
fault is ever reported. -/
def Fault.name : Fault → String
  | integer f => s!"IntegerDecodingError({f.name})"
  | unfinishedString => "StringDecodingError(NotEnoughOctets)"
  | huffman f => s!"StringDecodingError(HuffmanDecoderError({f.name}))"
  | index => "HeaderIndexOutOfBounds"
  | sizeUpdate f => s!"SizeUpdateDecodingError({f.name})"

/-! ### Integers -/

namespace Integer

/-- The greatest number that `width` bits of a first octet can hold. -/
def mask (width : Nat) : Nat := 2 ^ width - 1

/-- The octets after a full first octet. -/
def encodeTail (n : Nat) : Bytes :=
  if n < 128 then [UInt8.ofNat n]
  else UInt8.ofNat (n % 128 + 128) :: encodeTail (n / 128)
termination_by n

/-- A number after a pattern of leading bits, in the fewest octets. -/
def encode (pattern width n : Nat) : Bytes :=
  if n < mask width then [UInt8.ofNat (pattern + n)]
  else UInt8.ofNat (pattern + mask width) :: encodeTail (n - mask width)

/-- Reads at most `room` further octets; `value` counts what came before, `weight` the next. -/
def decodeTail : (room value weight : Nat) → Bytes → Except IntegerFault (Nat × Bytes)
  | 0, _, _, _ => .error .tooLong
  | _ + 1, _, _, [] => .error .unfinished
  | room + 1, value, weight, b :: rest =>
    let value := value + b.toNat % 128 * weight
    if b.toNat < 128 then .ok (value, rest)
    else decodeTail room value (weight * 128) rest

/-- The number of octets that may follow the first. -/
def tailRoom : Nat := 4

/-- Reads a number below the leading bits of the first octet, and the bytes after it. -/
def decode (width : Nat) : Bytes → Except IntegerFault (Nat × Bytes)
  | [] => .error .unfinished
  | b :: rest =>
    let value := b.toNat % 2 ^ width
    if value < mask width then .ok (value, rest) else decodeTail tailRoom value 1 rest

theorem length_of_decodeTail {room value weight : Nat} {bs rest : Bytes} {n : Nat}
    (h : decodeTail room value weight bs = .ok (n, rest)) : rest.length < bs.length := by
  fun_induction decodeTail room value weight bs with
  | case1 => cases h
  | case2 => cases h
  | case3 =>
    simp only [Except.ok.injEq, Prod.mk.injEq] at h
    simp [h.2]
  | case4 room value weight b bs _ _ ih =>
    have := ih h
    simp only [List.length_cons]
    omega

theorem length_of_decode {width : Nat} {bs rest : Bytes} {n : Nat}
    (h : decode width bs = .ok (n, rest)) : rest.length < bs.length := by
  unfold decode at h
  split at h
  · cases h
  · next b bs =>
    simp only at h
    split at h
    · cases h
      simp
    · have := length_of_decodeTail h
      simp only [List.length_cons]
      omega

end Integer

/-! ### Strings -/

namespace Huffman

/-- The number of bits of the code of each byte, and of the end of a string after them. -/
def lengths : List Nat :=
  [13, 23, 28, 28, 28, 28, 28, 28, 28, 24, 30, 28, 28, 30, 28, 28,
    28, 28, 28, 28, 28, 28, 30, 28, 28, 28, 28, 28, 28, 28, 28, 28,
    6, 10, 10, 12, 13, 6, 8, 11, 10, 10, 8, 11, 8, 6, 6, 6,
    5, 5, 5, 6, 6, 6, 6, 6, 6, 6, 7, 8, 15, 6, 12, 10,
    13, 6, 7, 7, 7, 7, 7, 7, 7, 7, 7, 7, 7, 7, 7, 7,
    7, 7, 7, 7, 7, 7, 7, 7, 8, 7, 8, 13, 19, 13, 14, 6,
    15, 5, 6, 5, 6, 5, 6, 6, 6, 5, 7, 7, 6, 6, 6, 5,
    6, 7, 6, 5, 5, 6, 7, 7, 7, 7, 7, 15, 11, 14, 13, 28,
    20, 22, 20, 20, 22, 22, 22, 23, 22, 23, 23, 23, 23, 23, 24, 23,
    24, 24, 22, 23, 24, 23, 23, 23, 23, 21, 22, 23, 22, 23, 23, 24,
    22, 21, 20, 22, 22, 23, 23, 21, 23, 22, 22, 24, 21, 22, 23, 23,
    21, 21, 22, 21, 23, 22, 23, 23, 20, 22, 22, 22, 23, 22, 22, 23,
    26, 26, 20, 19, 22, 23, 22, 25, 26, 26, 26, 27, 27, 26, 24, 25,
    19, 21, 26, 27, 27, 26, 27, 24, 21, 21, 26, 26, 28, 27, 27, 27,
    20, 24, 20, 21, 22, 21, 21, 23, 22, 22, 25, 25, 24, 24, 26, 23,
    26, 27, 26, 26, 27, 27, 27, 27, 27, 28, 27, 27, 27, 27, 27, 26,
    30]

/-- The symbol that ends a string, which no string may contain. -/
def endOfString : Nat := 256

def maxLength : Nat := 30

/-- The symbols with codes of `n` bits, in order. -/
def level (n : Nat) : List Nat :=
  lengths.zipIdx.filterMap fun (length, symbol) => if length = n then some symbol else none

/-- The symbols by the lengths of their codes, from one bit on. -/
def levels : List (List Nat) :=
  (List.range maxLength).map fun n => level (n + 1)

/-- A place inside a code: the levels below it, and how many codes of the bits read lie before
those bits, not counting the shorter codes. -/
structure Place where
  levels : List (List Nat)
  offset : Nat
  /-- How many bits were read. -/
  depth : Nat
  /-- They were all ones. -/
  ones : Bool

def Place.start : Place := ⟨Huffman.levels, 0, 0, true⟩

inductive Place.Next where
  | inside (p : Place)
  | symbol (s : Nat)

/-- Reads one bit. -/
def Place.step (p : Place) (bit : Bool) : Next :=
  let offset := 2 * p.offset + bit.toNat
  let symbols := p.levels.headD []
  match symbols[offset]? with
  | some s => .symbol s
  | none => .inside ⟨p.levels.tail, offset - symbols.length, p.depth + 1, p.ones && bit⟩

/-- What may be left over at the end of a string: at most seven ones. -/
def Place.finish (p : Place) : Except HuffmanFault Unit :=
  if 7 < p.depth then .error .longPadding
  else if p.ones then .ok ()
  else .error .wrongPadding

/-- Reads the bits from a place on, with the bytes so far in `done`, last first. -/
def decodeBits (p : Place) (done : Bytes) : List Bool → Except HuffmanFault Bytes
  | [] => p.finish.map fun _ => done.reverse
  | bit :: rest =>
    match p.step bit with
    | .inside q => decodeBits q done rest
    | .symbol s =>
      if s = endOfString then .error .endOfString
      else decodeBits .start (UInt8.ofNat s :: done) rest

/-- The bits of a byte, the highest first. -/
def bitsOf (b : UInt8) : List Bool :=
  (List.range 8).map fun i => b.toNat.testBit (7 - i)

def decode (bs : Bytes) : Except HuffmanFault Bytes :=
  decodeBits .start [] (bs.flatMap bitsOf)

end Huffman

end Http2.Hpack
