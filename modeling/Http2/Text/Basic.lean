import Http2.Text.Characters

/-!
Texts: the case of their ASCII letters, their parts between separators, numbers in them, and the
quoted form in which messages show the text they complain about.
-/

namespace Http2.Text

/-! ### Letter case -/

/-- The text with `A` to `Z` made small. -/
def asciiLower (s : String) : String :=
  s.map Char.toLower

def sameIgnoringCase (s t : String) : Bool :=
  asciiLower s == asciiLower t

def hasAsciiUpper (s : String) : Bool :=
  s.toList.any Char.isUpper

/-! ### Parts -/

/-- The parts between the characters that separate. -/
def parts (isSeparator : Char → Bool) : List Char → List (List Char)
  | [] => [[]]
  | c :: cs =>
    match parts isSeparator cs with
    | [] => [[c]]
    | p :: ps => if isSeparator c then [] :: p :: ps else (c :: p) :: ps

/-! ### Numbers -/

/-- Lower-case hexadecimal digits without leading zeros. -/
def hex (n : Nat) : String :=
  String.ofList (Nat.toDigits 16 n)

def hexByte (b : UInt8) : String :=
  String.ofList [(b.toNat / 16).digitChar, (b.toNat % 16).digitChar]

def digitsValue (ds : List Char) : Nat :=
  ds.foldl (fun n d => n * 10 + (d.toNat - '0'.toNat)) 0

/-- The characters after one leading `+`, if there is one. -/
def withoutPlus : List Char → List Char
  | '+' :: ds => ds
  | ds => ds

/-- A 16-bit number: one optional `+`, then at least one ASCII digit, with any leading zeros. -/
def word16? (cs : List Char) : Option Nat :=
  let ds := withoutPlus cs
  if ds ≠ [] ∧ ds.all Char.isDigit ∧ digitsValue ds < 65536 then some (digitsValue ds) else none

/-! ### Quotes -/

def quotedChar : Char → List Char
  | '"' => ['\\', '"']
  | '\\' => ['\\', '\\']
  | '\n' => ['\\', 'n']
  | '\r' => ['\\', 'r']
  | '\t' => ['\\', 't']
  | '\x00' => ['\\', '0']
  | c => if isPrintable c then [c] else "\\u\x7b".toList ++ (hex c.toNat).toList ++ ['\x7d']

/-- A text in double quotes, with the quote, the backslash and all that has no shape escaped. -/
def quoted (s : String) : String :=
  String.ofList ('"' :: s.toList.flatMap quotedChar ++ ['"'])

end Http2.Text
