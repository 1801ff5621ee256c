import Http2.Hpack.Primitive
import Http2.Hpack.Table

/-!
Header blocks. Where a list of fields is compressed, a field that stands in a table is named by its
index. One whose name alone stands there is written with the index of the name and not added to the
table. Any other is written out and added. Strings are never Huffman-coded.

Where a block is decompressed, the first bits of each item say what it is: a field by its index, a
field written out that is added to the table, a new limit of the table, or a field written out that
is not added. Main statement: every item takes at least one byte off the block, so a block is read
to its end or to its first fault; the table keeps what the items before a fault changed.
-/

namespace Http2.Hpack

/-! ### Compressing -/

/-- Where a field stands in the tables. -/
inductive Occurrence where
  /-- Name and value stand at the index. -/
  | whole (index : Nat)
  /-- The name alone stands at the index. -/
  | name (index : Nat)
  | nowhere
  deriving DecidableEq, Repr

/-- Looks through entries from `index` on for a whole occurrence, and for want of one gives the
last occurrence of the name. -/
def searchFrom (e : Entry) (index : Nat) (found : Occurrence) : List Entry → Occurrence
  | [] => found
  | x :: xs =>
    if x.name = e.name then
      if x.value = e.value then .whole index else searchFrom e (index + 1) (.name index) xs
    else searchFrom e (index + 1) found xs

/-- The occurrence of a field in both tables. -/
def Table.search (t : Table) (e : Entry) : Occurrence :=
  searchFrom e 1 .nowhere t.all

/-- A string as it is, after its length. -/
def encodeString (s : Bytes) : Bytes :=
  Integer.encode 0 7 s.length ++ s

/-- One field, and the table after it. -/
def encodeField (t : Table) (e : Entry) : Bytes × Table :=
  match t.search e with
  | .whole index => (Integer.encode 0x80 7 index, t)
  | .name index => (Integer.encode 0x00 4 index ++ encodeString e.value, t)
  | .nowhere => (0x40 :: (encodeString e.name ++ encodeString e.value), t.insert e)

def encode (t : Table) : List Entry → Bytes × Table
  | [] => ([], t)
  | e :: es =>
    let (bs, t) := encodeField t e
    let (rest, t) := encode t es
    (bs ++ rest, t)

theorem encode_append (t : Table) (es fs : List Entry) :
    encode t (es ++ fs) =
      ((encode t es).1 ++ (encode (encode t es).2 fs).1, (encode (encode t es).2 fs).2) := by
  induction es generalizing t with
  | nil => simp [encode]
  | cons e es ih => simp [encode, ih]

/-! ### Decompressing -/

/-- Reads a string, coded or not, and the bytes after it. -/
def decodeString (bs : Bytes) : Except Fault (Bytes × Bytes) :=
  match Integer.decode 7 bs with
  | .error e => .error (.integer e)
  | .ok (length, rest) =>
    let raw := rest.take length
    if raw.length < length then .error .unfinishedString
    else if 0x80 ≤ bs.headD 0 then
      match Huffman.decode raw with
      | .error e => .error (.huffman e)
      | .ok s => .ok (s, rest.drop length)
    else .ok (raw, rest.drop length)

/-- Reads a name: by its index, or written out where the index is zero. -/
def decodeName (t : Table) (index : Nat) (bs : Bytes) : Except Fault (Bytes × Bytes) :=
  if index = 0 then decodeString bs
  else
    match t.entry? index with
    | none => .error .index
    | some e => .ok (e.name, bs)

/-- Reads a field that is written out, with the index of its name in `width` bits. -/
def decodeLiteral (t : Table) (width : Nat) (bs : Bytes) : Except Fault (Entry × Bytes) :=
  match Integer.decode width bs with
  | .error e => .error (.integer e)
  | .ok (index, rest) =>
    match decodeName t index rest with
    | .error e => .error e
    | .ok (name, rest) =>
      match decodeString rest with
      | .error e => .error e
      | .ok (value, rest) => .ok (⟨name, value⟩, rest)

def decodeIndexed (t : Table) (bs : Bytes) : Except Fault (Entry × Bytes) :=
  match Integer.decode 7 bs with
  | .error e => .error (.integer e)
  | .ok (index, rest) =>
    match t.entry? index with
    | none => .error .index
    | some e => .ok (e, rest)

/-- What one item of a block gives: a field or none, and the table after it. -/
structure Item where
  field : Option Entry
  table : Table

/-- Reads one item, and the bytes after it. -/
def decodeItem (t : Table) (bs : Bytes) : Except Fault (Item × Bytes) :=
  let first := (bs.headD 0).toNat
  if 0x80 ≤ first then
    (decodeIndexed t bs).map fun (e, rest) => (⟨some e, t⟩, rest)
  else if 0x40 ≤ first then
    (decodeLiteral t 6 bs).map fun (e, rest) => (⟨some e, t.insert e⟩, rest)
  else if 0x20 ≤ first then
    match Integer.decode 5 bs with
    | .error e => .error (.sizeUpdate e)
    | .ok (limit, rest) => .ok (⟨none, t.resize limit⟩, rest)
  else (decodeLiteral t 4 bs).map fun (e, rest) => (⟨some e, t⟩, rest)

/-! ### Every item takes a byte -/

theorem length_of_decodeString {bs s rest : Bytes} (h : decodeString bs = .ok (s, rest)) :
    rest.length < bs.length := by
  unfold decodeString at h
  split at h
  · cases h
  · next he =>
    have := Integer.length_of_decode he
    simp only at h
    split at h
    · cases h
    · split at h
      · split at h
        · cases h
        · cases h
          rw [List.length_drop]
          omega
      · cases h
        rw [List.length_drop]
        omega

theorem length_of_decodeName {t : Table} {index : Nat} {bs name rest : Bytes}
    (h : decodeName t index bs = .ok (name, rest)) : rest.length ≤ bs.length := by
  unfold decodeName at h
  split at h
  · exact Nat.le_of_lt (length_of_decodeString h)
  · split at h
    · cases h
    · cases h
      exact Nat.le_refl _

theorem length_of_decodeLiteral {t : Table} {width : Nat} {bs rest : Bytes} {e : Entry}
    (h : decodeLiteral t width bs = .ok (e, rest)) : rest.length < bs.length := by
  unfold decodeLiteral at h
  split at h
  · cases h
  · next h₁ =>
    split at h
    · cases h
    · next h₂ =>
      split at h
      · cases h
      · next h₃ =>
        cases h
        have := Integer.length_of_decode h₁
        have := length_of_decodeName h₂
        have := length_of_decodeString h₃
        omega

theorem length_of_decodeIndexed {t : Table} {bs rest : Bytes} {e : Entry}
    (h : decodeIndexed t bs = .ok (e, rest)) : rest.length < bs.length := by
  unfold decodeIndexed at h
  split at h
  · cases h
  · next h₁ =>
    split at h
    · cases h
    · cases h
      exact Integer.length_of_decode h₁

theorem length_of_decodeItem {t : Table} {bs rest : Bytes} {item : Item}
    (h : decodeItem t bs = .ok (item, rest)) : rest.length < bs.length := by
  have map_ok {α β : Type} {x : Except Fault α} {f : α → β} {b : β}
      (h : x.map f = .ok b) : ∃ a, x = .ok a ∧ f a = b := by
    cases x with
    | error e => cases h
    | ok a => exact ⟨a, rfl, by cases h; rfl⟩
  unfold decodeItem at h
  simp only at h
  split at h
  · obtain ⟨⟨e, r⟩, h₁, h₂⟩ := map_ok h
    cases h₂
    exact length_of_decodeIndexed h₁
  split at h
  · obtain ⟨⟨e, r⟩, h₁, h₂⟩ := map_ok h
    cases h₂
    exact length_of_decodeLiteral h₁
  split at h
  · split at h
    · cases h
    · next h₁ =>
      cases h
      exact Integer.length_of_decode h₁
  · obtain ⟨⟨e, r⟩, h₁, h₂⟩ := map_ok h
    cases h₂
    exact length_of_decodeLiteral h₁

/-! ### Whole blocks -/

/-- Reads items to the end of a block, with the fields so far in `done`, last first. -/
def decodeFrom (t : Table) (done : List Entry) (bs : Bytes) :
    Except Fault (List Entry) × Table :=
  if bs.isEmpty then (.ok done.reverse, t)
  else
    match h : decodeItem t bs with
    | .error e => (.error e, t)
    | .ok (item, rest) =>
      have := length_of_decodeItem h
      decodeFrom item.table (item.field.toList ++ done) rest
termination_by bs.length

/-- The fields of a header block, and the table after it. -/
def decode (t : Table) (block : Bytes) : Except Fault (List Entry) × Table :=
  decodeFrom t [] block

end Http2.Hpack
