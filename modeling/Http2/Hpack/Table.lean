import Http2.Bytes
import Http2.Text.Utf8

/-!
The tables of header compression: the fixed static table, and the dynamic table, which drops its
oldest entries when it outgrows its limit. Main statement: the entries that are kept never take
more than the limit.
-/

namespace Http2.Hpack

structure Entry where
  name : Bytes
  value : Bytes
  deriving DecidableEq, Repr

/-- What an entry counts against a table's limit. -/
def Entry.size (e : Entry) : Nat := e.name.length + e.value.length + 32

/-! ### The static table -/

/-- The names and values of the static table, from index 1 on. -/
def staticFields : List (String × String) :=
  [(":authority", ""), (":method", "GET"), (":method", "POST"), (":path", "/"),
    (":path", "/index.html"), (":scheme", "http"), (":scheme", "https"), (":status", "200"),
    (":status", "204"), (":status", "206"), (":status", "304"), (":status", "400"),
    (":status", "404"), (":status", "500"), ("accept-", ""),
    ("accept-encoding", "gzip, deflate"), ("accept-language", ""), ("accept-ranges", ""),
    ("accept", ""), ("access-control-allow-origin", ""), ("age", ""), ("allow", ""),
    ("authorization", ""), ("cache-control", ""), ("content-disposition", ""),
    ("content-encoding", ""), ("content-language", ""), ("content-length", ""),
    ("content-location", ""), ("content-range", ""), ("content-type", ""), ("cookie", ""),
    ("date", ""), ("etag", ""), ("expect", ""), ("expires", ""), ("from", ""), ("host", ""),
    ("if-match", ""), ("if-modified-since", ""), ("if-none-match", ""), ("if-range", ""),
    ("if-unmodified-since", ""), ("last-modified", ""), ("link", ""), ("location", ""),
    ("max-forwards", ""), ("proxy-authenticate", ""), ("proxy-authorization", ""),
    ("range", ""), ("referer", ""), ("refresh", ""), ("retry-after", ""), ("server", ""),
    ("set-cookie", ""), ("strict-transport-security", ""), ("transfer-encoding", ""),
    ("user-agent", ""), ("vary", ""), ("via", ""), ("www-authenticate", "")]

def staticEntries : List Entry :=
  staticFields.map fun (name, value) => ⟨Text.Utf8.encode name, Text.Utf8.encode value⟩

/-! ### The dynamic table -/

/-- The newest entries that fit in `room` together. -/
def fit (room : Nat) : List Entry → List Entry
  | [] => []
  | e :: es => if e.size ≤ room then e :: fit (room - e.size) es else []

/-- A dynamic table. -/
structure Table where
  limit : Nat
  /-- The newest first. -/
  entries : List Entry
  deriving DecidableEq, Repr

namespace Table

/-- The table that both ends of a connection begin with. -/
def initial : Table := ⟨4096, []⟩

def size (t : Table) : Nat := (t.entries.map Entry.size).sum

/-- Adds an entry, dropping the oldest ones that no longer fit; one that is too large by itself
empties the table. -/
def insert (t : Table) (e : Entry) : Table :=
  { t with entries := fit t.limit (e :: t.entries) }

/-- Sets a new limit, dropping the oldest entries that no longer fit. -/
def resize (t : Table) (limit : Nat) : Table :=
  ⟨limit, fit limit t.entries⟩

/-- Both tables in the order of their indices. -/
def all (t : Table) : List Entry := staticEntries ++ t.entries

/-- The entry at an index; the static table begins at 1. -/
def entry? (t : Table) : Nat → Option Entry
  | 0 => none
  | i + 1 => t.all[i]?

theorem sum_fit_le (room : Nat) (es : List Entry) : ((fit room es).map Entry.size).sum ≤ room := by
  induction es generalizing room with
  | nil => simp [fit]
  | cons e es ih =>
    unfold fit
    split
    · have := ih (room - e.size)
      simp only [List.map_cons, List.sum_cons]
      omega
    · simp

theorem size_insert_le (t : Table) (e : Entry) : (t.insert e).size ≤ (t.insert e).limit :=
  sum_fit_le _ _

theorem size_resize_le (t : Table) (limit : Nat) : (t.resize limit).size ≤ (t.resize limit).limit :=
  sum_fit_le _ _

end Table

end Http2.Hpack
