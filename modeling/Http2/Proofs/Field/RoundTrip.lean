import Http2.Field.Basic
import Http2.Proofs.Hpack.RoundTrip
import Http2.Proofs.Text.Basic

/-!
Lists of fields compressed one after another with one table, and their blocks decompressed with
another. Main statement: the lists that were not refused come back as they were, in order, and a
list that is refused leaves no trace in the blocks after it.
-/

namespace Http2.Field

/-! ### One list -/

/-- A field whose texts take less than 256 MiB each. -/
structure Short (f : Field) : Prop where
  name : f.1.utf8ByteSize < 2 ^ 28
  value : f.2.utf8ByteSize < 2 ^ 28

theorem Short.toEntry {f : Field} (h : f.Short) : f.toEntry.Short := by
  have hbound : 128 ^ 4 = 2 ^ 28 := by decide
  constructor
  · rw [hbound]
    exact (Text.Utf8.length_encode f.1).trans_lt h.name
  · rw [hbound]
    exact (Text.Utf8.length_encode f.2).trans_lt h.value

@[simp] theorem ofEntry_toEntry (f : Field) : ofEntry f.toEntry = f := by
  simp [ofEntry, toEntry, Text.Utf8.lossy_encode]

def isAllowed (fs : List Field) : Bool := (validateRequest fs).isOk

theorem compress_of_allowed {fs : List Field} (h : isAllowed fs = true) (t : Hpack.Table) :
    compress t fs = (.ok (Hpack.encode t (fs.map toEntry)).1, (Hpack.encode t (fs.map toEntry)).2) := by
  unfold isAllowed at h
  unfold compress
  split
  · next e he =>
    rw [he] at h
    cases h
  · rfl

theorem compress_of_not_allowed {fs : List Field} (h : isAllowed fs = false) :
    ∃ e, ∀ t, compress t fs = (.error e, t) := by
  unfold isAllowed at h
  cases hv : validateRequest fs with
  | error e => exact ⟨e, fun t => by rw [compress, hv]⟩
  | ok =>
    rw [hv] at h
    cases h

/-- **A list comes back as it was**, and the tables stay in step. -/
theorem decompress_encode {c p : Hpack.Table} (hw : c.Within p) (hb : c.Bounded) {fs : List Field}
    (hs : ∀ f ∈ fs, f.Short) :
    ∃ p', decompress p (Hpack.encode c (fs.map toEntry)).1 = (.ok fs, p') ∧
      (Hpack.encode c (fs.map toEntry)).2.Within p' := by
  have hshort : ∀ e ∈ fs.map toEntry, e.Short := by
    intro e he
    obtain ⟨f, hf, rfl⟩ := List.mem_map.1 he
    exact (hs f hf).toEntry
  obtain ⟨p', hdec, hw'⟩ := Hpack.decode_encode_of_short hw hb hshort
  refine ⟨p', ?_, hw'⟩
  rw [decompress, hdec]
  simp [Function.comp_def]

/-! ### Lists one after another -/

/-- Lists compressed one after another, with the table after them. -/
def compressAll (t : Hpack.Table) : List (List Field) → List (Except Error Bytes) × Hpack.Table
  | [] => ([], t)
  | fs :: lists =>
    ((compress t fs).1 :: (compressAll (compress t fs).2 lists).1,
      (compressAll (compress t fs).2 lists).2)

def decompressAll (t : Hpack.Table) :
    List Bytes → List (Except Error (List Field)) × Hpack.Table
  | [] => ([], t)
  | block :: blocks =>
    ((decompress t block).1 :: (decompressAll (decompress t block).2 blocks).1,
      (decompressAll (decompress t block).2 blocks).2)

def blocks (rs : List (Except Error Bytes)) : List Bytes := rs.filterMap Except.toOption

theorem compressAll_append (t : Hpack.Table) (a b : List (List Field)) :
    compressAll t (a ++ b) =
      ((compressAll t a).1 ++ (compressAll (compressAll t a).2 b).1,
        (compressAll (compressAll t a).2 b).2) := by
  induction a generalizing t with
  | nil => rfl
  | cons fs a ih => simp [compressAll, ih]

theorem length_compressAll (t : Hpack.Table) (lists : List (List Field)) :
    (compressAll t lists).1.length = lists.length := by
  induction lists generalizing t with
  | nil => rfl
  | cons fs lists ih => simp [compressAll, ih]

theorem map_isOk_compressAll (t : Hpack.Table) (lists : List (List Field)) :
    (compressAll t lists).1.map Except.isOk = lists.map isAllowed := by
  induction lists generalizing t with
  | nil => rfl
  | cons fs lists ih =>
    rw [compressAll, List.map_cons, List.map_cons, ih]
    congr 1
    cases h : isAllowed fs with
    | true => rw [compress_of_allowed h]; rfl
    | false =>
      obtain ⟨e, he⟩ := compress_of_not_allowed h
      rw [he]
      rfl

/-- A list that is refused leaves no trace. -/
theorem eraseIdx_compressAll (t : Hpack.Table) (a b : List (List Field)) {fs : List Field}
    (h : isAllowed fs = false) :
    (compressAll t (a ++ fs :: b)).1.eraseIdx a.length = (compressAll t (a ++ b)).1 := by
  obtain ⟨e, he⟩ := compress_of_not_allowed h
  rw [compressAll_append, compressAll_append, compressAll, he]
  simp only
  rw [List.eraseIdx_append_of_length_le (Nat.le_of_eq (length_compressAll t a)),
    length_compressAll, Nat.sub_self, List.eraseIdx_cons_zero]

theorem decompressAll_blocks {c p : Hpack.Table} (hw : c.Within p) (hb : c.Bounded)
    {lists : List (List Field)} (hs : ∀ fs ∈ lists, ∀ f ∈ fs, Short f) :
    (decompressAll p (blocks (compressAll c lists).1)).1 = (lists.filter isAllowed).map .ok := by
  induction lists generalizing c p with
  | nil => rfl
  | cons fs lists ih =>
    have hrest := fun fs hfs => hs fs (List.mem_cons_of_mem _ hfs)
    cases h : isAllowed fs with
    | true =>
      obtain ⟨p', hread, hw'⟩ := decompress_encode hw hb (hs fs List.mem_cons_self)
      rw [compressAll, compress_of_allowed h, List.filter_cons_of_pos h, List.map_cons,
        ← ih hw' (hb.encode _) hrest]
      simp only [blocks, List.filterMap_cons, Except.toOption, decompressAll, hread]
    | false =>
      obtain ⟨e, he⟩ := compress_of_not_allowed h
      rw [compressAll, he, List.filter_cons_of_neg (by simp [h]), ← ih hw hb hrest]
      rfl

/-- **Lists of fields and their blocks.** One table compresses lists one after another, and refuses
those that fail the check of a request. Decompressing the blocks with another table gives every
list that was not refused, as it was and in order, and without a refused list the results for all
others are the same. -/
theorem decompressAll_compressAll (lists : List (List Field))
    (hs : ∀ fs ∈ lists, ∀ f ∈ fs, Short f) :
    (compressAll .initial lists).1.map Except.isOk = lists.map isAllowed ∧
      (decompressAll .initial (blocks (compressAll .initial lists).1)).1 =
        (lists.filter isAllowed).map .ok ∧
      ∀ a fs b, lists = a ++ fs :: b → isAllowed fs = false →
        (compressAll .initial lists).1.eraseIdx a.length = (compressAll .initial (a ++ b)).1 := by
  refine ⟨map_isOk_compressAll _ _,
    decompressAll_blocks (.refl _) Hpack.Table.bounded_initial hs, ?_⟩
  rintro a fs b rfl h
  exact eraseIdx_compressAll _ a b h

/-- A new field, a list that is refused, and the field again with a name that is no ASCII. -/
def threeLists : List (List Field) :=
  [[(":method", "GET"), ("x-new", "v")], [("x-new", "w"), ("Bad", "v")],
    [(":path", "/ü"), ("x-new", "v"), ("naïve", "€")]]

theorem decompressAll_compressAll_threeLists :
    (∀ fs ∈ threeLists, ∀ f ∈ fs, Short f) ∧
      (decompressAll .initial (blocks (compressAll .initial threeLists).1)).1 =
        [.ok [(":method", "GET"), ("x-new", "v")],
          .ok [(":path", "/ü"), ("x-new", "v"), ("naïve", "€")]] := by
  have hs : ∀ fs ∈ threeLists, ∀ f ∈ fs, Short f := by
    have hsizes : ∀ fs ∈ threeLists, ∀ f ∈ fs,
        f.1.utf8ByteSize < 2 ^ 28 ∧ f.2.utf8ByteSize < 2 ^ 28 := by decide +kernel
    exact fun fs hfs f hf => ⟨(hsizes fs hfs f hf).1, (hsizes fs hfs f hf).2⟩
  have hallowed : threeLists.filter isAllowed =
      [[(":method", "GET"), ("x-new", "v")],
        [(":path", "/ü"), ("x-new", "v"), ("naïve", "€")]] := by decide +kernel
  refine ⟨hs, ?_⟩
  rw [(decompressAll_compressAll threeLists hs).2.1, hallowed]
  rfl

end Http2.Field
