import Http2.Hpack.Codec

/-!
Header blocks and their fields. A decoder whose table begins with the entries of the encoder's
reads back what was encoded, and its table then begins with the encoder's again: the two stay in
step, and entries that the decoder alone still has do no harm. The decoder's table may have the
greater limit.
-/

namespace Http2.Hpack

/-! ### Integers -/

namespace Integer

/-- The further octets of a number that fits them are read back. -/
theorem decodeTail_encodeTail (room value weight : Nat) {n : Nat} (h : n < 128 ^ (room + 1))
    (rest : Bytes) :
    decodeTail (room + 1) value weight (encodeTail n ++ rest) = .ok (value + n * weight, rest) := by
  induction room generalizing n value weight with
  | zero =>
    have hn : n < 128 := by simpa using h
    rw [encodeTail, if_pos hn, List.singleton_append, decodeTail]
    simp only [UInt8.toNat_ofNat_of_lt' (show n < 256 by omega), Nat.mod_eq_of_lt hn, hn, if_true]
  | succ room ih =>
    rw [encodeTail]
    split
    · next hn =>
      rw [List.singleton_append, decodeTail]
      simp only [UInt8.toNat_ofNat_of_lt' (show n < 256 by omega), Nat.mod_eq_of_lt hn, hn, if_true]
    · next hn =>
      have hb : (UInt8.ofNat (n % 128 + 128)).toNat = n % 128 + 128 :=
        UInt8.toNat_ofNat_of_lt' (show n % 128 + 128 < 256 by omega)
      have hmod : (n % 128 + 128) % 128 = n % 128 := by omega
      have hdiv : n / 128 < 128 ^ (room + 1) := by
        rw [Nat.pow_succ] at h
        exact Nat.div_lt_of_lt_mul (by rwa [Nat.mul_comm])
      rw [List.cons_append, decodeTail]
      simp only [hb, hmod, show ¬ n % 128 + 128 < 128 by omega, if_false]
      rw [ih _ _ hdiv]
      -- the first seven bits and the rest make up the number
      have hsum : n % 128 * weight + n / 128 * (weight * 128) = n * weight := by
        conv => rhs; rw [← Nat.mod_add_div n 128]
        rw [Nat.add_mul, Nat.mul_comm 128, Nat.mul_assoc, Nat.mul_comm weight]
      rw [Nat.add_assoc, hsum]

theorem exists_encode_eq_cons {pattern width : Nat} (h : pattern + mask width < 256) (n : Nat) :
    ∃ b tail, encode pattern width n = b :: tail ∧ pattern ≤ b.toNat ∧
      b.toNat ≤ pattern + mask width := by
  unfold encode
  split
  · next hn =>
    refine ⟨_, _, rfl, ?_⟩
    rw [UInt8.toNat_ofNat_of_lt' (show pattern + n < 256 by omega)]
    omega
  · refine ⟨_, _, rfl, ?_⟩
    rw [UInt8.toNat_ofNat_of_lt' h]
    omega

/-- **A number that fits five octets** is read back. -/
theorem decode_encode {pattern width n : Nat} (hp : pattern % 2 ^ width = 0)
    (hb : pattern + mask width < 256) (hn : n < mask width + 128 ^ 4) (rest : Bytes) :
    decode width (encode pattern width n ++ rest) = .ok (n, rest) := by
  have hlow {k : Nat} (hk : k ≤ mask width) : (pattern + k) % 2 ^ width = k := by
    have hpos : 0 < 2 ^ width := Nat.two_pow_pos width
    have hlt : k < 2 ^ width := by
      unfold mask at hk
      omega
    rw [Nat.add_mod, hp, Nat.zero_add, Nat.mod_mod, Nat.mod_eq_of_lt hlt]
  unfold encode
  split
  · next h =>
    rw [List.singleton_append, decode]
    simp only [UInt8.toNat_ofNat_of_lt' (show pattern + n < 256 by omega), hlow (Nat.le_of_lt h), h,
      if_true]
  · next h =>
    rw [List.cons_append, decode]
    simp only [UInt8.toNat_ofNat_of_lt' hb, hlow (Nat.le_refl _), Nat.lt_irrefl, if_false]
    rw [tailRoom, decodeTail_encodeTail 3 _ 1 (by omega)]
    simp only [Nat.mul_one, Except.ok.injEq, Prod.mk.injEq, and_true]
    omega

end Integer

/-! ### Strings -/

/-- **A string** is read back. -/
theorem decodeString_encodeString {s : Bytes} (h : s.length < 128 ^ 4) (rest : Bytes) :
    decodeString (encodeString s ++ rest) = .ok (s, rest) := by
  have hint : Integer.decode 7 (encodeString s ++ rest) = .ok (s.length, s ++ rest) := by
    rw [encodeString, List.append_assoc]
    exact Integer.decode_encode (by decide) (by decide)
      (Nat.lt_of_lt_of_le h (Nat.le_add_left _ _)) _
  have hplain : ¬ (0x80 : UInt8) ≤ (encodeString s ++ rest).headD 0 := by
    obtain ⟨b, tail, hb, -, hle⟩ :=
      Integer.exists_encode_eq_cons (show 0 + Integer.mask 7 < 256 by decide) s.length
    have hm : Integer.mask 7 = 127 := rfl
    rw [encodeString, hb, List.cons_append, List.cons_append, List.headD_cons, UInt8.le_iff_toNat_le]
    change ¬ 128 ≤ b.toNat
    omega
  have htake : (s ++ rest).take s.length = s := List.take_left' rfl
  have hdrop : (s ++ rest).drop s.length = rest := List.drop_left' rfl
  unfold decodeString
  rw [hint]
  simp only [htake, hdrop, Nat.lt_irrefl, if_false, hplain]

/-! ### Where a field stands -/

/-- What an occurrence says of a field among entries, counted from 1 on. -/
def Occurrence.Among (all : List Entry) (e : Entry) : Occurrence → Prop
  | .whole i => ∃ k, i = k + 1 ∧ all[k]? = some e
  | .name i => ∃ k x, i = k + 1 ∧ all[k]? = some x ∧ x.name = e.name
  | .nowhere => ∀ x ∈ all, x.name ≠ e.name

theorem Occurrence.Among.concat {all : List Entry} {e x : Entry} {o : Occurrence}
    (h : o.Among all e) (hx : x.name ≠ e.name) : o.Among (all ++ [x]) e := by
  have left {k : Nat} {y : Entry} (hk : all[k]? = some y) : (all ++ [x])[k]? = some y := by
    rw [List.getElem?_append_left (List.getElem?_eq_some_iff.1 hk).1, hk]
  cases o with
  | whole i =>
    obtain ⟨k, hi, hk⟩ := h
    exact ⟨k, hi, left hk⟩
  | name i =>
    obtain ⟨k, y, hi, hk, hy⟩ := h
    exact ⟨k, y, hi, left hk, hy⟩
  | nowhere =>
    intro y hy
    rcases List.mem_append.1 hy with hy | hy
    · exact h y hy
    · rw [List.mem_singleton.1 hy]
      exact hx

theorem searchFrom_among {e : Entry} {pre : List Entry} {found : Occurrence}
    (h : found.Among pre e) (xs : List Entry) :
    (searchFrom e (pre.length + 1) found xs).Among (pre ++ xs) e := by
  have here (x : Entry) : (pre ++ [x])[pre.length]? = some x := by simp
  induction xs generalizing pre found with
  | nil => simpa [searchFrom] using h
  | cons x xs ih =>
    have hlen : pre.length + 1 + 1 = (pre ++ [x]).length + 1 := by simp
    have happ : pre ++ x :: xs = (pre ++ [x]) ++ xs := by simp
    unfold searchFrom
    split
    · next hn =>
      split
      · next hv =>
        have hx : x = e := by
          cases x
          cases e
          simp_all
        exact ⟨pre.length, rfl, by simp [hx]⟩
      · rw [hlen, happ]
        exact ih ⟨pre.length, x, rfl, here x, hn⟩ fun _ => by simp
    · next hn =>
      rw [hlen, happ]
      exact ih (h.concat hn) fun _ => by simp

/-- **The search tells the truth.** -/
theorem Table.search_among (t : Table) (e : Entry) : (t.search e).Among t.all e := by
  have h : Occurrence.nowhere.Among [] e := fun x hx => nomatch hx
  exact searchFrom_among h t.all

theorem Table.search_eq_nowhere {t : Table} {e : Entry} (h : ∀ x ∈ t.all, x.name ≠ e.name) :
    t.search e = .nowhere := by
  have hamong := t.search_among e
  cases hs : t.search e with
  | whole i =>
    rw [hs] at hamong
    obtain ⟨k, -, hk⟩ := hamong
    exact absurd rfl (h e (List.mem_of_getElem? hk))
  | name i =>
    rw [hs] at hamong
    obtain ⟨k, x, -, hk, hx⟩ := hamong
    exact absurd hx (h x (List.mem_of_getElem? hk))
  | nowhere => rfl

/-! ### Tables in step -/

theorem fit_isPrefix (room : Nat) (es : List Entry) : fit room es <+: es := by
  induction es generalizing room with
  | nil => exact List.nil_prefix
  | cons e es ih =>
    unfold fit
    split
    · exact (List.prefix_cons_inj e).2 (ih _)
    · exact List.nil_prefix

theorem prefix_fit {room : Nat} {a b : List Entry} (h : a <+: b)
    (hroom : (a.map Entry.size).sum ≤ room) : a <+: fit room b := by
  induction a generalizing room b with
  | nil => exact List.nil_prefix
  | cons e a ih =>
    obtain ⟨r, rfl⟩ := h
    rw [List.map_cons, List.sum_cons] at hroom
    rw [List.cons_append, fit, if_pos (by omega)]
    exact (List.prefix_cons_inj e).2 (ih (List.prefix_append a r) (by omega))

theorem fit_eq_self {room : Nat} {es : List Entry} (h : (es.map Entry.size).sum ≤ room) :
    fit room es = es :=
  (fit_isPrefix room es).eq_of_length_le (prefix_fit (List.prefix_refl es) h).length_le

namespace Table

/-- The other table begins with the entries of this one, and has as much room at least. -/
structure Within (c p : Table) : Prop where
  limit : c.limit ≤ p.limit
  entries : c.entries <+: p.entries

variable {c p : Table}

theorem Within.refl (c : Table) : c.Within c := ⟨Nat.le_refl _, List.prefix_refl _⟩

theorem Within.insert (h : c.Within p) (e : Entry) : (c.insert e).Within (p.insert e) where
  limit := h.limit
  entries := by
    refine prefix_fit ?_ (Nat.le_trans (size_insert_le c e) h.limit)
    exact (fit_isPrefix _ _).trans ((List.prefix_cons_inj e).2 h.entries)

/-- A change of the other table's limit loses nothing of this one's entries while they have room. -/
theorem Within.resize (h : c.Within p) (hsize : c.size ≤ c.limit) {limit : Nat}
    (hlimit : c.limit ≤ limit) : c.Within (p.resize limit) :=
  ⟨hlimit, prefix_fit h.entries (Nat.le_trans hsize hlimit)⟩

theorem resize_limit {t : Table} (h : t.size ≤ t.limit) : t.resize t.limit = t := by
  rw [resize, fit_eq_self h]

theorem Within.getElem?_all (h : c.Within p) {k : Nat} {x : Entry} (hk : c.all[k]? = some x) :
    p.all[k]? = some x := by
  have hpre : c.all <+: p.all := (List.prefix_append_right_inj _).2 h.entries
  obtain ⟨r, hr⟩ := hpre
  rw [← hr, List.getElem?_append_left (List.getElem?_eq_some_iff.1 hk).1, hk]

/-- A table that both ends may have: it keeps to the limit of the beginning. -/
structure Bounded (t : Table) : Prop where
  limit : t.limit = 4096
  size_le : t.size ≤ 4096

theorem bounded_initial : initial.Bounded := ⟨rfl, by decide⟩

theorem Bounded.insert (h : c.Bounded) (e : Entry) : (c.insert e).Bounded where
  limit := h.limit
  size_le := by
    have := size_insert_le c e
    rwa [show (c.insert e).limit = 4096 from h.limit] at this

theorem Bounded.length_le (h : c.Bounded) : c.entries.length ≤ 128 := by
  have hsum (es : List Entry) : 32 * es.length ≤ (es.map Entry.size).sum := by
    induction es with
    | nil => simp
    | cons e es ih =>
      simp only [List.length_cons, List.map_cons, List.sum_cons, Entry.size]
      omega
  have := hsum c.entries
  have := h.size_le
  unfold size at this
  omega

theorem Bounded.exists_append_of_mem (h : c.Bounded) {e : Entry} (he : e ∈ c.entries) :
    ∃ a b, c.entries = a ++ e :: b ∧
      (a.map Entry.size).sum + e.size + (b.map Entry.size).sum ≤ 4096 := by
  obtain ⟨a, b, hab⟩ := List.append_of_mem he
  have hle := h.size_le
  simp only [Table.size, hab, List.map_append, List.map_cons, List.sum_append, List.sum_cons] at hle
  exact ⟨a, b, hab, by omega⟩

theorem Bounded.lt_of_getElem? (h : c.Bounded) {k : Nat} {x : Entry} (hk : c.all[k]? = some x) :
    k < 189 := by
  have hlt := (List.getElem?_eq_some_iff.1 hk).1
  have hs : staticEntries.length = 61 := by decide
  have := h.length_le
  simp only [all, List.length_append, hs] at hlt
  omega

end Table

/-! ### Fields -/

theorem length_encodeString (s : Bytes) : s.length ≤ (encodeString s).length := by
  simp [encodeString]

theorem encodeField_ne_nil (t : Table) (e : Entry) : (encodeField t e).1 ≠ [] := by
  unfold encodeField
  split
  · obtain ⟨b, tail, hb, -⟩ :=
      Integer.exists_encode_eq_cons (show 0x80 + Integer.mask 7 < 256 by decide) ‹Nat›
    rw [hb]
    exact List.cons_ne_nil _ _
  · obtain ⟨b, tail, hb, -⟩ :=
      Integer.exists_encode_eq_cons (show 0x00 + Integer.mask 4 < 256 by decide) ‹Nat›
    rw [hb]
    exact List.cons_ne_nil _ _
  · exact List.cons_ne_nil _ _

theorem Table.Bounded.encodeField {t : Table} (h : t.Bounded) (e : Entry) :
    (encodeField t e).2.Bounded := by
  unfold Hpack.encodeField
  split
  · exact h
  · exact h
  · exact h.insert e

theorem decodeItem_whole {p : Table} {k : Nat} {e : Entry} (hk : p.all[k]? = some e)
    (hlt : k < 189) (rest : Bytes) :
    decodeItem p (Integer.encode 0x80 7 (k + 1) ++ rest) = .ok (⟨some e, p⟩, rest) := by
  have hint : Integer.decode 7 (Integer.encode 0x80 7 (k + 1) ++ rest) = .ok (k + 1, rest) :=
    Integer.decode_encode (by decide) (by decide) (by omega) rest
  obtain ⟨b, tail, hb, hle, -⟩ :=
    Integer.exists_encode_eq_cons (show 0x80 + Integer.mask 7 < 256 by decide) (k + 1)
  have hfirst : 0x80 ≤ ((Integer.encode 0x80 7 (k + 1) ++ rest).headD 0).toNat := by
    rw [hb]
    exact hle
  have hentry : p.entry? (k + 1) = some e := hk
  unfold decodeItem
  simp only [if_pos hfirst, decodeIndexed, hint, hentry]
  rfl

theorem decodeItem_name {p : Table} {k : Nat} {x e : Entry} (hk : p.all[k]? = some x)
    (hx : x.name = e.name) (hlt : k < 189) (hv : e.value.length < 128 ^ 4) (rest : Bytes) :
    decodeItem p (Integer.encode 0x00 4 (k + 1) ++ encodeString e.value ++ rest) =
      .ok (⟨some e, p⟩, rest) := by
  have hint : Integer.decode 4 (Integer.encode 0x00 4 (k + 1) ++ (encodeString e.value ++ rest)) =
      .ok (k + 1, encodeString e.value ++ rest) :=
    Integer.decode_encode (by decide) (by decide) (by omega) _
  obtain ⟨b, tail, hb, -, hle⟩ :=
    Integer.exists_encode_eq_cons (show 0x00 + Integer.mask 4 < 256 by decide) (k + 1)
  have hfirst :
      ((Integer.encode 0x00 4 (k + 1) ++ (encodeString e.value ++ rest)).headD 0).toNat ≤ 15 := by
    rw [hb]
    exact hle
  have hentry : p.entry? (k + 1) = some x := hk
  rw [List.append_assoc]
  unfold decodeItem
  simp only
  rw [if_neg (by omega), if_neg (by omega), if_neg (by omega)]
  simp only [decodeLiteral, hint, decodeName, Nat.add_one_ne_zero, if_false, hentry,
    decodeString_encodeString hv, hx]
  rfl

/-- A field that is written out is read back, and added to the table. -/
theorem decodeItem_nowhere (p : Table) {e : Entry} (hn : e.name.length < 128 ^ 4)
    (hv : e.value.length < 128 ^ 4) (rest : Bytes) :
    decodeItem p (0x40 :: (encodeString e.name ++ encodeString e.value) ++ rest) =
      .ok (⟨some e, p.insert e⟩, rest) := by
  have hint (bs : Bytes) : Integer.decode 6 (0x40 :: bs) = .ok (0, bs) := by
    have hzero : Integer.encode 0x40 6 0 = [0x40] := rfl
    have := Integer.decode_encode (show 0x40 % 2 ^ 6 = 0 by decide) (by decide)
      (show 0 < Integer.mask 6 + 128 ^ 4 by decide) bs
    rwa [hzero] at this
  unfold decodeItem
  simp only [List.cons_append, List.append_assoc, List.headD_cons]
  rw [if_neg (by decide), if_pos (by decide)]
  simp only [decodeLiteral, hint, decodeName, if_true, decodeString_encodeString hn,
    decodeString_encodeString hv]
  rfl

/-- A field whose strings have lengths that can be read. -/
structure Entry.Short (e : Entry) : Prop where
  name : e.name.length < 128 ^ 4
  value : e.value.length < 128 ^ 4

/-- **A field is read back**, and the tables stay in step. -/
theorem decodeItem_encodeField {c p : Table} (hw : c.Within p) (hb : c.Bounded) {e : Entry}
    (he : e.Short) (rest : Bytes) :
    ∃ p', decodeItem p ((encodeField c e).1 ++ rest) = .ok (⟨some e, p'⟩, rest) ∧
      (encodeField c e).2.Within p' := by
  have hamong := c.search_among e
  unfold encodeField
  split
  · next i hs =>
    rw [hs] at hamong
    obtain ⟨k, rfl, hk⟩ := hamong
    exact ⟨p, decodeItem_whole (hw.getElem?_all hk) (hb.lt_of_getElem? hk) rest, hw⟩
  · next i hs =>
    rw [hs] at hamong
    obtain ⟨k, x, rfl, hk, hx⟩ := hamong
    exact ⟨p, decodeItem_name (hw.getElem?_all hk) hx (hb.lt_of_getElem? hk) he.value rest, hw⟩
  · exact ⟨p.insert e, decodeItem_nowhere p he.name he.value rest, hw.insert e⟩

theorem Table.Bounded.short_of_mem {t : Table} (h : t.Bounded) {e : Entry} (he : e ∈ t.all) :
    e.Short := by
  have hstatic : ∀ x ∈ staticEntries, x.name.length < 4096 ∧ x.value.length < 4096 := by
    decide +kernel
  have hlt : e.name.length < 4096 ∧ e.value.length < 4096 := by
    rcases List.mem_append.1 he with he | he
    · exact hstatic e he
    · obtain ⟨a, b, -, hsum⟩ := h.exists_append_of_mem he
      simp only [Entry.size] at hsum
      omega
  have hbound : 4096 < 128 ^ 4 := by decide
  exact ⟨Nat.lt_trans hlt.1 hbound, Nat.lt_trans hlt.2 hbound⟩

theorem short_of_length_encodeField {t : Table} (h : t.Bounded) {e : Entry}
    (hl : (encodeField t e).1.length < 128 ^ 4) : e.Short := by
  have hamong := t.search_among e
  have hn := length_encodeString e.name
  have hv := length_encodeString e.value
  unfold encodeField at hl
  split at hl
  · next i hs =>
    rw [hs] at hamong
    obtain ⟨k, -, hk⟩ := hamong
    exact h.short_of_mem (List.mem_of_getElem? hk)
  · next i hs =>
    rw [hs] at hamong
    obtain ⟨k, x, -, hk, hx⟩ := hamong
    simp only [List.length_append] at hl
    exact ⟨hx ▸ (h.short_of_mem (List.mem_of_getElem? hk)).name, by omega⟩
  · simp only [List.length_cons, List.length_append] at hl
    exact ⟨by omega, by omega⟩

/-! ### Blocks -/

theorem decodeFrom_nil (t : Table) (done : List Entry) :
    decodeFrom t done [] = (.ok done.reverse, t) := by
  rw [decodeFrom]
  rfl

theorem decodeFrom_of_item {t : Table} {done : List Entry} {bs rest : Bytes} {item : Item}
    (hne : bs ≠ []) (h : decodeItem t bs = .ok (item, rest)) :
    decodeFrom t done bs = decodeFrom item.table (item.field.toList ++ done) rest := by
  have hempty : ¬ bs.isEmpty = true := by simpa using hne
  rw [decodeFrom, if_neg hempty]
  split
  · next e he =>
    rw [h] at he
    cases he
  · next he =>
    rw [h] at he
    cases he
    rfl

theorem decodeFrom_encode {c p : Table} (hw : c.Within p) (hb : c.Bounded) {es : List Entry}
    (hes : ∀ e ∈ es, e.Short) (done : List Entry) :
    ∃ p', decodeFrom p done (encode c es).1 = (.ok (done.reverse ++ es), p') ∧
      (encode c es).2.Within p' := by
  induction es generalizing c p done with
  | nil =>
    refine ⟨p, ?_, hw⟩
    rw [List.append_nil]
    exact decodeFrom_nil p done
  | cons e es ih =>
    obtain ⟨p₁, hitem, hw₁⟩ := decodeItem_encodeField hw hb (hes e List.mem_cons_self)
      (encode (encodeField c e).2 es).1
    obtain ⟨p₂, hrest, hw₂⟩ := ih hw₁ (hb.encodeField e)
      (fun x hx => hes x (List.mem_cons_of_mem _ hx)) (e :: done)
    refine ⟨p₂, ?_, hw₂⟩
    have hne : (encodeField c e).1 ++ (encode (encodeField c e).2 es).1 ≠ [] :=
      List.append_ne_nil_of_left_ne_nil (encodeField_ne_nil c e) _
    simp only [encode]
    rw [decodeFrom_of_item hne hitem]
    simpa using hrest

/-- **A header block of short fields is read back**, and the tables stay in step. -/
theorem decode_encode_of_short {c p : Table} (hw : c.Within p) (hb : c.Bounded) {es : List Entry}
    (hes : ∀ e ∈ es, e.Short) :
    ∃ p', decode p (encode c es).1 = (.ok es, p') ∧ (encode c es).2.Within p' :=
  decodeFrom_encode hw hb hes []

theorem short_of_length_encode {t : Table} (h : t.Bounded) {es : List Entry}
    (hl : (encode t es).1.length < 128 ^ 4) : ∀ e ∈ es, e.Short := by
  induction es generalizing t with
  | nil => exact nofun
  | cons e es ih =>
    simp only [encode, List.length_append] at hl
    intro x hx
    rcases List.mem_cons.1 hx with rfl | hx
    · exact short_of_length_encodeField h (by omega)
    · exact ih (h.encodeField e) (by omega) x hx

/-- **A header block is read back**, and the tables stay in step. -/
theorem decode_encode {c p : Table} (hw : c.Within p) (hb : c.Bounded) {es : List Entry}
    (hl : (encode c es).1.length < 128 ^ 4) :
    ∃ p', decode p (encode c es).1 = (.ok es, p') ∧ (encode c es).2.Within p' :=
  decode_encode_of_short hw hb (short_of_length_encode hb hl)

theorem Table.Bounded.encode {t : Table} (h : t.Bounded) (es : List Entry) :
    (encode t es).2.Bounded := by
  induction es generalizing t with
  | nil => exact h
  | cons e es ih => exact ih (h.encodeField e)

end Http2.Hpack
