import Http2.Proofs.Hpack.RoundTrip

/-!
Fields that stand in the encoder's table. A list of them is written by indices alone and changes
no table, so it shows whether the decoder's table begins with the encoder's: only then does the
decoder read all of the encoder's entries back. A field that fills the table comes to stand there
alone.
-/

namespace Http2.Hpack

/-! ### Lists of known fields -/

theorem searchFrom_of_mem {e : Entry} {xs : List Entry} (h : e ∈ xs) (index : Nat)
    (found : Occurrence) : ∃ i, searchFrom e index found xs = .whole i := by
  induction xs generalizing index found with
  | nil => cases h
  | cons x xs ih =>
    unfold searchFrom
    split
    · split
      · exact ⟨index, rfl⟩
      · next hv =>
        rcases List.mem_cons.1 h with rfl | h
        · exact absurd rfl hv
        · exact ih h _ _
    · next hn =>
      rcases List.mem_cons.1 h with rfl | h
      · exact absurd rfl hn
      · exact ih h _ _

/-- The block of fields that stand at places of the tables. -/
def indexed (places : List Nat) : Bytes :=
  places.flatMap fun k => Integer.encode 0x80 7 (k + 1)

/-- **Known fields** are written by indices alone. -/
theorem encode_of_known {t : Table} {es : List Entry} (h : ∀ e ∈ es, e ∈ t.all) :
    ∃ places, places.map (t.all[·]?) = es.map some ∧ encode t es = (indexed places, t) := by
  induction es with
  | nil => exact ⟨[], rfl, rfl⟩
  | cons e es ih =>
    obtain ⟨places, hp, he⟩ := ih fun e he => h e (List.mem_cons_of_mem _ he)
    obtain ⟨i, hs⟩ := searchFrom_of_mem (h e List.mem_cons_self) 1 .nowhere
    have hs : t.search e = .whole i := hs
    have hamong := t.search_among e
    rw [hs] at hamong
    obtain ⟨k, rfl, hk⟩ := hamong
    refine ⟨k :: places, by rw [List.map_cons, List.map_cons, hk, hp], ?_⟩
    simp [encode, encodeField, hs, he, indexed]

theorem length_indexed_le {places : List Nat} (h : ∀ k ∈ places, k < 189) :
    (indexed places).length ≤ 2 * places.length := by
  induction places with
  | nil => exact Nat.le_refl _
  | cons k places ih =>
    have hk := h k List.mem_cons_self
    have hone : (Integer.encode 0x80 7 (k + 1)).length ≤ 2 := by
      have hm : Integer.mask 7 = 127 := rfl
      unfold Integer.encode
      split
      · exact Nat.le_succ 1
      · rw [Integer.encodeTail, if_pos (by omega)]
        exact Nat.le_refl 2
    have := ih fun k hk => h k (List.mem_cons_of_mem _ hk)
    simp only [indexed, List.flatMap_cons, List.length_append, List.length_cons] at this ⊢
    omega

theorem Table.Bounded.lt_of_places {t : Table} (h : t.Bounded) {places : List Nat} {es : List Entry}
    (hplaces : places.map (t.all[·]?) = es.map some) : ∀ k ∈ places, k < 189 := by
  intro k hk
  have hmem : t.all[k]? ∈ es.map some := by
    rw [← hplaces]
    exact List.mem_map_of_mem hk
  obtain ⟨e, -, he⟩ := List.mem_map.1 hmem
  exact h.lt_of_getElem? he.symm

theorem length_encode_of_known {t : Table} (hb : t.Bounded) {es : List Entry}
    (h : ∀ e ∈ es, e ∈ t.all) : (encode t es).1.length ≤ 2 * es.length := by
  obtain ⟨places, hplaces, henc⟩ := encode_of_known h
  have hcount := congrArg List.length hplaces
  rw [List.length_map, List.length_map] at hcount
  rw [henc, ← hcount]
  exact length_indexed_le (hb.lt_of_places hplaces)

/-- What an index gives depends on the decoder's table alone. -/
theorem decodeItem_index (p : Table) {k : Nat} (hk : k < 189) (rest : Bytes) :
    decodeItem p (Integer.encode 0x80 7 (k + 1) ++ rest) =
      match p.all[k]? with
      | none => .error .index
      | some e => .ok (⟨some e, p⟩, rest) := by
  cases he : p.all[k]? with
  | some e => exact decodeItem_whole he hk rest
  | none =>
    have hint : Integer.decode 7 (Integer.encode 0x80 7 (k + 1) ++ rest) = .ok (k + 1, rest) :=
      Integer.decode_encode (by decide) (by decide) (by omega) rest
    obtain ⟨b, tail, hb, hle, -⟩ :=
      Integer.exists_encode_eq_cons (show 0x80 + Integer.mask 7 < 256 by decide) (k + 1)
    have hfirst : 0x80 ≤ ((Integer.encode 0x80 7 (k + 1) ++ rest).headD 0).toNat := by
      rw [hb]
      exact hle
    have hentry : p.entry? (k + 1) = none := he
    unfold decodeItem
    simp only [if_pos hfirst, decodeIndexed, hint, hentry]
    rfl

theorem places_of_decodeFrom {p t : Table} {places : List Nat} {done es : List Entry}
    (hsmall : ∀ k ∈ places, k < 189)
    (h : decodeFrom p done (indexed places) = (.ok es, t)) :
    (done.reverse.map some ++ places.map (p.all[·]?)) = es.map some := by
  induction places generalizing done with
  | nil =>
    rw [indexed, List.flatMap_nil, decodeFrom_nil] at h
    cases h
    simp
  | cons k places ih =>
    have hitem := decodeItem_index p (hsmall k List.mem_cons_self) (indexed places)
    have hne : Integer.encode 0x80 7 (k + 1) ++ indexed places ≠ [] := by
      obtain ⟨b, tail, hb, -⟩ :=
        Integer.exists_encode_eq_cons (show 0x80 + Integer.mask 7 < 256 by decide) (k + 1)
      rw [hb]
      exact List.cons_ne_nil _ _
    change decodeFrom p done (Integer.encode 0x80 7 (k + 1) ++ indexed places) = _ at h
    cases he : p.all[k]? with
    | none =>
      rw [he] at hitem
      rw [decodeFrom, if_neg (by simpa using hne)] at h
      split at h
      · cases h
      · next hi =>
        rw [hitem] at hi
        cases hi
    | some e =>
      rw [he] at hitem
      rw [decodeFrom_of_item hne hitem] at h
      have := ih (fun k hk => hsmall k (List.mem_cons_of_mem _ hk)) h
      simpa [he] using this

/-! ### Tables without repetitions -/

namespace Table

/-- No name occurs twice, in the static table and the entries together. -/
structure Distinct (t : Table) : Prop where
  static : ∀ e ∈ t.entries, ∀ x ∈ staticEntries, x.name ≠ e.name
  entries : t.entries.Pairwise fun a b => a.name ≠ b.name

variable {t p : Table}

theorem distinct_initial : initial.Distinct := ⟨nofun, .nil⟩

theorem Distinct.insert (h : t.Distinct) {e : Entry} (he : ∀ x ∈ t.all, x.name ≠ e.name) :
    (t.insert e).Distinct where
  static := by
    intro x hx
    rcases List.mem_cons.1 ((fit_isPrefix _ _).subset hx) with rfl | hx
    · exact fun y hy => he y (List.mem_append_left _ hy)
    · exact h.static x hx
  entries := by
    refine List.Pairwise.sublist (fit_isPrefix _ _).sublist (List.pairwise_cons.2 ⟨?_, h.entries⟩)
    exact fun x hx => (he x (List.mem_append_right _ hx)).symm

theorem Distinct.eq_place (h : t.Distinct) {i k : Nat} {e : Entry} (hi : t.entries[i]? = some e)
    (hk : t.all[k]? = some e) : k = staticEntries.length + i := by
  have hmem : e ∈ t.entries := List.mem_of_getElem? hi
  by_cases hs : k < staticEntries.length
  · rw [all, List.getElem?_append_left hs] at hk
    exact absurd rfl (h.static e hmem e (List.mem_of_getElem? hk))
  · rw [all, List.getElem?_append_right (Nat.le_of_not_lt hs)] at hk
    have hnodup : t.entries.Nodup := h.entries.imp fun hne heq => hne (congrArg _ heq)
    have hlt := (List.getElem?_eq_some_iff.1 hi).1
    have := (List.getElem?_inj hlt hnodup).1 (hi.trans hk.symm)
    omega

end Table

theorem Table.Distinct.encodeField {t : Table} (h : t.Distinct) (e : Entry) :
    (encodeField t e).2.Distinct := by
  have hamong := t.search_among e
  unfold Hpack.encodeField
  split
  · exact h
  · exact h
  · next hs =>
    rw [hs] at hamong
    exact h.insert hamong

/-- **A decoder that reads all of the encoder's entries back** has a table that begins with
them. -/
theorem prefix_of_decode_known {c p : Table} (hb : c.Bounded) (hd : c.Distinct) {es : List Entry}
    (hknown : ∀ e ∈ es, e ∈ c.all) (hall : ∀ e ∈ c.entries, e ∈ es)
    (h : (decode p (encode c es).1).1 = .ok es) : c.entries <+: p.entries := by
  obtain ⟨places, hplaces, henc⟩ := encode_of_known hknown
  have hsmall := hb.lt_of_places hplaces
  rw [henc] at h
  have hread : places.map (p.all[·]?) = places.map (c.all[·]?) := by
    rw [hplaces]
    simpa using places_of_decodeFrom hsmall (Prod.ext h rfl)
  refine List.prefix_iff_getElem?.2 fun i hi => ?_
  -- the entry is one of the fields, and its index leads the decoder to the same place
  have hget : c.entries[i]? = some c.entries[i] := List.getElem?_eq_getElem hi
  have hmem : some c.entries[i] ∈ places.map (c.all[·]?) := by
    rw [hplaces]
    exact List.mem_map_of_mem (hall _ (List.getElem_mem hi))
  obtain ⟨k, hk, hck⟩ := List.mem_map.1 hmem
  have hpk : p.all[k]? = some c.entries[i] := by
    rw [← hck]
    exact List.map_inj_left.1 hread k hk
  have hplace := hd.eq_place hget hck
  rw [hplace, Table.all, List.getElem?_append_right (Nat.le_add_right _ _),
    Nat.add_sub_cancel_left] at hpk
  exact hpk

/-! ### A field that fills the table -/

theorem eq_nil_of_sum_size {es : List Entry} (h : (es.map Entry.size).sum = 0) : es = [] := by
  cases es with
  | nil => rfl
  | cons e es =>
    simp only [List.map_cons, List.sum_cons, Entry.size] at h
    omega

theorem Table.Bounded.entries_eq_of_mem {t : Table} (h : t.Bounded) {e : Entry}
    (he : e ∈ t.entries) (hsize : e.size = 4096) : t.entries = [e] := by
  obtain ⟨a, b, hab, hle⟩ := h.exists_append_of_mem he
  have ha : a = [] := eq_nil_of_sum_size (by omega)
  have hb : b = [] := eq_nil_of_sum_size (by omega)
  rw [hab, ha, hb, List.nil_append]

/-- **A field that fills the table** is its only entry afterwards, new or not. -/
theorem entries_encodeField_of_full {t : Table} (h : t.Bounded) {e : Entry} (hsize : e.size = 4096)
    (hvalue : e.value = []) (hstatic : ∀ x ∈ staticEntries, x.name ≠ e.name) :
    (encodeField t e).2.entries = [e] := by
  by_cases hmem : e ∈ t.all
  · obtain ⟨i, hs⟩ := searchFrom_of_mem hmem 1 .nowhere
    have hs : t.search e = .whole i := hs
    have he : e ∈ t.entries :=
      (List.mem_append.1 hmem).resolve_left fun he => hstatic e he rfl
    rw [encodeField, hs]
    exact h.entries_eq_of_mem he hsize
  · have hs : t.search e = .nowhere := by
      refine Table.search_eq_nowhere fun x hx hn => ?_
      rcases List.mem_append.1 hx with hx | hx
      · exact hstatic x hx hn
      · -- no entry with this name has room for a value
        obtain ⟨a, b, -, hle⟩ := h.exists_append_of_mem hx
        have hempty : x.value = [] := by
          simp only [Entry.size, hn, hvalue, List.length_nil] at hle hsize
          exact List.length_eq_zero_iff.1 (by omega)
        have hx' : x = e := by
          cases x
          cases e
          simp_all
        exact hmem (hx' ▸ List.mem_append_right _ hx)
    have hroom : fit (t.limit - e.size) t.entries = [] := by
      rw [h.limit, hsize]
      exact eq_nil_of_sum_size (Nat.le_zero.1 (Table.sum_fit_le 0 t.entries))
    have hfits : e.size ≤ t.limit := Nat.le_of_eq (hsize.trans h.limit.symm)
    rw [encodeField, hs]
    change fit t.limit (e :: t.entries) = [e]
    rw [fit, if_pos hfits, hroom]

/-! ### The length of a field -/

theorem Integer.length_encodeTail_le (room : Nat) {n : Nat} (h : n < 128 ^ (room + 1)) :
    (encodeTail n).length ≤ room + 1 := by
  induction room generalizing n with
  | zero =>
    rw [encodeTail, if_pos (by simpa using h)]
    exact Nat.le_refl 1
  | succ room ih =>
    rw [encodeTail]
    split
    · exact Nat.le_add_left 1 _
    · have hdiv : n / 128 < 128 ^ (room + 1) := by
        rw [Nat.pow_succ] at h
        exact Nat.div_lt_of_lt_mul (by rwa [Nat.mul_comm])
      exact Nat.succ_le_succ (ih hdiv)

theorem Integer.length_encode_le (pattern width : Nat) {n : Nat} (h : n < 128 ^ 2) :
    (encode pattern width n).length ≤ 3 := by
  unfold encode
  split
  · exact Nat.le_add_left 1 2
  · exact Nat.succ_le_succ (length_encodeTail_le 1 (by omega))

theorem length_encodeField_le {t : Table} (h : t.Bounded) {e : Entry}
    (hname : e.name.length < 128 ^ 2) (hvalue : e.value.length < 128 ^ 2) :
    (encodeField t e).1.length ≤ e.name.length + e.value.length + 7 := by
  have hstring {s : Bytes} (hs : s.length < 128 ^ 2) : (encodeString s).length ≤ s.length + 3 := by
    have := Integer.length_encode_le 0 7 hs
    simp only [encodeString, List.length_append]
    omega
  have hn := hstring hname
  have hv := hstring hvalue
  have hamong := t.search_among e
  unfold encodeField
  split
  · next hs =>
    rw [hs] at hamong
    obtain ⟨k, rfl, hk⟩ := hamong
    have := h.lt_of_getElem? hk
    have hindex := Integer.length_encode_le 0x80 7 (show k + 1 < 128 ^ 2 by omega)
    simp only
    omega
  · next hs =>
    rw [hs] at hamong
    obtain ⟨k, x, rfl, hk, -⟩ := hamong
    have := h.lt_of_getElem? hk
    have hindex := Integer.length_encode_le 0x00 4 (show k + 1 < 128 ^ 2 by omega)
    simp only [List.length_append]
    omega
  · simp only [List.length_cons, List.length_append]
    omega

end Http2.Hpack
