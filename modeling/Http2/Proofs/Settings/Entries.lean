import Http2.Proofs.Settings.Validity

/-!
Payloads of settings by their entries. Main statement: a payload that is no whole number of entries
is refused for its size, one whose last value of a parameter is out of range for that value, and
any other gives each parameter the value of its last entry, whatever else it holds.
-/

namespace Http2.Settings

/-! ### Entries by their places -/

def identifierAt (payload : Bytes) (k : Nat) : Nat :=
  Bytes.toNat ((payload.drop (entrySize * k)).take 2)

def valueAt (payload : Bytes) (k : Nat) : Nat :=
  Bytes.toNat ((payload.drop (entrySize * k + 2)).take 4)

/-- The value of the last entry with an identifier, if there is one. -/
def lastValue? (payload : Bytes) (id : Nat) : Option Nat :=
  ((List.range (payload.length / entrySize)).reverse.find? fun k =>
    identifierAt payload k == id).map (valueAt payload)

theorem entries_eq (payload : Bytes) : entries payload =
    (List.range (payload.length / entrySize)).map fun k =>
      (identifierAt payload k, valueAt payload k) := by
  fun_induction entries payload with
  | case1 i₁ i₀ v₃ v₂ v₁ v₀ rest ih =>
    have hlen : (i₁ :: i₀ :: v₃ :: v₂ :: v₁ :: v₀ :: rest).length / entrySize =
        rest.length / entrySize + 1 := by
      simp only [List.length_cons, entrySize]
      omega
    rw [hlen, List.range_succ_eq_map, List.map_cons, List.map_map, ih]
    rfl
  | case2 payload hshort =>
    rw [Nat.div_eq_of_lt (length_lt_of_short hshort)]
    rfl

/-! ### The value of a parameter -/

theorem Parameter.ofId?_eq_some_iff {n : Nat} {p : Parameter} : ofId? n = some p ↔ p.id = n := by
  constructor
  · intro h
    simpa using List.find?_some h
  · rintro rfl
    exact ofId?_id p

theorem Parameter.ofId?_eq_none_iff {n : Nat} : ofId? n = none ↔ n ∉ [1, 2, 3, 4, 5, 6, 8, 9] := by
  have hids : [1, 2, 3, 4, 5, 6, 8, 9] = all.map id := rfl
  rw [hids, ofId?, List.find?_eq_none]
  simp

theorem get_apply (s : Settings) (entry : Nat × Nat) (p : Parameter) :
    (s.apply entry).get p = if entry.1 = p.id then some entry.2 else s.get p := by
  unfold apply
  cases h : Parameter.ofId? entry.1 with
  | none =>
    have hne : entry.1 ≠ p.id := by
      intro heq
      rw [heq, Parameter.ofId?_id] at h
      cases h
    rw [if_neg hne]
  | some q =>
    have hq : p = q ↔ entry.1 = p.id := by
      rw [eq_comm (a := entry.1), ← Parameter.ofId?_eq_some_iff, h, Option.some.injEq, eq_comm]
    simp only [get_set, hq]

theorem get_ofEntries (es : List (Nat × Nat)) (p : Parameter) :
    (ofEntries es).get p = (es.reverse.find? fun e => e.1 == p.id).map Prod.snd := by
  induction es using List.reverseRecOn with
  | nil => exact get_empty p
  | append_singleton es e ih =>
    rw [ofEntries_concat, get_apply, List.reverse_concat, List.find?_cons]
    by_cases h : e.1 = p.id
    · simp [h]
    · rw [if_neg h, ih, beq_false_of_ne h]

theorem get_entries (payload : Bytes) (p : Parameter) :
    (ofEntries (entries payload)).get p = lastValue? payload p.id := by
  rw [get_ofEntries, entries_eq, ← List.map_reverse, List.find?_map, Option.map_map]
  rfl

theorem ofEntries_entries (payload : Bytes) : ofEntries (entries payload) =
    { headerTableSize := lastValue? payload 1
      enablePush := lastValue? payload 2
      maxConcurrentStreams := lastValue? payload 3
      initialWindowSize := lastValue? payload 4
      maxFrameSize := lastValue? payload 5
      maxHeaderListSize := lastValue? payload 6
      enableConnectProtocol := lastValue? payload 8
      noRfc7540Priorities := lastValue? payload 9 } := by
  refine eq_of_get fun p => ?_
  rw [get_entries]
  cases p <;> rfl

/-- The last value of a parameter is one that it does not allow. -/
def OutOfRange (payload : Bytes) : Prop :=
  (∃ id ∈ [2, 8, 9], ∃ v, lastValue? payload id = some v ∧ 1 < v) ∨
    (∃ v, lastValue? payload 4 = some v ∧ 2 ^ 31 - 1 < v) ∨
    ∃ v, lastValue? payload 5 = some v ∧ ¬ (16384 ≤ v ∧ v ≤ 16777215)

theorem exists_binary {id : Nat} (h : id ∈ [2, 8, 9]) :
    ∃ p : Parameter, p.id = id ∧ ∀ v, p.Allows v → v ≤ 1 := by
  simp only [List.mem_cons, List.not_mem_nil, or_false] at h
  rcases h with rfl | rfl | rfl
  · exact ⟨.enablePush, rfl, fun _ hv => hv⟩
  · exact ⟨.enableConnectProtocol, rfl, fun _ hv => hv⟩
  · exact ⟨.noRfc7540Priorities, rfl, fun _ hv => hv⟩

theorem valid_iff_not_outOfRange {payload : Bytes} :
    (ofEntries (entries payload)).Valid ↔ ¬ OutOfRange payload := by
  unfold Valid
  simp only [get_entries]
  constructor
  · rintro h (⟨id, hid, v, hv, hlt⟩ | ⟨v, hv, hlt⟩ | ⟨v, hv, hrange⟩)
    · obtain ⟨p, rfl, hbinary⟩ := exists_binary hid
      exact Nat.not_le.2 hlt (hbinary v (h p v hv))
    · exact Nat.not_le.2 hlt (h .initialWindowSize v hv)
    · exact hrange (h .maxFrameSize v hv)
  · intro h p v hv
    cases p with
    | enablePush | enableConnectProtocol | noRfc7540Priorities =>
      exact Nat.le_of_not_lt fun hlt => h (.inl ⟨_, by decide, v, hv, hlt⟩)
    | initialWindowSize => exact Nat.le_of_not_lt fun hlt => h (.inr (.inl ⟨v, hv, hlt⟩))
    | maxFrameSize =>
      have hrange : 16384 ≤ v ∧ v ≤ 16777215 :=
        Decidable.not_not.1 fun hn => h (.inr (.inr ⟨v, hv, hn⟩))
      exact hrange
    | headerTableSize | maxConcurrentStreams | maxHeaderListSize => trivial

/-! ### Decoding -/

theorem decode_of_length {payload : Bytes} (h : payload.length % entrySize ≠ 0) :
    decode payload = .error (.frameSize (.settingsPayload payload.length)) := by
  rw [decode, if_neg h]

theorem decode_of_outOfRange {payload : Bytes} (hlen : payload.length % entrySize = 0)
    (h : OutOfRange payload) : ∃ fault, decode payload = .error (.settings fault) := by
  have hfault : (ofEntries (entries payload)).fault? ≠ none := fun hn =>
    valid_iff_not_outOfRange.1 (fault?_eq_none_iff.1 hn) h
  obtain ⟨fault, hf⟩ := Option.ne_none_iff_exists'.1 hfault
  have hvalidate : (ofEntries (entries payload)).validate = .error (.settings fault) := by
    rw [validate, hf]
  refine ⟨fault, ?_⟩
  rw [decode, if_pos hlen]
  simp only [hvalidate, Except.map]

theorem decode_of_not_outOfRange {payload : Bytes} (hlen : payload.length % entrySize = 0)
    (h : ¬ OutOfRange payload) : decode payload = .ok (ofEntries (entries payload)) :=
  decode_eq_ok_iff.2 ⟨hlen, rfl, valid_iff_not_outOfRange.2 h⟩

theorem apply_of_unknown {entry : Nat × Nat} (h : entry.1 ∉ [1, 2, 3, 4, 5, 6, 8, 9])
    (s : Settings) : s.apply entry = s := by
  rw [apply, Parameter.ofId?_eq_none_iff.2 h]

/-- **An entry whose identifier no parameter has** changes nothing, wherever it stands. -/
theorem decode_insert_unknown {pre entry post : Bytes} (hpre : pre.length % entrySize = 0)
    (hentry : entry.length = entrySize) (hpost : post.length % entrySize = 0)
    (hid : Bytes.toNat (entry.take 2) ∉ [1, 2, 3, 4, 5, 6, 8, 9]) :
    decode (pre ++ entry ++ post) = decode (pre ++ post) := by
  have hone : entries entry = [(Bytes.toNat (entry.take 2), valueAt entry 0)] := by
    rw [entries_eq, hentry]
    rfl
  have hmid : entry.length % entrySize = 0 := by
    rw [hentry]
    rfl
  have hentries : ofEntries (entries (pre ++ entry ++ post)) =
      ofEntries (entries (pre ++ post)) := by
    rw [List.append_assoc, entries_append hpre, entries_append hmid, entries_append hpre, hone]
    have hskip : ∀ s : Settings, s.apply (Bytes.toNat (entry.take 2), valueAt entry 0) = s :=
      apply_of_unknown hid
    simp only [ofEntries, List.foldl_append, List.foldl_cons, List.foldl_nil, hskip]
  rw [decode, decode, if_pos (length_append_mod (length_append_mod hpre hmid) hpost),
    if_pos (length_append_mod hpre hpost), hentries]

/-- **Reading a payload of settings.** It is refused for its size exactly if it is no whole number
of entries, and otherwise for a value exactly if the last value of a parameter is out of range.
Any other payload gives each parameter the value of its last entry, or none. Entries of other
identifiers do not matter; two payloads in one are read as the settings of the first with those of
the second merged into them; and merging is associative, with no settings as its unit. -/
theorem decode_decides (payload : Bytes) :
    ((∃ fault, decode payload = .error (.frameSize fault)) ↔ payload.length % entrySize ≠ 0) ∧
    ((∃ fault, decode payload = .error (.settings fault)) ↔
      payload.length % entrySize = 0 ∧ OutOfRange payload) ∧
    (payload.length % entrySize = 0 → ¬ OutOfRange payload →
      decode payload = .ok
        { headerTableSize := lastValue? payload 1
          enablePush := lastValue? payload 2
          maxConcurrentStreams := lastValue? payload 3
          initialWindowSize := lastValue? payload 4
          maxFrameSize := lastValue? payload 5
          maxHeaderListSize := lastValue? payload 6
          enableConnectProtocol := lastValue? payload 8
          noRfc7540Priorities := lastValue? payload 9 }) ∧
    (∀ pre entry post, payload = pre ++ entry ++ post → pre.length % entrySize = 0 →
      entry.length = entrySize → post.length % entrySize = 0 →
      Bytes.toNat (entry.take 2) ∉ [1, 2, 3, 4, 5, 6, 8, 9] →
      decode payload = decode (pre ++ post)) ∧
    (∀ more s t, decode payload = .ok s → decode more = .ok t →
      decode (payload ++ more) = .ok (s.merge t)) ∧
    (∀ s t u : Settings, (s.merge t).merge u = s.merge (t.merge u)) ∧
    ∀ s : Settings, s.merge empty = s ∧ empty.merge s = s := by
  refine ⟨?_, ?_, ?_, ?_, fun more s t => decode_append, merge_assoc,
    fun s => ⟨merge_empty s, empty_merge s⟩⟩
  · constructor
    · rintro ⟨fault, h⟩ hlen
      by_cases hout : OutOfRange payload
      · obtain ⟨fault', h'⟩ := decode_of_outOfRange hlen hout
        rw [h'] at h
        cases h
      · rw [decode_of_not_outOfRange hlen hout] at h
        cases h
    · intro hlen
      exact ⟨_, decode_of_length hlen⟩
  · constructor
    · rintro ⟨fault, h⟩
      have hlen : payload.length % entrySize = 0 := by
        refine Decidable.byContradiction fun hn => ?_
        rw [decode_of_length hn] at h
        cases h
      refine ⟨hlen, Classical.byContradiction fun hout => ?_⟩
      rw [decode_of_not_outOfRange hlen hout] at h
      cases h
    · rintro ⟨hlen, hout⟩
      exact decode_of_outOfRange hlen hout
  · intro hlen hout
    rw [decode_of_not_outOfRange hlen hout, ofEntries_entries]
  · rintro pre entry post rfl hpre hentry hpost hid
    exact decode_insert_unknown hpre hentry hpost hid

end Http2.Settings
