import Mathlib.Data.List.Induction
import Http2.Settings.Basic

/-!
Settings that are allowed, and payloads one after another. A set of parameters has no fault
exactly if each announced value is one that its parameter allows, so merging allowed settings
gives allowed ones; and reading two payloads in one is merging what they announce.
-/

namespace Http2.Settings

def Parameter.Allows : Parameter → Nat → Prop
  | .enablePush, v | .enableConnectProtocol, v | .noRfc7540Priorities, v => v ≤ 1
  | .initialWindowSize, v => v ≤ 2 ^ 31 - 1
  | .maxFrameSize, v => 16384 ≤ v ∧ v ≤ 16777215
  | .headerTableSize, _ | .maxConcurrentStreams, _ | .maxHeaderListSize, _ => True

/-- Each announced value is allowed. -/
def Valid (s : Settings) : Prop :=
  ∀ p v, s.get p = some v → p.Allows v

variable {s t : Settings}

/-! ### Validity -/

theorem valid_empty : empty.Valid := by
  intro p v h
  rw [get_empty] at h
  cases h

theorem Valid.merge (hs : s.Valid) (ht : t.Valid) : (s.merge t).Valid := by
  intro p v h
  rw [get_merge, Option.or_eq_some_iff] at h
  rcases h with h | ⟨-, h⟩
  · exact ht p v h
  · exact hs p v h

theorem binaryFault?_eq_none_iff {p : Parameter} :
    s.binaryFault? p = none ↔ ∀ v, s.get p = some v → v ≤ 1 := by
  unfold binaryFault?
  cases s.get p with
  | none => simp
  | some v => simp

theorem windowFault?_eq_none_iff :
    s.windowFault? = none ↔ ∀ v, s.initialWindowSize = some v → v ≤ 2 ^ 31 - 1 := by
  unfold windowFault?
  cases s.initialWindowSize with
  | none => simp
  | some v => simp

theorem frameFault?_eq_none_iff :
    s.frameFault? = none ↔ ∀ v, s.maxFrameSize = some v → 16384 ≤ v ∧ v ≤ 16777215 := by
  unfold frameFault?
  cases s.maxFrameSize with
  | none => simp
  | some v => simp

/-- **Settings have no fault** exactly if each announced value is allowed. -/
theorem fault?_eq_none_iff : s.fault? = none ↔ s.Valid := by
  have hbinary : binaryParameters.findSome? s.binaryFault? = none ↔
      ∀ p ∈ binaryParameters, ∀ v, s.get p = some v → v ≤ 1 := by
    simp only [List.findSome?_eq_none_iff, binaryFault?_eq_none_iff]
  rw [fault?, Option.or_eq_none_iff, Option.or_eq_none_iff, hbinary, windowFault?_eq_none_iff,
    frameFault?_eq_none_iff]
  constructor
  · rintro ⟨hb, hw, hf⟩ p v h
    cases p with
    | enablePush | enableConnectProtocol | noRfc7540Priorities => exact hb _ (by decide) v h
    | initialWindowSize => exact hw v h
    | maxFrameSize => exact hf v h
    | headerTableSize | maxConcurrentStreams | maxHeaderListSize => trivial
  · intro h
    refine ⟨fun p hp v hv => ?_, h .initialWindowSize, h .maxFrameSize⟩
    have hallows := h p v hv
    cases p with
    | enablePush | enableConnectProtocol | noRfc7540Priorities => exact hallows
    | _ => exact absurd hp (by decide)

theorem validate_eq_ok_iff : s.validate = .ok () ↔ s.Valid := by
  rw [← fault?_eq_none_iff, validate]
  cases s.fault? with
  | none => simp
  | some fault => simp

theorem Valid.maxFrameSizeInForce (h : s.Valid) :
    16384 ≤ s.maxFrameSizeInForce ∧ s.maxFrameSizeInForce ≤ 16777215 := by
  unfold Settings.maxFrameSizeInForce
  cases hv : s.maxFrameSize with
  | none => decide
  | some v => exact h .maxFrameSize v hv

/-! ### Payloads one after another -/

theorem length_append_mod {a b : Bytes} (ha : a.length % entrySize = 0)
    (hb : b.length % entrySize = 0) : (a ++ b).length % entrySize = 0 := by
  rw [List.length_append, Nat.add_mod, ha, hb]
  rfl

theorem length_lt_of_short {a : Bytes}
    (h : ∀ i₁ i₀ v₃ v₂ v₁ v₀ rest, a = i₁ :: i₀ :: v₃ :: v₂ :: v₁ :: v₀ :: rest → False) :
    a.length < entrySize := by
  rcases a with _ | ⟨_, _ | ⟨_, _ | ⟨_, _ | ⟨_, _ | ⟨_, _ | ⟨_, rest⟩⟩⟩⟩⟩⟩
  all_goals first
    | exact (h _ _ _ _ _ _ _ rfl).elim
    | simp [entrySize]

theorem entries_append {a : Bytes} (h : a.length % entrySize = 0) (b : Bytes) :
    entries (a ++ b) = entries a ++ entries b := by
  fun_induction entries a with
  | case1 i₁ i₀ v₃ v₂ v₁ v₀ rest ih =>
    have hrest : rest.length % entrySize = 0 := by
      simp only [List.length_cons, entrySize] at h ⊢
      omega
    simp only [List.cons_append, entries, ih hrest]
  | case2 a hshort =>
    -- fewer than six bytes are whole entries only if there are none
    have hnil : a = [] := by
      rw [Nat.mod_eq_of_lt (length_lt_of_short hshort)] at h
      exact List.length_eq_zero_iff.1 h
    rw [hnil, List.nil_append, List.nil_append]

theorem merge_apply (s t : Settings) (entry : Nat × Nat) :
    (s.merge t).apply entry = s.merge (t.apply entry) := by
  unfold apply
  split
  · rfl
  · refine eq_of_get fun q => ?_
    simp only [get_set, get_merge]
    split <;> rfl

theorem ofEntries_append (es fs : List (Nat × Nat)) :
    ofEntries (es ++ fs) = (ofEntries es).merge (ofEntries fs) := by
  induction fs using List.reverseRecOn with
  | nil =>
    rw [List.append_nil]
    exact (merge_empty _).symm
  | append_singleton fs e ih =>
    rw [← List.append_assoc, ofEntries_concat, ofEntries_concat, ih, merge_apply]

theorem decode_eq_ok_iff {payload : Bytes} : decode payload = .ok s ↔
    payload.length % entrySize = 0 ∧ ofEntries (entries payload) = s ∧ s.Valid := by
  unfold decode
  split
  · next hlen =>
    simp only
    cases hv : (ofEntries (entries payload)).validate with
    | ok u =>
      have hvalid := validate_eq_ok_iff.1 hv
      constructor
      · intro h
        cases h
        exact ⟨hlen, rfl, hvalid⟩
      · rintro ⟨-, rfl, -⟩
        rfl
    | error err =>
      constructor
      · intro h
        cases h
      · rintro ⟨-, rfl, hvalid⟩
        rw [validate_eq_ok_iff.2 hvalid] at hv
        cases hv
  · next hlen =>
    constructor
    · intro h
      cases h
    · rintro ⟨h, -⟩
      exact absurd h hlen

theorem decode_of_toOption {payload : Bytes} (h : (decode payload).toOption = some s) :
    decode payload = .ok s := by
  cases hd : decode payload with
  | error e =>
    rw [hd] at h
    cases h
  | ok s' =>
    rw [hd] at h
    exact congrArg Except.ok (Option.some.inj h)

theorem decode_nil : decode [] = .ok empty :=
  decode_eq_ok_iff.2 ⟨rfl, rfl, valid_empty⟩

/-- **Reading two payloads in one** is merging what they announce. -/
theorem decode_append {a b : Bytes} (ha : decode a = .ok s) (hb : decode b = .ok t) :
    decode (a ++ b) = .ok (s.merge t) := by
  obtain ⟨hla, rfl, hva⟩ := decode_eq_ok_iff.1 ha
  obtain ⟨hlb, rfl, hvb⟩ := decode_eq_ok_iff.1 hb
  refine decode_eq_ok_iff.2 ⟨length_append_mod hla hlb, ?_, hva.merge hvb⟩
  rw [entries_append hla, ofEntries_append]

end Http2.Settings
