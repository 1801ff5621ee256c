import Mathlib.Data.List.TakeWhile
import Http2.Text.Basic
import Http2.Text.Utf8

/-!
Texts made small. Capitals alone change, and what comes out as something else than a small letter
was there before.

UTF-8 and back. The form of a character is a lead byte with the tails that it asks for, and these
spell the code point again, whatever follows. Main statement: the lenient reading of a text's form
is the text.
-/

namespace Http2.Text

/-! ### Letter case -/

theorem toList_asciiLower (s : String) : (asciiLower s).toList = s.toList.map Char.toLower :=
  String.toList_map

/-- Small letters come from letters, and everything else from itself. -/
theorem eq_of_toLower_eq {c d : Char} (hd : d.isLower = false) (h : c.toLower = d) : c = d := by
  unfold Char.toLower at h
  split at h
  · next hc =>
    obtain ⟨h₁, h₂⟩ := hc
    have hval : d.val = c.val + 32 := by
      rw [← h]
      rfl
    have hlow : ¬ (97 ≤ d.val ∧ d.val ≤ 122) := by
      change (decide (97 ≤ d.val) && decide (d.val ≤ 122)) = false at hd
      simpa using hd
    grind
  · exact h

theorem toLower_eq_self_iff {c : Char} : c.toLower = c ↔ c.isUpper = false := by
  unfold Char.toLower
  split
  · next hc =>
    have hupper : c.isUpper = true := decide_eq_true hc
    obtain ⟨h₁, h₂⟩ := hc
    rw [hupper]
    refine ⟨fun h => ?_, nofun⟩
    have hval : c.val + 32 = c.val := congrArg Char.val h
    grind
  · next hc => exact ⟨fun _ => decide_eq_false hc, fun _ => rfl⟩

theorem map_toLower_eq_self_iff {cs : List Char} :
    cs.map Char.toLower = cs ↔ ∀ c ∈ cs, c.isUpper = false := by
  conv => lhs; rhs; rw [← List.map_id cs]
  rw [List.map_inj_left]
  exact forall₂_congr fun c _ => toLower_eq_self_iff

theorem asciiLower_eq_self_iff {s : String} : asciiLower s = s ↔ hasAsciiUpper s = false := by
  rw [← String.toList_inj, toList_asciiLower, map_toLower_eq_self_iff]
  simp [hasAsciiUpper]

namespace Utf8

/-! ### Leads and tails -/

theorem lt_ofNat_iff {n : Nat} (h : n < 256) (b : UInt8) : UInt8.ofNat n < b ↔ n < b.toNat := by
  rw [UInt8.lt_iff_toNat_lt, UInt8.toNat_ofNat_of_lt' h]

theorem eq_ofNat_iff {n : Nat} (h : n < 256) (b : UInt8) : UInt8.ofNat n = b ↔ n = b.toNat := by
  rw [← UInt8.toNat_inj, UInt8.toNat_ofNat_of_lt' h]

theorem Lead.of?_one {n : Nat} (h : n < 0x80) :
    Lead.of? (UInt8.ofNat n) = some { bits := n, tails := 0 } := by
  have hn : n < 256 := by omega
  simp only [Lead.of?, lt_ofNat_iff hn, UInt8.toNat_ofNat_of_lt' hn, UInt8.reduceToNat]
  rw [if_pos h]

theorem Lead.of?_two {n : Nat} (h : 2 ≤ n) (h' : n < 32) :
    Lead.of? (UInt8.ofNat (n + 0xC0)) = some { bits := n, tails := 1 } := by
  have hn : n + 0xC0 < 256 := by omega
  simp only [Lead.of?, lt_ofNat_iff hn, UInt8.toNat_ofNat_of_lt' hn, UInt8.reduceToNat]
  rw [if_neg (by omega), if_neg (by omega), if_pos (by omega), Nat.add_sub_cancel]

theorem Lead.of?_three {n : Nat} (h : n < 16) :
    Lead.of? (UInt8.ofNat (n + 0xE0)) =
      some { bits := n, tails := 2, low := if n = 0 then 0xA0 else 0x80,
             high := if n = 13 then 0x9F else 0xBF } := by
  have hn : n + 0xE0 < 256 := by omega
  simp only [Lead.of?, lt_ofNat_iff hn, eq_ofNat_iff hn, UInt8.toNat_ofNat_of_lt' hn, UInt8.reduceToNat]
  rw [if_neg (by omega), if_neg (by omega), if_neg (by omega), if_pos (by omega),
    Nat.add_sub_cancel]
  simp

theorem Lead.of?_four {n : Nat} (h : n < 5) :
    Lead.of? (UInt8.ofNat (n + 0xF0)) =
      some { bits := n, tails := 3, low := if n = 0 then 0x90 else 0x80,
             high := if n = 4 then 0x8F else 0xBF } := by
  have hn : n + 0xF0 < 256 := by omega
  simp only [Lead.of?, lt_ofNat_iff hn, eq_ofNat_iff hn, UInt8.toNat_ofNat_of_lt' hn, UInt8.reduceToNat]
  rw [if_neg (by omega), if_neg (by omega), if_neg (by omega), if_neg (by omega),
    if_pos (by omega), Nat.add_sub_cancel]
  simp

def tail (n : Nat) : UInt8 := UInt8.ofNat (n % 64 + 0x80)

theorem toNat_tail (n : Nat) : (tail n).toNat = n % 64 + 0x80 :=
  UInt8.toNat_ofNat_of_lt' (show n % 64 + 0x80 < 256 by omega)

theorem isTail_tail (n : Nat) : isTail (tail n) = true := by
  have := toNat_tail n
  simp only [isTail, Bool.and_eq_true, decide_eq_true_eq, UInt8.le_iff_toNat_le,
    UInt8.reduceToNat]
  omega

/-- The tails that a lead asks for. -/
structure Lead.Completes (l : Lead) (tails : Bytes) : Prop where
  length : tails.length = l.tails
  second : ∀ t, tails.head? = some t → l.low ≤ t ∧ t ≤ l.high
  further : ∀ t ∈ tails.tail, isTail t = true

theorem Lead.Completes.accepted {l : Lead} {tails : Bytes} (h : l.Completes tails) (rest : Bytes) :
    l.accepted (tails ++ rest) = tails := by
  have htake : (tails ++ rest).take l.tails = tails := List.take_left' h.length
  unfold Lead.accepted
  rw [htake]
  cases tails with
  | nil => rfl
  | cons t tails =>
    have hfurther : tails.takeWhile isTail = tails := List.takeWhile_eq_self_iff.2 h.further
    simp only [if_pos (h.second t rfl), hfurther]

/-! ### One character -/

/-- **The form of a character** is a lead with its tails, and these spell the code point. -/
theorem exists_lead (c : Char) :
    ∃ b l tails, String.utf8EncodeChar c = b :: tails ∧ Lead.of? b = some l ∧
      l.Completes tails ∧ l.value tails = c.toNat := by
  have hvalid : c.toNat < 0xD800 ∨ 0xDFFF < c.toNat ∧ c.toNat < 0x110000 := c.valid
  have hval : c.val.toNat = c.toNat := rfl
  unfold String.utf8EncodeChar
  simp only [hval]
  generalize c.toNat = n at hvalid
  split
  · next h => exact ⟨_, _, [], rfl, Lead.of?_one (by omega), ⟨rfl, nofun, nofun⟩, rfl⟩
  split
  · next h₁ h₂ =>
    refine ⟨_, _, [tail n], rfl, Lead.of?_two (by omega) (by omega),
      ⟨rfl, fun t ht => ?_, nofun⟩, ?_⟩
    · obtain rfl : tail n = t := Option.some.inj ht
      simpa [isTail] using isTail_tail n
    · simp only [Lead.value, List.foldl_cons, List.foldl_nil, toNat_tail]
      omega
  split
  · next h₁ h₂ h₃ =>
    refine ⟨_, _, [tail (n / 64), tail n], rfl, Lead.of?_three (by omega),
      ⟨rfl, fun t ht => ?_, fun t ht => ?_⟩, ?_⟩
    · obtain rfl : tail (n / 64) = t := Option.some.inj ht
      have := toNat_tail (n / 64)
      simp only [UInt8.le_iff_toNat_le]
      constructor <;> split <;> simp only [UInt8.reduceToNat] <;> omega
    · obtain rfl : t = tail n := by simpa using ht
      exact isTail_tail n
    · simp only [Lead.value, List.foldl_cons, List.foldl_nil, toNat_tail]
      omega
  · next h₁ h₂ h₃ =>
    refine ⟨_, _, [tail (n / 4096), tail (n / 64), tail n], rfl, Lead.of?_four (by omega),
      ⟨rfl, fun t ht => ?_, fun t ht => ?_⟩, ?_⟩
    · obtain rfl : tail (n / 4096) = t := Option.some.inj ht
      have := toNat_tail (n / 4096)
      simp only [UInt8.le_iff_toNat_le]
      constructor <;> split <;> simp only [UInt8.reduceToNat] <;> omega
    · rcases List.mem_cons.1 ht with rfl | ht
      · exact isTail_tail _
      · rw [List.mem_singleton.1 ht]
        exact isTail_tail _
    · simp only [Lead.value, List.foldl_cons, List.foldl_nil, toNat_tail]
      omega

theorem exists_piece (c : Char) :
    ∃ b tails, String.utf8EncodeChar c = b :: tails ∧
      ∀ rest, piece b (tails ++ rest) = (.char c, tails.length) := by
  obtain ⟨b, l, tails, hc, hl, htails, hvalue⟩ := exists_lead c
  refine ⟨b, tails, hc, fun rest => ?_⟩
  unfold piece
  rw [hl]
  simp only [htails.accepted, htails.length, if_true, hvalue, Char.ofNat_toNat]

/-! ### Whole texts -/

theorem lossyFrom_encode (done cs : List Char) :
    lossyFrom done (cs.flatMap String.utf8EncodeChar) = done.reverse ++ cs := by
  induction cs generalizing done with
  | nil =>
    rw [List.flatMap_nil, lossyFrom, List.append_nil]
  | cons c cs ih =>
    obtain ⟨b, tails, hc, hpiece⟩ := exists_piece c
    rw [List.flatMap_cons, hc, List.cons_append, lossyFrom]
    simp only [hpiece, List.drop_left', ih, List.reverse_cons, List.append_assoc,
      List.singleton_append]

/-- **The form of a text** is read back as the text. -/
theorem lossy_encode (s : String) : lossy (encode s) = s := by
  rw [lossy, encode, lossyFrom_encode, List.reverse_nil, List.nil_append, String.ofList_toList]

theorem length_encode (s : String) : (encode s).length = s.utf8ByteSize := by
  conv => rhs; rw [← String.ofList_toList (s := s)]
  rw [← String.size_toByteArray, String.toByteArray_ofList, List.utf8Encode, List.size_toByteArray,
    encode]

end Utf8

end Http2.Text
