/-!
Byte strings and the big-endian numbers written in them. Main statements: a number of `w` bytes
stays below `256 ^ w`, reading back what was written gives the number modulo that bound, and
writing what was read gives the bytes again.
-/

-- powers and sums of numbers are those of the core library, also where another one is imported
attribute [instance (high), default_instance 20000] instPowNat
attribute [instance (high)] Zero.ofOfNat0

namespace Http2

abbrev Bytes := List UInt8

namespace Bytes

/-- The number a byte string spells, most significant byte first. -/
def toNat (bs : Bytes) : Nat :=
  bs.foldl (fun n b => n * 256 + b.toNat) 0

/-- The last `width` base-256 digits of `n`, most significant first. -/
def ofNat : (width n : Nat) → Bytes
  | 0, _ => []
  | width + 1, n => ofNat width (n / 256) ++ [UInt8.ofNat n]

@[simp] theorem length_ofNat (width n : Nat) : (ofNat width n).length = width := by
  induction width generalizing n with
  | zero => rfl
  | succ w ih => simp [ofNat, ih]

@[simp] theorem toNat_nil : toNat [] = 0 := rfl

@[simp] theorem toNat_concat (bs : Bytes) (b : UInt8) :
    toNat (bs ++ [b]) = toNat bs * 256 + b.toNat := by
  simp [toNat, List.foldl_append]

theorem toNat_lt (bs : Bytes) : toNat bs < 256 ^ bs.length := by
  suffices h : ∀ n, bs.foldl (fun n b => n * 256 + b.toNat) n < (n + 1) * 256 ^ bs.length by
    simpa [toNat] using h 0
  induction bs with
  | nil => intro n; simp
  | cons b bs ih =>
    intro n
    have hb : b.toNat < 256 := b.toNat_lt
    calc (b :: bs).foldl (fun n b => n * 256 + b.toNat) n
        < (n * 256 + b.toNat + 1) * 256 ^ bs.length := ih _
      _ ≤ ((n + 1) * 256) * 256 ^ bs.length := Nat.mul_le_mul_right _ (by omega)
      _ = (n + 1) * 256 ^ (b :: bs).length := by
        rw [List.length_cons, Nat.pow_succ, Nat.mul_assoc, Nat.mul_comm 256]

/-- **Reading what was written** gives the number modulo the bound of its width. -/
theorem toNat_ofNat (width n : Nat) : toNat (ofNat width n) = n % 256 ^ width := by
  induction width generalizing n with
  | zero => simp [ofNat, Nat.mod_one]
  | succ w ih =>
    have hb : (UInt8.ofNat n).toNat = n % 256 := UInt8.toNat_ofNat'
    rw [ofNat, toNat_concat, ih, hb, Nat.pow_succ, Nat.mul_comm (256 ^ w) 256, Nat.mod_mul]
    omega

/-- **Writing what was read** gives the bytes again. -/
theorem ofNat_toNat (bs : Bytes) : ofNat bs.length (toNat bs) = bs := by
  induction h : bs.length generalizing bs with
  | zero => simpa [ofNat] using (List.length_eq_zero_iff.1 h).symm
  | succ w ih =>
    rcases List.eq_nil_or_concat bs with rfl | ⟨init, b, rfl⟩
    · simp at h
    · have hl : init.length = w := by simpa using h
      have hb : b.toNat < 256 := b.toNat_lt
      have hdiv : (toNat init * 256 + b.toNat) / 256 = toNat init := by omega
      have hmod : UInt8.ofNat (toNat init * 256 + b.toNat) = b := by
        apply UInt8.toNat_inj.1
        have h256 : (UInt8.ofNat (toNat init * 256 + b.toNat)).toNat =
            (toNat init * 256 + b.toNat) % 256 := UInt8.toNat_ofNat'
        omega
      rw [List.concat_eq_append, toNat_concat, ofNat, hdiv, hmod, ih init hl]

end Bytes

end Http2
