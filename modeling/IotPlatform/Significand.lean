import Mathlib

/-!
# Rounding to a significand of `p` bits

A rational is rounded to the nearest number of at most `p` significant bits; of two nearest ones
to that whose significand is even. The exponent is not bounded.
-/
namespace IotPlatform.Significand

/-- The number has at most `p` significant bits. -/
def Fits (p : ℕ) (q : ℚ) : Prop := ∃ m e : ℤ, |m| < 2 ^ p ∧ q = m * 2 ^ e

/-- The nearest integer, ties to even. -/
def roundEven (q : ℚ) : ℤ :=
  if q - ⌊q⌋ < 1 / 2 then ⌊q⌋
  else if 1 / 2 < q - ⌊q⌋ then ⌊q⌋ + 1
  else ⌊q⌋ + ⌊q⌋ % 2

/-- The exponent of the last of the `p` bits. -/
def lastBit (p : ℕ) (q : ℚ) : ℤ := Int.log 2 |q| + 1 - p

def roundTo (p : ℕ) (q : ℚ) : ℚ := roundEven (q / 2 ^ lastBit p q) * 2 ^ lastBit p q

theorem roundEven_intCast (z : ℤ) : roundEven z = z := by
  rw [roundEven, Int.floor_intCast, sub_self, if_pos one_half_pos]

theorem floor_le_roundEven (q : ℚ) : ⌊q⌋ ≤ roundEven q ∧ roundEven q ≤ ⌊q⌋ + 1 := by
  unfold roundEven
  split_ifs <;> omega

theorem abs_roundEven_le {n : ℕ} {q : ℚ} (h : |q| ≤ n) : |roundEven q| ≤ n := by
  obtain ⟨hlow, hhigh⟩ := abs_le.mp h
  obtain ⟨hfloor, hceil⟩ := floor_le_roundEven q
  have hn : -(n : ℤ) ≤ ⌊q⌋ := Int.le_floor.mpr (by exact_mod_cast hlow)
  refine abs_le.mpr ⟨hn.trans hfloor, ?_⟩
  rcases lt_or_ge ⌊q⌋ (n : ℤ) with hlt | hge
  · omega
  · -- only the bound itself has this floor
    have hq : q = (n : ℤ) := by
      refine le_antisymm (by exact_mod_cast hhigh) ?_
      exact (Int.cast_le.mpr hge).trans (Int.floor_le q)
    rw [hq, roundEven_intCast]

section
variable {p : ℕ} {q : ℚ}

theorem two_zpow_pos (e : ℤ) : (0 : ℚ) < 2 ^ e := zpow_pos two_pos e

theorem abs_scaled_lt (p : ℕ) (q : ℚ) : |q / 2 ^ lastBit p q| < 2 ^ p := by
  rw [abs_div, abs_of_pos (two_zpow_pos _), div_lt_iff₀ (two_zpow_pos _), ← zpow_natCast,
    ← zpow_add₀ two_ne_zero, lastBit, add_sub_cancel]
  exact_mod_cast Int.lt_zpow_succ_log_self one_lt_two |q|

theorem fits_roundTo (hp : 0 < p) (q : ℚ) : Fits p (roundTo p q) := by
  have hle : |roundEven (q / 2 ^ lastBit p q)| ≤ (2 ^ p : ℕ) := by
    refine abs_roundEven_le ?_
    exact_mod_cast (abs_scaled_lt p q).le
  push_cast at hle
  unfold roundTo
  generalize roundEven (q / 2 ^ lastBit p q) = k at hle
  rcases hle.lt_or_eq with hlt | heq
  · exact ⟨k, _, hlt, rfl⟩
  · -- a carry out of the significand leaves a power of two
    obtain ⟨s, hs, rfl⟩ : ∃ s : ℤ, |s| < 2 ^ p ∧ k = s * 2 ^ p := by
      have hk : k ≠ 0 := by
        rintro rfl
        rw [abs_zero] at heq
        exact pow_ne_zero p two_ne_zero heq.symm
      refine ⟨k.sign, ?_, ?_⟩
      · rw [Int.abs_sign_of_ne_zero hk]
        exact one_lt_pow₀ one_lt_two hp.ne'
      · rw [← heq, Int.sign_mul_abs]
    refine ⟨s, p + lastBit p q, hs, ?_⟩
    push_cast
    rw [zpow_add₀ two_ne_zero, zpow_natCast, mul_assoc]

theorem roundTo_of_fits (h : Fits p q) : roundTo p q = q := by
  obtain ⟨m, e, hm, rfl⟩ := h
  rcases eq_or_ne m 0 with rfl | hm0
  · have hz := roundEven_intCast 0
    rw [Int.cast_zero] at hz
    simp [roundTo, hz]
  set q : ℚ := m * 2 ^ e with hq
  have hpos : 0 < |q| := abs_pos.mpr (mul_ne_zero (by exact_mod_cast hm0) (two_zpow_pos e).ne')
  have hlt : |q| < (2 : ℕ) ^ (p + e) := by
    rw [Nat.cast_ofNat, hq, abs_mul, abs_of_pos (two_zpow_pos e), zpow_add₀ two_ne_zero,
      zpow_natCast]
    exact mul_lt_mul_of_pos_right (by exact_mod_cast hm) (two_zpow_pos e)
  have hlog : Int.log 2 |q| < p + e := (Int.lt_zpow_iff_log_lt one_lt_two hpos).mp hlt
  have hscaled : q / 2 ^ lastBit p q = ((m * 2 ^ (e - lastBit p q).toNat : ℤ) : ℚ) := by
    have he : ((e - lastBit p q).toNat : ℤ) = e - lastBit p q := by
      rw [lastBit]
      omega
    rw [div_eq_iff (two_zpow_pos _).ne']
    push_cast
    rw [← zpow_natCast, he, mul_assoc, ← zpow_add₀ two_ne_zero, sub_add_cancel]
  rw [roundTo, hscaled, roundEven_intCast, ← hscaled, div_mul_cancel₀ _ (two_zpow_pos _).ne']

/-- Exactly the numbers of `p` bits are left as they are. -/
theorem roundTo_eq_self_iff (hp : 0 < p) : roundTo p q = q ↔ Fits p q :=
  ⟨fun h => h ▸ fits_roundTo hp q, roundTo_of_fits⟩

theorem fits_of_abs_lt {n : ℤ} (h : |n| < 2 ^ p) : Fits p n := ⟨n, 0, h, by simp⟩

theorem fits_intCast_iff {n : ℤ} :
    Fits p n ↔ ∃ (m : ℤ) (k : ℕ), |m| < 2 ^ p ∧ n = m * 2 ^ k := by
  constructor
  · rintro ⟨m, e, hm, hn⟩
    rcases le_or_gt 0 e with he | he
    · refine ⟨m, e.toNat, hm, ?_⟩
      have hcast : (n : ℚ) = ((m * 2 ^ e.toNat : ℤ) : ℚ) := by
        rw [hn]
        push_cast
        rw [← zpow_natCast, Int.toNat_of_nonneg he]
      exact_mod_cast hcast
    · refine ⟨n, 0, lt_of_le_of_lt ?_ hm, by simp⟩
      have hle : |(n : ℚ)| ≤ |(m : ℚ)| := by
        rw [hn, abs_mul, abs_of_pos (two_zpow_pos e)]
        exact mul_le_of_le_one_right (abs_nonneg _)
          (zpow_le_one_of_nonpos₀ one_le_two he.le)
      exact_mod_cast hle
  · rintro ⟨m, k, hm, rfl⟩
    exact ⟨m, k, hm, by push_cast; rw [zpow_natCast]⟩

/-- An integer is rounded to an integer. -/
theorem roundTo_intCast (p : ℕ) (n : ℤ) : ∃ z : ℤ, roundTo p n = z := by
  rcases lt_or_ge |n| (2 ^ p) with hlt | hge
  · exact ⟨n, roundTo_of_fits (fits_of_abs_lt hlt)⟩
  · have hq : ((2 : ℕ) : ℚ) ^ (p : ℤ) ≤ |(n : ℚ)| := by
      rw [zpow_natCast]
      exact_mod_cast hge
    have hpos : 0 < |(n : ℚ)| := lt_of_lt_of_le (by positivity) hq
    have hlog := (Int.zpow_le_iff_le_log one_lt_two hpos).mp hq
    have hbit : ((lastBit p n).toNat : ℤ) = lastBit p n := by
      rw [lastBit]
      omega
    refine ⟨roundEven (n / 2 ^ lastBit p n) * 2 ^ (lastBit p n).toNat, ?_⟩
    push_cast
    rw [roundTo, ← zpow_natCast, hbit]

end

end IotPlatform.Significand
