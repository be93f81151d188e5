import IotPlatform.Decimals

/-!
# Printed numbers

What `%u`, `%d` and `%.nf` print is a decimal numeral. Integers are printed as they are, other
numbers to within half a unit of the last digit.
-/
namespace IotPlatform
open CText

theorem digit_lt_ten (n : ℕ) : n % 10 < 10 := Nat.mod_lt n (by decide)

/-- The last decimal digit. -/
def lastDigit (n : ℕ) : Fin 10 := ⟨n % 10, digit_lt_ten n⟩

theorem digitsValue_append (ds : List (Fin 10)) (d : Fin 10) :
    digitsValue (ds ++ [d]) = digitsValue ds * 10 + d.val := by
  simp only [digitsValue, List.reverse_append, List.reverse_singleton, List.singleton_append,
    List.map_cons, Nat.ofDigits_cons]
  omega

theorem digitByte_lastDigit (n : ℕ) :
    UInt8.ofNat (n % 10).digitChar.toNat = digitByte (lastDigit n) := by
  have h : ∀ d : Fin 10, UInt8.ofNat d.val.digitChar.toNat = digitByte d := by decide
  exact h (lastDigit n)

theorem decNat_digits (n : ℕ) :
    ∃ ds, ds ≠ [] ∧ decNat n = digitText ds ∧ digitsValue ds = n := by
  induction n using Nat.strong_induction_on with
  | _ n ih =>
    by_cases hn : n < 10
    · refine ⟨[lastDigit n], List.cons_ne_nil _ _, ?_, ?_⟩
      · have hmod : n % 10 = n := Nat.mod_eq_of_lt hn
        have hbyte := digitByte_lastDigit n
        rw [hmod] at hbyte
        simp [decNat, Nat.toDigits_of_lt_base hn, digitText, hbyte]
      · simp [digitsValue, lastDigit, Nat.mod_eq_of_lt hn]
    · obtain ⟨ds, -, htext, hvalue⟩ := ih (n / 10) (by omega)
      refine ⟨ds ++ [lastDigit n], by simp, ?_, ?_⟩
      · have hsplit : decNat n = decNat (n / 10) ++ [UInt8.ofNat (n % 10).digitChar.toNat] := by
          simp [decNat, Nat.toDigits_of_base_le (b := 10) (by decide) (Nat.not_lt.mp hn)]
        rw [hsplit, htext, digitByte_lastDigit, Numeral.digitText_append]
        rfl
      · rw [digitsValue_append, hvalue]
        exact Nat.div_add_mod' n 10

theorem length_decNat_le {n k : ℕ} (hk : 0 < k) (h : n < 10 ^ k) : (decNat n).length ≤ k := by
  rw [decNat, List.length_map]
  exact (Nat.length_toDigits_le_iff (by decide) hk).mpr h

/-- The numeral that `decInt` prints. -/
theorem decInt_decimal (z : ℤ) : ∃ d : Decimal, d.text = decInt z ∧ d.value = z := by
  obtain ⟨ds, hne, htext, hvalue⟩ := decNat_digits z.natAbs
  refine ⟨⟨if z < 0 then .minus else .none, ds, none, none,
    List.append_ne_nil_of_left_ne_nil hne _⟩, ?_, ?_⟩
  · rw [decInt, htext]
    by_cases hz : z < 0 <;>
      simp [Decimal.text, Decimal.unsignedText, Decimal.fractionText, Decimal.exponentText,
        Sign.text, hz]
  · by_cases hz : z < 0
    · have hcast : (z.natAbs : ℚ) = -z := by
        rw [Nat.cast_natAbs, abs_of_neg hz, Int.cast_neg]
      simp [Decimal.value, Decimal.unsignedValue, Decimal.frac, Sign.factor, hz, hvalue, hcast]
    · have hcast : (z.natAbs : ℚ) = z := by
        rw [Nat.cast_natAbs, abs_of_nonneg (not_lt.mp hz)]
      simp [Decimal.value, Decimal.unsignedValue, Decimal.frac, Sign.factor, hz, hvalue, hcast]

theorem strtod_decInt (z : ℤ) : Numeral.strtod (decInt z) = .fin z := by
  obtain ⟨d, htext, hvalue⟩ := decInt_decimal z
  rw [← htext, Numeral.strtod_text, hvalue]

theorem length_decInt_le {z : ℤ} {k : ℕ} (hk : 0 < k) (h : z.natAbs < 10 ^ k) :
    (decInt z).length ≤ k + 1 := by
  have hlen := length_decNat_le hk h
  unfold decInt
  split_ifs
  · simpa using hlen
  · omega

theorem tenthsPlace_lt (n k i : ℕ) : k / 10 ^ (n - 1 - i) % 10 < 10 := digit_lt_ten _

/-- The last `n` digits of a number, leading zeros included. -/
def fixedDigits (n k : ℕ) : List (Fin 10) :=
  (List.range n).map fun i => ⟨k / 10 ^ (n - 1 - i) % 10, tenthsPlace_lt n k i⟩

theorem length_fixedDigits (n k : ℕ) : (fixedDigits n k).length = n := by simp [fixedDigits]

theorem fixedDigits_succ (n k : ℕ) :
    fixedDigits (n + 1) k = fixedDigits n (k / 10) ++ [lastDigit k] := by
  rw [fixedDigits, List.range_succ, List.map_append, fixedDigits]
  refine congrArg₂ (· ++ ·) (List.map_congr_left fun i hi => Fin.ext ?_) ?_
  · have hi : i < n := List.mem_range.mp hi
    have hexp : n + 1 - 1 - i = n - 1 - i + 1 := by omega
    simp only [hexp, pow_succ', Nat.div_div_eq_div_mul]
  · simp [lastDigit]

theorem digitsValue_fixedDigits (ds : List (Fin 10)) (n k : ℕ) :
    digitsValue (ds ++ fixedDigits n k) = digitsValue ds * 10 ^ n + k % 10 ^ n := by
  induction n generalizing k with
  | zero => simp [fixedDigits, Nat.mod_one]
  | succ n ih =>
    rw [fixedDigits_succ, ← List.append_assoc, digitsValue_append, ih]
    have hsplit : k % 10 ^ (n + 1) = k % 10 + 10 * (k / 10 % 10 ^ n) := by
      rw [pow_succ', Nat.mod_mul]
    rw [hsplit, pow_succ, lastDigit]
    ring

/-- The numeral that `fmtFixed` prints. -/
theorem fmtFixed_decimal (n : ℕ) (q : ℚ) : ∃ d : Decimal, d.text = fmtFixed n q ∧
    d.value = (if q < 0 then -1 else 1) * ((roundScaled n |q| : ℚ) / 10 ^ n) := by
  obtain ⟨ds, hne, htext, hvalue⟩ := decNat_digits (roundScaled n |q| / 10 ^ n)
  refine ⟨⟨if q < 0 then .minus else .none, ds,
    if n = 0 then none else some (fixedDigits n (roundScaled n |q|)), none,
    List.append_ne_nil_of_left_ne_nil hne _⟩, ?_, ?_⟩
  · have hfrac : (List.range n).map (fun i => UInt8.ofNat
        (48 + roundScaled n |q| / 10 ^ (n - 1 - i) % 10)) =
        digitText (fixedDigits n (roundScaled n |q|)) := by
      simp [fixedDigits, digitText, digitByte]
    simp only [fmtFixed, htext, hfrac]
    by_cases hq : q < 0 <;> by_cases hn : n = 0 <;>
      simp [Decimal.text, Decimal.unsignedText, Decimal.fractionText, Decimal.exponentText,
        Sign.text, hq, hn]
  · have hdigits : digitsValue (ds ++ (if n = 0 then none else
        some (fixedDigits n (roundScaled n |q|))).getD []) = roundScaled n |q| := by
      have hall := digitsValue_fixedDigits ds n (roundScaled n |q|)
      rw [hvalue, Nat.div_add_mod'] at hall
      by_cases hn : n = 0
      · subst hn
        simpa [fixedDigits] using hall
      · simpa [hn] using hall
    have hlen : ((if n = 0 then none else
        some (fixedDigits n (roundScaled n |q|))).getD []).length = n := by
      by_cases hn : n = 0 <;> simp [hn, length_fixedDigits]
    by_cases hq : q < 0 <;>
      simp [Decimal.value, Decimal.unsignedValue, Decimal.frac, Sign.factor, hq, hdigits, hlen]

theorem roundScaled_near (n : ℕ) {q : ℚ} (hq : 0 ≤ q) :
    |(roundScaled n q : ℚ) - q * 10 ^ n| ≤ 1 / 2 := by
  set s := q * (10 ^ n : ℕ) with hs
  have hnonneg : 0 ≤ s.num := Rat.num_nonneg.mpr (by positivity)
  have hden : (0 : ℚ) < s.den := by exact_mod_cast s.pos
  have hsplit : (s.num.toNat / s.den : ℕ) * s.den + s.num.toNat % s.den = s.num.toNat :=
    Nat.div_add_mod' _ _
  have hvalue : s * s.den = (s.num.toNat / s.den : ℕ) * s.den + (s.num.toNat % s.den : ℕ) := by
    have hnum : s * s.den = (s.num.toNat : ℚ) := by
      rw [Rat.mul_den_eq_num]
      exact_mod_cast (Int.toNat_of_nonneg hnonneg).symm
    rw [hnum]
    exact_mod_cast hsplit.symm
  have hcast : q * 10 ^ n = s := by simp [hs]
  have hround : ∀ r : ℕ, |(r : ℚ) * s.den - s * s.den| ≤ s.den / 2 → |(r : ℚ) - s| ≤ 1 / 2 := by
    intro r h
    rw [← sub_mul, abs_mul, abs_of_pos hden] at h
    nlinarith
  rw [hcast]
  apply hround
  rw [hvalue]
  generalize hk : s.num.toNat / s.den = k
  generalize hr : s.num.toNat % s.den = r
  have hlt : r < s.den := hr ▸ Nat.mod_lt _ s.pos
  have hdef : roundScaled n q = if 2 * r < s.den then k
      else if s.den < 2 * r then k + 1 else k + k % 2 := by
    simp only [roundScaled, ← hs, hk, hr]
  have hltq : (r : ℚ) < s.den := by exact_mod_cast hlt
  have hr0 : (0 : ℚ) ≤ r := by positivity
  rw [hdef]
  split_ifs with hlow hhigh
  · have hlow : (2 : ℚ) * r < s.den := by exact_mod_cast hlow
    rw [abs_le]
    constructor <;> linarith
  · have hhigh : (s.den : ℚ) < 2 * r := by exact_mod_cast hhigh
    push_cast
    rw [abs_le]
    constructor <;> linarith
  · have htie : (2 : ℚ) * r = s.den := by exact_mod_cast (by omega : 2 * r = s.den)
    rcases Nat.mod_two_eq_zero_or_one k with hmod | hmod <;> rw [hmod] <;> push_cast <;>
      rw [abs_le] <;> constructor <;> linarith

/-- A printed number is off by at most half a unit of its last digit. -/
theorem strtod_fmtFixed (n : ℕ) (q : ℚ) :
    ∃ x : ℚ, Numeral.strtod (fmtFixed n q) = .fin x ∧ |x - q| ≤ 1 / (2 * 10 ^ n) := by
  obtain ⟨d, htext, hvalue⟩ := fmtFixed_decimal n q
  refine ⟨d.value, by rw [← htext, Numeral.strtod_text], ?_⟩
  have hpow : (0 : ℚ) < 10 ^ n := by positivity
  have hnear := roundScaled_near n (abs_nonneg q)
  have hscaled : |(roundScaled n |q| : ℚ) / 10 ^ n - (|q|)| ≤ 1 / (2 * 10 ^ n) := by
    have hform : (roundScaled n |q| : ℚ) / 10 ^ n - (|q|) =
        (roundScaled n |q| - |q| * 10 ^ n) / 10 ^ n := by
      field_simp
    rw [hform, abs_div, abs_of_pos hpow, div_le_div_iff₀ hpow (by positivity)]
    nlinarith
  rw [hvalue]
  by_cases hq : q < 0
  · rw [abs_of_neg hq] at hscaled
    rw [if_pos hq, abs_of_neg hq, ← abs_neg]
    have hform : -(-1 * ((roundScaled n (-q) : ℚ) / 10 ^ n) - q) =
        (roundScaled n (-q) : ℚ) / 10 ^ n - -q := by ring
    rwa [hform]
  · rw [abs_of_nonneg (not_lt.mp hq)] at hscaled
    rwa [if_neg hq, abs_of_nonneg (not_lt.mp hq), one_mul]

theorem roundScaled_le (n k : ℕ) {q : ℚ} (hq : 0 ≤ q) (h : q < k) :
    roundScaled n q ≤ k * 10 ^ n := by
  have hnear := (abs_le.mp (roundScaled_near n hq)).2
  have hpow : (0 : ℚ) < 10 ^ n := by positivity
  have hlt : (roundScaled n q : ℚ) < (k * 10 ^ n : ℕ) + 1 := by
    push_cast
    nlinarith
  exact Nat.lt_succ_iff.mp (by exact_mod_cast hlt)

theorem length_fmtFixed_le {n k : ℕ} {q : ℚ} (h : |q| < 10 ^ k) :
    (fmtFixed n q).length ≤ n + k + 3 := by
  have hle : roundScaled n |q| / 10 ^ n ≤ 10 ^ k :=
    Nat.div_le_of_le_mul (by
      rw [mul_comm]
      exact roundScaled_le n (10 ^ k) (abs_nonneg q) (by exact_mod_cast h))
  have hlen : (decNat (roundScaled n |q| / 10 ^ n)).length ≤ k + 1 :=
    length_decNat_le (Nat.succ_pos k) (lt_of_le_of_lt hle (Nat.pow_lt_pow_succ (by decide)))
  simp only [fmtFixed, List.length_append]
  have hsign : (if q < 0 then [45] else ([] : Text)).length ≤ 1 := by split_ifs <;> simp
  split_ifs with hneg hn <;> simp <;> omega

end IotPlatform
