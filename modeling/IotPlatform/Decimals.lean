import IotPlatform.CFloat

/-!
# Decimal numerals

A decimal number as it is written, its value, and what `strtod` makes of its text.
-/
namespace IotPlatform
open CText

inductive Sign
  | none | plus | minus
  deriving DecidableEq, Repr

def Sign.text : Sign → Text
  | none => []
  | plus => [43]
  | minus => [45]

def Sign.factor : Sign → ℤ
  | none => 1
  | plus => 1
  | minus => -1

def digitByte (d : Fin 10) : UInt8 := UInt8.ofNat (48 + d.val)

def digitText (ds : List (Fin 10)) : Text := ds.map digitByte

def digitsValue (ds : List (Fin 10)) : ℕ := Nat.ofDigits 10 (ds.reverse.map Fin.val)

structure Exponent where
  upper : Bool
  sign : Sign
  digits : List (Fin 10)
  digits_ne : digits ≠ []

def Exponent.text (e : Exponent) : Text :=
  (if e.upper then 69 else 101) :: (e.sign.text ++ digitText e.digits)

def Exponent.value (e : Exponent) : ℤ := e.sign.factor * digitsValue e.digits

/-- A sign, digits, a point with more digits, an exponent. Each part may be missing, but there is
a digit in front of the exponent. -/
structure Decimal where
  sign : Sign
  whole : List (Fin 10)
  fraction : Option (List (Fin 10))
  exponent : Option Exponent
  digits_ne : whole ++ fraction.getD [] ≠ []

namespace Decimal

def frac (d : Decimal) : List (Fin 10) := d.fraction.getD []

def fractionText (d : Decimal) : Text := (d.fraction.map fun ds => 46 :: digitText ds).getD []

def exponentText (d : Decimal) : Text := (d.exponent.map Exponent.text).getD []

def unsignedText (d : Decimal) : Text :=
  digitText d.whole ++ (d.fractionText ++ d.exponentText)

def text (d : Decimal) : Text := d.sign.text ++ d.unsignedText

def unsignedValue (d : Decimal) : ℚ :=
  (digitsValue (d.whole ++ d.frac) : ℚ) / 10 ^ d.frac.length *
    10 ^ (d.exponent.map Exponent.value).getD 0

def value (d : Decimal) : ℚ := d.sign.factor * d.unsignedValue

end Decimal

namespace Numeral

theorem digitVal_digitByte (d : Fin 10) : digitVal 10 (digitByte d) = some d.val := by
  revert d
  decide

theorem isDigit_digitByte (d : Fin 10) : isDigit 10 (digitByte d) = true := by
  rw [isDigit, digitVal_digitByte]
  rfl

theorem digitByte_ne_sign (d : Fin 10) : digitByte d ≠ 45 ∧ digitByte d ≠ 43 := by
  revert d
  decide

theorem natOf_append (ds : List (Fin 10)) (d : Fin 10) :
    natOf 10 (digitText (ds ++ [d])) = natOf 10 (digitText ds) * 10 + d.val := by
  simp [natOf, digitText, digitVal_digitByte]

theorem natOf_digitText (ds : List (Fin 10)) : natOf 10 (digitText ds) = digitsValue ds := by
  induction ds using List.reverseRecOn with
  | nil => rfl
  | append_singleton ds d ih =>
    rw [natOf_append, ih]
    simp [digitsValue, Nat.ofDigits_cons]
    ring

theorem digitText_append (ds es : List (Fin 10)) :
    digitText (ds ++ es) = digitText ds ++ digitText es := List.map_append

theorem length_digitText (ds : List (Fin 10)) : (digitText ds).length = ds.length :=
  List.length_map _

/-- The text begins with a byte that is not a digit, if it begins at all. -/
def NoDigit (rest : Text) : Prop := ∀ b ∈ rest.head?, isDigit 10 b = false

theorem digits_takeWhile (ds : List (Fin 10)) {rest : Text} (h : NoDigit rest) :
    (digitText ds ++ rest).takeWhile (isDigit 10) = digitText ds ∧
      (digitText ds ++ rest).dropWhile (isDigit 10) = rest := by
  have hall : ∀ b ∈ digitText ds, isDigit 10 b = true := by
    intro b hb
    obtain ⟨d, -, rfl⟩ := List.mem_map.mp hb
    exact isDigit_digitByte d
  rw [List.takeWhile_append_of_pos hall, List.dropWhile_append_of_pos hall]
  cases rest with
  | nil => simp
  | cons b rest =>
    have hb : isDigit 10 b = false := h b rfl
    simp [hb]

theorem fractionText_cases (d : Decimal) :
    d.frac = [] ∧ d.fractionText = [] ∨ d.fractionText = 46 :: digitText d.frac := by
  unfold Decimal.frac Decimal.fractionText
  cases d.fraction with
  | none => exact Or.inl ⟨rfl, rfl⟩
  | some ds => exact Or.inr rfl

theorem noDigit_exponentText (d : Decimal) : NoDigit d.exponentText := by
  intro b hb
  cases he : d.exponent with
  | none => simp [Decimal.exponentText, he] at hb
  | some e =>
    have hb : (if e.upper then 69 else 101) = b := by
      simpa [Decimal.exponentText, he, Exponent.text] using hb
    rw [← hb]
    cases e.upper <;> decide

theorem exponentText_ne_point (d : Decimal) (r : Text) : d.exponentText ≠ 46 :: r := by
  unfold Decimal.exponentText
  cases d.exponent with
  | none => simp
  | some e =>
    intro h
    have hb : (if e.upper then 69 else 101) = (46 : UInt8) := (List.cons.inj h).1
    revert hb
    cases e.upper <;> decide

theorem exponent_text (e : Exponent) : exponent 101 e.text = e.value := by
  have hmark : lower (if e.upper then 69 else 101) = 101 := by cases e.upper <;> decide
  obtain ⟨d, ds, hds⟩ := List.exists_cons_of_ne_nil e.digits_ne
  have htake : (digitText e.digits).takeWhile (isDigit 10) = digitText e.digits := by
    have hnil : NoDigit [] := by simp [NoDigit]
    simpa using (digits_takeWhile e.digits hnil).1
  obtain ⟨hminus, hplus⟩ := digitByte_ne_sign d
  simp only [Exponent.text, exponent, if_pos hmark, Exponent.value]
  cases e.sign with
  | none =>
    have hform : digitText e.digits = digitByte d :: digitText ds := by rw [hds]; rfl
    simp only [Sign.text, Sign.factor, List.nil_append, hform, if_neg hminus, if_neg hplus]
    rw [← hform, htake, natOf_digitText, one_mul]
  | plus =>
    simp only [Sign.text, Sign.factor, List.cons_append, List.nil_append, htake, natOf_digitText,
      if_true, one_mul]
    rfl
  | minus =>
    simp only [Sign.text, Sign.factor, List.cons_append, List.nil_append, htake, natOf_digitText,
      if_true, neg_mul, one_mul]

theorem exponent_exponentText (d : Decimal) :
    exponent 101 d.exponentText = (d.exponent.map Exponent.value).getD 0 := by
  unfold Decimal.exponentText
  cases d.exponent with
  | none => rfl
  | some e => exact exponent_text e

theorem scaled_zpow (m : ℚ) (base : ℕ) (e : ℤ) : scaled m base e = m * (base : ℚ) ^ e := by
  unfold scaled
  split_ifs with he
  · rw [Nat.cast_pow, ← zpow_natCast, Int.toNat_of_nonneg he]
  · have hneg : ((-e).toNat : ℤ) = -e := Int.toNat_of_nonneg (by omega)
    rw [Nat.cast_pow, ← zpow_natCast, hneg, zpow_neg, div_inv_eq_mul]

theorem positional_unsignedText (d : Decimal) :
    positional 10 101 10 d.unsignedText = some d.unsignedValue := by
  have hexp := digits_takeWhile d.frac (noDigit_exponentText d)
  have hvalue : scaled (natOf 10 (digitText d.whole ++ digitText d.frac) /
      (10 ^ (digitText d.frac).length : ℕ)) 10 (exponent 101 d.exponentText) =
      d.unsignedValue := by
    rw [scaled_zpow, exponent_exponentText, ← digitText_append, natOf_digitText,
      Decimal.unsignedValue, length_digitText]
    norm_num
  have hsome : ¬ (digitText d.whole = [] ∧ digitText d.frac = []) := by
    rw [← List.append_eq_nil_iff, ← digitText_append]
    have hne : d.whole ++ d.frac ≠ [] := d.digits_ne
    simpa [digitText] using hne
  have hrest : NoDigit (d.fractionText ++ d.exponentText) := by
    rcases fractionText_cases d with ⟨-, htext⟩ | htext
    · rw [htext]
      exact noDigit_exponentText d
    · rw [htext]
      rintro b ⟨⟩
      decide
  obtain ⟨htake, hdrop⟩ := digits_takeWhile d.whole hrest
  simp only [positional, Decimal.unsignedText, htake, hdrop]
  rcases fractionText_cases d with ⟨hfrac, htext⟩ | htext
  · rw [hfrac] at hsome hvalue
    simp only [htext, List.nil_append]
    split
    · next r hr => exact absurd hr (exponentText_ne_point d r)
    · exact (if_neg hsome).trans (congrArg some hvalue)
  · simp only [htext, List.cons_append, hexp.1, hexp.2, if_neg hsome, hvalue]

def isDecimalByte (b : UInt8) : Bool :=
  (48 ≤ b && b ≤ 57) || b == 46 || b == 101 || b == 69 || b == 43 || b == 45

theorem isDecimalByte_digitByte (d : Fin 10) : isDecimalByte (digitByte d) = true := by
  revert d
  decide

theorem digitText_bytes (ds : List (Fin 10)) : ∀ b ∈ digitText ds, isDecimalByte b = true := by
  intro b hb
  obtain ⟨d, -, rfl⟩ := List.mem_map.mp hb
  exact isDecimalByte_digitByte d

theorem sign_bytes (s : Sign) : ∀ b ∈ s.text, isDecimalByte b = true := by
  cases s <;> simp [Sign.text, isDecimalByte]

theorem unsignedText_bytes (d : Decimal) : ∀ b ∈ d.unsignedText, isDecimalByte b = true := by
  have hexp : ∀ b ∈ d.exponentText, isDecimalByte b = true := by
    unfold Decimal.exponentText
    cases d.exponent with
    | none => simp
    | some e =>
      have hmark : isDecimalByte (if e.upper then 69 else 101) = true := by
        cases e.upper <;> decide
      exact List.forall_mem_cons.mpr ⟨hmark, List.forall_mem_append.mpr
        ⟨sign_bytes e.sign, digitText_bytes e.digits⟩⟩
  have hfrac : ∀ b ∈ d.fractionText, isDecimalByte b = true := by
    rcases fractionText_cases d with ⟨-, htext⟩ | htext
    · simp [htext]
    · rw [htext]
      exact List.forall_mem_cons.mpr ⟨by decide, digitText_bytes d.frac⟩
  exact List.forall_mem_append.mpr
    ⟨digitText_bytes d.whole, List.forall_mem_append.mpr ⟨hfrac, hexp⟩⟩

theorem text_bytes (d : Decimal) : ∀ b ∈ d.text, isDecimalByte b = true :=
  List.forall_mem_append.mpr ⟨sign_bytes d.sign, unsignedText_bytes d⟩

theorem isNumeralByte_of_isDecimalByte {b : UInt8} (hb : isDecimalByte b = true) :
    isNumeralByte b = true := by
  revert b
  decide +kernel

theorem not_isSpace_of_isDecimalByte {b : UInt8} (hb : isDecimalByte b = true) :
    isSpace b = false := by
  revert b
  decide +kernel

/-- No letter of `inf`, `nan` or `0x` but the `0` occurs in a decimal number. -/
theorem lower_isDecimalByte {b : UInt8} (hb : isDecimalByte b = true) :
    lower b ≠ 105 ∧ lower b ≠ 110 ∧ lower b ≠ 120 := by
  revert b
  decide +kernel

theorem unsigned_unsignedText (d : Decimal) :
    unsigned d.unsignedText = fin d.unsignedValue := by
  have hprefix : ∀ (pat : Text) (c : UInt8), c ∈ pat → (∀ b, isDecimalByte b = true → lower b ≠ c) →
      pat.isPrefixOf (d.unsignedText.map lower) = false := by
    intro pat c hc hlower
    by_contra hp
    have hp : pat <+: d.unsignedText.map lower := by simpa using hp
    obtain ⟨b, hb, hbc⟩ := List.mem_map.mp (hp.subset hc)
    exact hlower b (unsignedText_bytes d b hb) hbc
  have hinf := hprefix (txt "inf") 105 (by decide +kernel) fun b hb => (lower_isDecimalByte hb).1
  have hnan := hprefix (txt "nan") 110 (by decide +kernel) fun b hb => (lower_isDecimalByte hb).2.1
  have hhex := hprefix (txt "0x") 120 (by decide +kernel) fun b hb => (lower_isDecimalByte hb).2.2
  simp [unsigned, hinf, hnan, hhex, positional_unsignedText]

theorem unsignedText_head (d : Decimal) :
    ∃ b r, d.unsignedText = b :: r ∧ b ≠ 45 ∧ b ≠ 43 := by
  cases hw : d.whole with
  | cons c ds =>
    obtain ⟨hminus, hplus⟩ := digitByte_ne_sign c
    exact ⟨digitByte c, _, by rw [Decimal.unsignedText, hw]; rfl, hminus, hplus⟩
  | nil =>
    rcases fractionText_cases d with ⟨hfrac, -⟩ | htext
    · have hne : d.whole ++ d.frac ≠ [] := d.digits_ne
      simp [hw, hfrac] at hne
    · exact ⟨46, _, by rw [Decimal.unsignedText, hw, htext]; rfl, by decide, by decide⟩

/-- A decimal number is read as its value. -/
theorem strtod_text (d : Decimal) : strtod d.text = fin d.value := by
  have hspace : d.text.dropWhile isSpace = d.text := by
    obtain ⟨b, r, hbody, -⟩ := unsignedText_head d
    have hne : d.text ≠ [] := by simp [Decimal.text, hbody]
    obtain ⟨c, t, ht⟩ := List.exists_cons_of_ne_nil hne
    have hc := not_isSpace_of_isDecimalByte (text_bytes d c (by simp [ht]))
    rw [ht, List.dropWhile_cons_of_neg (by simp [hc])]
  have hnumeral : d.text.takeWhile isNumeralByte = d.text :=
    List.takeWhile_eq_self_iff.mpr fun b hb => isNumeralByte_of_isDecimalByte (text_bytes d b hb)
  rw [strtod, hspace, hnumeral, Decimal.text, Decimal.value]
  cases d.sign with
  | none =>
    obtain ⟨b, r, hbody, hminus, hplus⟩ := unsignedText_head d
    have hu := unsigned_unsignedText d
    simp only [Sign.text, List.nil_append, Sign.factor, hbody, Int.cast_one, one_mul] at hu ⊢
    split
    · next h => exact absurd (List.cons.inj h).1 hminus
    · next h => exact absurd (List.cons.inj h).1 hplus
    · exact hu
  | plus =>
    simp [Sign.text, Sign.factor, unsigned_unsignedText]
  | minus =>
    simp [Sign.text, Sign.factor, unsigned_unsignedText, neg]

end Numeral

end IotPlatform
