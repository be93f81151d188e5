import IotPlatform.CFloat
import IotPlatform.Significand

/-!
# `float` as a significand of 24 bits

Every result is rounded to 24 bits, and `atof` rounds to the 53 bits of a `double` before that. The
exponent is not bounded. Where C leaves the cast to `int32_t` undefined, it yields what `oor` says.
-/
namespace IotPlatform
open Significand

namespace Numeral

def Fits (p : ℕ) : Numeral → Prop
  | fin q => Significand.Fits p q
  | _ => True

def round (p : ℕ) : Numeral → Numeral
  | fin q => fin (roundTo p q)
  | x => x

theorem fits_round {p : ℕ} (hp : 0 < p) (x : Numeral) : (x.round p).Fits p := by
  cases x with
  | fin q => exact fits_roundTo hp q
  | inf b => trivial
  | nan => trivial

end Numeral

/-- `(int32_t)`, toward zero; out of range and for `nan` it is `oor`. -/
def castInt32 (oor : Numeral → Int32) : Numeral → Int32
  | .fin q =>
    if -2 ^ 31 ≤ q.num.tdiv q.den ∧ q.num.tdiv q.den < 2 ^ 31 then Int32.ofInt (q.num.tdiv q.den)
    else oor (.fin q)
  | x => oor x

structure Single (oor : Numeral → Int32) where
  val : Numeral
  fits : val.Fits 24

theorem single_bits : 0 < 24 := by decide

def Single.of (oor : Numeral → Int32) (x : Numeral) : Single oor :=
  ⟨x.round 24, x.fits_round single_bits⟩

instance (oor : Numeral → Int32) : CFloat (Single oor) where
  add a b := .of oor (a.val.add b.val)
  sub a b := .of oor (a.val.add b.val.neg)
  mul a b := .of oor (a.val.mul b.val)
  div a b := .of oor (a.val.div b.val)
  lt a b := a.val.ltb b.val = true
  le a b := a.val.leb b.val = true
  ltb a b := a.val.ltb b.val
  leb a b := a.val.leb b.val
  ltb_iff _ _ := Iff.rfl
  leb_iff _ _ := Iff.rfl
  flit q := .of oor (.fin q)
  fabs a := .of oor (CFloat.fabs a.val)
  ofNumeral x := .of oor (x.round 53)
  toInt32 a := castInt32 oor a.val
  fmt n a := CFloat.fmt n a.val

theorem castInt32_intCast (oor : Numeral → Int32) (z : ℤ) :
    castInt32 oor (.fin z) =
      if -2 ^ 31 ≤ z ∧ z < 2 ^ 31 then Int32.ofInt z else oor (.fin z) := by
  simp [castInt32]

/-- An `int32_t` is a `double`, so it is rounded once. -/
theorem Single.ofNumeral_int32 (oor : Numeral → Int32) (n : Int32) :
    (CFloat.ofNumeral (.fin n.toInt) : Single oor).val = .fin (roundTo 24 n.toInt) := by
  have habs : |n.toInt| < 2 ^ 53 := by
    have hlow := n.le_toInt
    have hhigh := n.toInt_lt
    rw [abs_lt]
    omega
  have hdouble : (Numeral.fin (n.toInt : ℚ)).round 53 = .fin n.toInt :=
    congrArg Numeral.fin (roundTo_of_fits (fits_of_abs_lt habs))
  change ((Numeral.fin (n.toInt : ℚ)).round 53).round 24 = _
  rw [hdouble]
  rfl

/-- Text to `float` to `int32_t` is exact, whatever an undefined cast yields, for the integers of 24
significant bits and for no others. -/
theorem Single.int32_exact_iff (n : Int32) :
    (∀ oor, CFloat.toInt32 (CFloat.ofNumeral (.fin n.toInt) : Single oor) = n) ↔
      Significand.Fits 24 n.toInt := by
  have hcast : ∀ oor, CFloat.toInt32 (CFloat.ofNumeral (.fin n.toInt) : Single oor) =
      castInt32 oor (.fin (roundTo 24 n.toInt)) :=
    fun oor => congrArg (castInt32 oor) (Single.ofNumeral_int32 oor n)
  simp only [hcast]
  rw [← roundTo_eq_self_iff single_bits]
  obtain ⟨z, hz⟩ := roundTo_intCast 24 n.toInt
  simp only [hz, castInt32_intCast, Int.cast_inj]
  constructor
  · intro h
    -- a cast that yields another value cannot have been undefined
    have hne : n + 1 ≠ n := by grind
    have hcast := h fun _ => n + 1
    split_ifs at hcast with hrange
    · rw [← hcast, Int32.toInt_ofInt_of_le hrange.1 hrange.2]
    · exact absurd hcast hne
  · rintro rfl oor
    rw [if_pos ⟨n.le_toInt, n.toInt_lt⟩, Int32.ofInt_toInt]

end IotPlatform
