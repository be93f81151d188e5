import IotPlatform.CText

/-!
# Floating-point values behind an interface

`CFloat F` lists what C code does with a `float`: literals, arithmetic, comparison, text in both
directions, and the cast to `int32_t`. Code is written over every `F`. The instance at `ℚ` is
exact arithmetic, with `nan` and infinities outside its range.
-/
namespace IotPlatform
open CText

/-- The value of a numeral text before it is rounded to a format. -/
inductive Numeral
  | fin (q : ℚ)
  | inf (negative : Bool)
  | nan
  deriving DecidableEq

namespace Numeral

def neg : Numeral → Numeral
  | fin q => fin (-q)
  | inf b => inf !b
  | nan => nan

def isSpace (b : UInt8) : Bool := b == 32 || (9 ≤ b && b ≤ 13)

/-- The bytes a numeral can consist of; the first other byte ends it. -/
def isNumeralByte (b : UInt8) : Bool :=
  (48 ≤ b && b ≤ 57) || (97 ≤ b && b ≤ 122) || (65 ≤ b && b ≤ 90) ||
    b == 43 || b == 45 || b == 46

def lower (b : UInt8) : UInt8 := if 65 ≤ b && b ≤ 90 then b + 32 else b

def digitVal (base : ℕ) (b : UInt8) : Option ℕ :=
  let n := (lower b).toNat
  let v := if 48 ≤ n ∧ n ≤ 57 then n - 48 else if 97 ≤ n then n - 87 else base
  if v < base then some v else none

def isDigit (base : ℕ) (b : UInt8) : Bool := (digitVal base b).isSome

def natOf (base : ℕ) (ds : Text) : ℕ :=
  ds.foldl (fun n b => n * base + (digitVal base b).getD 0) 0

/-- An optional exponent part introduced by `mark`; without digits it is not one. -/
def exponent (mark : UInt8) (s : Text) : ℤ :=
  match s with
  | [] => 0
  | m :: r =>
    if lower m = mark then
      match r with
      | [] => 0
      | b :: ds =>
        if b = 45 then -(natOf 10 (ds.takeWhile (isDigit 10)) : ℤ)
        else if b = 43 then natOf 10 (ds.takeWhile (isDigit 10))
        else natOf 10 ((b :: ds).takeWhile (isDigit 10))
    else 0

def scaled (m : ℚ) (base : ℕ) (e : ℤ) : ℚ :=
  if 0 ≤ e then m * (base ^ e.toNat : ℕ) else m / (base ^ (-e).toNat : ℕ)

/-- Digits with an optional fraction and exponent; none when there is no digit. -/
def positional (base : ℕ) (mark : UInt8) (expBase : ℕ) (s : Text) : Option ℚ :=
  let whole := s.takeWhile (isDigit base)
  let rest := s.dropWhile (isDigit base)
  let (frac, tail) := match rest with
    | 46 :: r => (r.takeWhile (isDigit base), r.dropWhile (isDigit base))
    | r => ([], r)
  if whole = [] ∧ frac = [] then none
  else some (scaled (natOf base (whole ++ frac) / (base ^ frac.length : ℕ)) expBase
    (exponent mark tail))

def unsigned (s : Text) : Numeral :=
  let l := s.map lower
  if (txt "inf").isPrefixOf l then inf false
  else if (txt "nan").isPrefixOf l then nan
  else
    let hex := if (txt "0x").isPrefixOf l then positional 16 112 2 (s.drop 2) else none
    fin ((hex.orElse fun _ => positional 10 101 10 s).getD 0)

/-- `strtod`: blanks, a sign, then decimal, hexadecimal, `inf` or `nan`; zero when none fits. -/
def strtod (t : Text) : Numeral :=
  match (t.dropWhile isSpace).takeWhile isNumeralByte with
  | 45 :: s => (unsigned s).neg
  | 43 :: s => unsigned s
  | s => unsigned s

end Numeral

def decNat (n : ℕ) : Text := (Nat.toDigits 10 n).map fun c => UInt8.ofNat c.toNat

def decInt (z : ℤ) : Text := if z < 0 then 45 :: decNat z.natAbs else decNat z.natAbs

/-- The multiple of `1 / 10 ^ n` nearest to a nonnegative rational, ties to even, times `10 ^ n`. -/
def roundScaled (n : ℕ) (q : ℚ) : ℕ :=
  let s := q * (10 ^ n : ℕ)
  let k := s.num.toNat / s.den
  let r := s.num.toNat % s.den
  if 2 * r < s.den then k else if s.den < 2 * r then k + 1 else k + k % 2

def fmtFixed (n : ℕ) (q : ℚ) : Text :=
  let k := roundScaled n |q|
  let frac := (List.range n).map fun i => UInt8.ofNat (48 + k / 10 ^ (n - 1 - i) % 10)
  (if q < 0 then [45] else []) ++ decNat (k / 10 ^ n) ++ (if n = 0 then [] else 46 :: frac)

class CFloat (F : Type) extends Add F, Sub F, Mul F, Div F, LT F, LE F where
  ltb : F → F → Bool
  leb : F → F → Bool
  ltb_iff : ∀ a b, ltb a b = true ↔ a < b
  leb_iff : ∀ a b, leb a b = true ↔ a ≤ b
  /-- A literal, or the conversion of an integer. -/
  flit : ℚ → F
  fabs : F → F
  /-- `(float)` of the `double` that `atof` returns. -/
  ofNumeral : Numeral → F
  toInt32 : F → Int32
  fmt : ℕ → F → Text

instance (priority := low) CFloat.decidableLt {F : Type} [CFloat F] :
    DecidableRel (α := F) (· < ·) :=
  fun a b => decidable_of_iff _ (CFloat.ltb_iff a b)

instance (priority := low) CFloat.decidableLe {F : Type} [CFloat F] :
    DecidableRel (α := F) (· ≤ ·) :=
  fun a b => decidable_of_iff _ (CFloat.leb_iff a b)

/-- Truncation toward zero. Out of range the cast is undefined in C; here it saturates. -/
def truncInt32 (q : ℚ) : Int32 :=
  Int32.ofInt (max (-2 ^ 31) (min (2 ^ 31 - 1) (q.num.tdiv q.den)))

instance : CFloat ℚ where
  ltb a b := decide (a < b)
  leb a b := decide (a ≤ b)
  ltb_iff _ _ := decide_eq_true_iff
  leb_iff _ _ := decide_eq_true_iff
  flit q := q
  fabs q := |q|
  ofNumeral
    | .fin q => q
    | _ => 0
  toInt32 := truncInt32
  fmt := fmtFixed

/-- Laws of comparison that hold of floating-point numbers too, where `nan` is neither above nor
below anything. -/
class CFloat.Lawful (F : Type) [CFloat F] : Prop where
  not_lt_of_le : ∀ {a b : F}, a ≤ b → ¬ b < a
  flit_le : ∀ {p q : ℚ}, p ≤ q → (CFloat.flit p : F) ≤ CFloat.flit q

instance : CFloat.Lawful ℚ where
  not_lt_of_le := not_lt_of_ge
  flit_le := id

namespace Numeral

def ltb : Numeral → Numeral → Bool
  | fin a, fin b => decide (a < b)
  | fin _, inf n => !n
  | inf n, fin _ => n
  | inf m, inf n => m && !n
  | _, _ => false

def leb : Numeral → Numeral → Bool
  | fin a, fin b => decide (a ≤ b)
  | fin _, inf n => !n
  | inf n, fin _ => n
  | inf m, inf n => m || !n
  | _, _ => false

def add : Numeral → Numeral → Numeral
  | fin a, fin b => fin (a + b)
  | fin _, inf n => inf n
  | inf n, fin _ => inf n
  | inf m, inf n => if m = n then inf m else nan
  | _, _ => nan

/-- An infinity times a factor with the given sign. -/
def infTimes (negative : Bool) (a : ℚ) : Numeral :=
  if a = 0 then nan else inf (negative ^^ decide (a < 0))

def mul : Numeral → Numeral → Numeral
  | fin a, fin b => fin (a * b)
  | fin a, inf n => infTimes n a
  | inf n, fin a => infTimes n a
  | inf m, inf n => inf (m ^^ n)
  | _, _ => nan

/-- Zeros carry no sign here, so a quotient by zero takes the sign of the dividend. -/
def div : Numeral → Numeral → Numeral
  | fin a, fin b => if b = 0 then infTimes false a else fin (a / b)
  | fin _, inf _ => fin 0
  | inf n, fin b => inf (n ^^ decide (b < 0))
  | _, _ => nan

instance : CFloat Numeral where
  add := add
  sub a b := add a b.neg
  mul := mul
  div := div
  lt a b := ltb a b = true
  le a b := leb a b = true
  ltb := ltb
  leb := leb
  ltb_iff _ _ := Iff.rfl
  leb_iff _ _ := Iff.rfl
  flit := fin
  fabs
    | fin q => fin |q|
    | inf _ => inf false
    | nan => nan
  ofNumeral n := n
  toInt32
    | fin q => truncInt32 q
    | inf true => -2147483648
    | inf false => 2147483647
    | nan => 0
  fmt n
    | fin q => fmtFixed n q
    | inf true => txt "-inf"
    | inf false => txt "inf"
    | nan => txt "nan"

end Numeral

instance : CFloat.Lawful Numeral where
  not_lt_of_le {a b} h := by
    change Numeral.leb a b = true at h
    change ¬ Numeral.ltb b a = true
    cases a with
    | fin p => cases b <;> simp_all [Numeral.leb, Numeral.ltb]
    | inf m => cases b <;> cases m <;> simp_all [Numeral.leb, Numeral.ltb]
    | nan => simp [Numeral.leb] at h
  flit_le h := decide_eq_true h

@[simp] theorem flit_rat (q : ℚ) : (CFloat.flit q : ℚ) = q := rfl

theorem Numeral.strtod_congr {s t : Text}
    (h : (s.dropWhile isSpace).takeWhile isNumeralByte =
      (t.dropWhile isSpace).takeWhile isNumeralByte) : strtod s = strtod t := by
  rw [strtod, strtod, h]

theorem Numeral.strtod_append {t : Text}
    (h : ∃ b ∈ t.dropWhile isSpace, isNumeralByte b = false) (more : Text) :
    strtod (t ++ more) = strtod t := by
  obtain ⟨b, hb, hend⟩ := h
  have hne : (t.dropWhile isSpace).isEmpty = false := by
    cases hd : t.dropWhile isSpace with
    | nil => simp [hd] at hb
    | cons => rfl
  refine strtod_congr ?_
  rw [List.dropWhile_append, hne, if_neg Bool.false_ne_true, List.takeWhile_append]
  refine if_neg fun hlen => ?_
  have hall := List.takeWhile_eq_self_iff.mp
    ((List.takeWhile_prefix isNumeralByte).eq_of_length hlen) b hb
  simp [hend] at hall

example : Numeral.strtod (txt " -12.5e1,\"x\":3") = .fin (-125) := by decide +kernel

example : fmtFixed 1 (351 / 100) = txt "3.5" := by decide +kernel

end IotPlatform
