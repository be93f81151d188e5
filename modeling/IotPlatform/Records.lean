import IotPlatform.NumericCommands
import IotPlatform.Printed
import IotPlatform.Single

/-!
# Records as text

A formatter prints a record of named numbers and strings as a flat JSON object. When no string is
one of the names, the member helpers find every value of the record in that text again.
-/
namespace IotPlatform
open CText CFloat KeySearch FlatJson

/-- What `%.nf` prints consists of the bytes of numbers, as it does of every `float`. -/
class CFloat.Prints (F : Type) [CFloat F] : Prop where
  fmt_scalar : ∀ (n : ℕ) (x : F), fmt n x ≠ [] ∧ ∀ b ∈ fmt n x, isScalarByte b = true

theorem fmtFixed_scalar (n : ℕ) (q : ℚ) :
    fmtFixed n q ≠ [] ∧ ∀ b ∈ fmtFixed n q, isScalarByte b = true := by
  obtain ⟨d, htext, -⟩ := fmtFixed_decimal n q
  exact htext ▸ d.text_scalar

theorem decInt_scalar (z : ℤ) : decInt z ≠ [] ∧ ∀ b ∈ decInt z, isScalarByte b = true := by
  obtain ⟨d, htext, -⟩ := decInt_decimal z
  exact htext ▸ d.text_scalar

instance CFloat.prints_rat : CFloat.Prints ℚ := ⟨fmtFixed_scalar⟩

/-- `inf` and `nan` are printed as letters, which are bytes of scalars too. -/
instance CFloat.prints_single (oor : Numeral → Int32) : CFloat.Prints (Single oor) where
  fmt_scalar n x := by
    have hword : ∀ t ∈ [txt "-inf", txt "inf", txt "nan"],
        t ≠ [] ∧ ∀ b ∈ t, isScalarByte b = true := by decide +kernel
    obtain ⟨val, fits⟩ := x
    cases val with
    | fin q => exact fmtFixed_scalar n q
    | inf negative => cases negative <;> exact hword _ (by simp [fmt])
    | nan => exact hword _ (by simp [fmt])

/-- A value with the conversion that prints it: `%.nf`, an integer, or `%s` between quotes. -/
inductive Printed (F : Type)
  | num (digits : ℕ) (x : F)
  | int (z : ℤ)
  | str (t : Text)

abbrev Record (F : Type) := List (Text × Printed F)

namespace Printed
variable {F : Type}

/-- A flag, printed as `1` or `0`. -/
def bool (b : Bool) : Printed F := .int (if b then 1 else 0)

/-- The string, when it is one. -/
def string : Printed F → Option Text
  | str t => some t
  | num _ _ | int _ => none

def text [CFloat F] : Printed F → Text
  | num n x => fmt n x
  | int z => decInt z
  | str t => quoted t

def value [CFloat F] [CFloat.Prints F] : Printed F → Value
  | num n x => .scalar ⟨fmt n x, CFloat.Prints.fmt_scalar n x⟩
  | int z => .scalar ⟨decInt z, decInt_scalar z⟩
  | str t => .str (plainString t)

/-- The text gives this value under a key: the string, or the numeral that was printed. -/
def ReadUnder [CFloat F] (t key : Text) : Printed F → Prop
  | num n x => iotUcJsonNum t key = some (Numeral.strtod (fmt n x))
  | int z => iotUcJsonNum t key = some (.fin z)
  | str w => ∀ cap, iotUcJsonStr t key cap = some (w.take (cap - 1))

end Printed

namespace Record
variable {F : Type} [CFloat F]

def entry (e : Text × Printed F) : Text := quoted e.1 ++ colon :: e.2.text

def body : Record F → Text
  | [] => []
  | e :: r => entry e ++ r.flatMap fun e => comma :: entry e

def text (r : Record F) : Text := 123 :: (r.body ++ [125])

/-- The names are distinct words that fit the helpers' pattern, the strings need no escape, and
none of them is a name. -/
structure Sound (r : Record F) : Prop where
  keys : ∀ e ∈ r, IsWord e.1 ∧ e.1.length ≤ 45
  distinct : (r.map Prod.fst).Nodup
  strings : ∀ e ∈ r, ∀ t, e.2 = .str t →
    (∀ b ∈ t, 32 ≤ b ∧ b ≠ quote ∧ b ≠ backslash) ∧ t ∉ r.map Prod.fst

/-- The strings of a record. -/
def texts (r : Record F) : List Text := r.filterMap fun e => e.2.string

omit [CFloat F] in
/-- A record is sound when its names and its strings are, as lists of texts. -/
theorem sound_of {r : Record F} {names texts : List Text} (hnames : r.map Prod.fst = names)
    (htexts : r.texts = texts) (hkeys : ∀ k ∈ names, IsWord k ∧ k.length ≤ 45)
    (hdistinct : names.Nodup)
    (hplain : ∀ t ∈ texts, (∀ b ∈ t, 32 ≤ b ∧ b ≠ quote ∧ b ≠ backslash) ∧ t ∉ names) :
    r.Sound where
  keys _ he := hkeys _ (hnames ▸ List.mem_map_of_mem he)
  distinct := hnames ▸ hdistinct
  strings e he t ht := by
    have hmem : t ∈ r.texts := List.mem_filterMap.mpr ⟨e, he, by rw [ht]; rfl⟩
    exact hnames ▸ hplain t (htexts ▸ hmem)

variable [CFloat.Prints F]

def member (e : Text × Printed F) : Member := tight e.1 e.2.value

def members (r : Record F) : List Member := r.map member

end Record

theorem wordByte_plain {b : UInt8} (hb : isWordByte b = true) :
    32 ≤ b ∧ b ≠ quote ∧ b ≠ backslash := by
  revert b
  decide +kernel

theorem FlatJson.IsWord.plain {key : Text} (h : IsWord key) :
    ∀ b ∈ key, 32 ≤ b ∧ b ≠ quote ∧ b ≠ backslash :=
  fun b hb => wordByte_plain (h.2 b hb)

namespace Record.Sound
variable {F : Type} [CFloat F] [CFloat.Prints F] {r : Record F} (h : r.Sound)
include h

theorem raw_key {e : Text × Printed F} (he : e ∈ r) : raw (member e).key = e.1 :=
  raw_plainString (h.keys e he).1.plain

theorem name_key {e : Text × Printed F} (he : e ∈ r) : (member e).name = e.1 :=
  decode_plainString (h.keys e he).1.plain

theorem names : r.members.map Member.name = r.map Prod.fst := by
  rw [members, List.map_map]
  exact List.map_congr_left fun e he => h.name_key he

theorem members_distinct : (r.members.map Member.name).Nodup := by
  rw [h.names]
  exact h.distinct

theorem render_member {e : Text × Printed F} (he : e ∈ r) : (member e).render = entry e := by
  have hkey := raw_plainString (h.keys e he).1.plain
  have hvalue : e.2.value.render = e.2.text := by
    cases hp : e.2 with
    | num n x => rfl
    | int z => rfl
    | str t =>
      simp [Printed.value, Value.render, quotedRaw, Printed.text, quoted,
        raw_plainString (h.strings e he t hp).1]
  simp [member, tight, Member.render, Member.field, noBlanks, quotedRaw, hkey, hvalue, entry,
    quoted]

theorem object_render : (tightObject r.members h.members_distinct).render = r.text := by
  have hrest : ∀ l : Record F, l ⊆ r →
      renderRest (l.map member) = l.flatMap fun e => comma :: entry e := by
    intro l hl
    rw [renderRest, List.flatMap_map]
    exact List.flatMap_congr fun e he => by rw [h.render_member (hl he)]
  have hbody : renderMembers r.members = r.body := by
    cases hr : r with
    | nil => rfl
    | cons e l =>
      have he : e ∈ r := hr ▸ List.mem_cons_self
      have hl : l ⊆ r := hr ▸ List.subset_cons_self e l
      simp only [members, List.map_cons, renderMembers, body, h.render_member he, hrest l hl]
  simp [Object.render, tightObject, Object.close, noBlanks, hbody, text]

theorem clean {key : Text} (hkey : key ∈ r.map Prod.fst) :
    Clean key (tightObject r.members h.members_distinct) := by
  intro m hm hs
  obtain ⟨e, he, rfl⟩ := List.mem_map.mp hm
  have hquote : ∀ t : Text, (∀ b ∈ t, 32 ≤ b ∧ b ≠ quote ∧ b ≠ backslash) →
      quote ∉ raw (plainString t) := by
    intro t ht
    rw [raw_plainString ht]
    exact fun hb => (ht quote hb).2.1 rfl
  rcases hs with hs | hs
  · exact (spells_iff (hquote e.1 (h.keys e he).1.plain)).mp hs
  · -- a string of the record is not one of its names
    cases hp : e.2 with
    | num n x => simp [member, tight, Printed.value, hp, Value.Spells] at hs
    | int z => simp [member, tight, Printed.value, hp, Value.Spells] at hs
    | str t =>
      obtain ⟨hplain, hname⟩ := h.strings e he t hp
      have hs : FlatJson.Spells key (plainString t) := by
        simpa [member, tight, Printed.value, hp, Value.Spells] using hs
      rw [spells_iff (hquote t hplain), raw_plainString hplain] at hs
      exact absurd (hs ▸ hkey) hname

theorem field {e : Text × Printed F} (he : e ∈ r) : ∃ b t, isScalarByte b = false ∧
    fieldAfter 48 r.text e.1 = some ((member e).field ++ b :: t) := by
  obtain ⟨hword, hlen⟩ := h.keys e he
  have hkey : e.1 ∈ r.map Prod.fst := List.mem_map_of_mem he
  rw [← h.object_render]
  exact fieldAfter_of_mem hword (h.clean hkey) (by omega) (List.mem_map_of_mem he) (h.raw_key he)

/-- The helpers find every value of the record under its name. -/
theorem readUnder {e : Text × Printed F} (he : e ∈ r) : e.2.ReadUnder r.text e.1 := by
  obtain ⟨b, t, hb, hfield⟩ := h.field he
  have hnum : iotUcJsonNum r.text e.1 = some (numberRead (member e)) := by
    rw [iotUcJsonNum, hfield, Option.map_some, strtod_field (member e) hb]
  cases hp : e.2 with
  | num n x =>
    rw [Printed.ReadUnder, hnum]
    simp [numberRead, member, tight, Printed.value, hp]
  | int z =>
    rw [Printed.ReadUnder, hnum]
    simp [numberRead, member, tight, Printed.value, hp, strtod_decInt]
  | str w =>
    intro cap
    obtain ⟨hplain, -⟩ := h.strings e he w hp
    have hall : ∀ c ∈ w, (c != quote) = true := fun c hc => by simpa using (hplain c hc).2.1
    have hread : stringRead ucBlank (member e) = some w := by
      simp [stringRead, member, tight, noBlanks, Printed.value, hp, raw_plainString hplain,
        List.takeWhile_eq_self_iff.mpr hall]
    rw [iotUcJsonStr, fieldText, hfield, Option.bind_some,
      quotedValue_field ucBlank_quote ucBlank_scalar, hread]
    rfl

theorem noNul : (0 : UInt8) ∉ r.text := h.object_render ▸ Object.zero_notMem _

end Record.Sound

/-- The text is a flat JSON object with the names of the record, where `nan` and `inf` stand for
themselves, and the helpers find in it the strings and the numerals that were printed: an integer is
there as it is. -/
structure Decodes {F : Type} [CFloat F] (t : Text) (r : Record F) : Prop where
  flat : ∃ o : Object, o.render = t ∧ o.members.map Member.name = r.map Prod.fst
  read : ∀ e ∈ r, e.2.ReadUnder t e.1

theorem Record.Sound.decodes {F : Type} [CFloat F] [CFloat.Prints F] {r : Record F} (h : r.Sound) :
    Decodes r.text r where
  flat := ⟨_, h.object_render, h.names⟩
  read _ he := h.readUnder he

/-- Room for a printed value: for an integer of 32 bits, or a number of 20 digits and a sign before
the point. -/
def Printed.width {F : Type} : Printed F → ℕ
  | num n _ => n + 23
  | int _ => 11
  | str t => t.length + 2

def Record.width {F : Type} (r : Record F) : ℕ :=
  (r.map fun e => e.1.length + e.2.width + 4).sum + 2

/-- An integer has 32 bits. -/
def Printed.Word {F : Type} : Printed F → Prop
  | num _ _ | str _ => True
  | int z => z.natAbs < 2 ^ 32

/-- A number takes that room at most when it is printed. -/
def Printed.Modest {F : Type} [CFloat F] : Printed F → Prop
  | num n x => (fmt n x).length ≤ n + 23
  | int _ | str _ => True

/-- In exact arithmetic every number below 10^20 does. -/
theorem Printed.modest_rat {n : ℕ} {x : ℚ} (h : |x| < 10 ^ 20) : (Printed.num n x).Modest :=
  length_fmtFixed_le h

def Record.Words {F : Type} (r : Record F) : Prop := ∀ e ∈ r, e.2.Word

def Record.Modest {F : Type} [CFloat F] (r : Record F) : Prop := ∀ e ∈ r, e.2.Modest

section
variable {F : Type}

@[simp] theorem Printed.word_num (n : ℕ) (x : F) : (num n x).Word := trivial

@[simp] theorem Printed.word_str (t : Text) : (str t : Printed F).Word := trivial

@[simp] theorem Printed.word_u32 (n : UInt32) : (int n.toNat : Printed F).Word := by
  have := n.toNat_lt
  simpa [Word] using this

@[simp] theorem Printed.word_i32 (n : Int32) : (int n.toInt : Printed F).Word := by
  have hlow := n.le_toInt
  have hhigh := n.toInt_lt
  simp only [Word]
  omega

@[simp] theorem Printed.word_bool (b : Bool) : (bool b : Printed F).Word := by
  cases b <;> simp [bool, Word]

end

theorem Record.length_text_le {F : Type} [CFloat F] {r : Record F} (hint : r.Words)
    (hnum : r.Modest) : r.text.length ≤ r.width := by
  have hentry : ∀ e ∈ r, (entry e).length + 1 ≤ e.1.length + e.2.width + 4 := by
    rintro ⟨key, p⟩ he
    have hvalue : p.text.length ≤ p.width := by
      cases p with
      | num n x => exact hnum _ he
      | int z =>
        have hz : z.natAbs < 10 ^ 10 := lt_trans (hint _ he) (by decide)
        exact length_decInt_le (by decide) hz
      | str t => simp [Printed.text, Printed.width, quoted]
    simp only [entry, quoted, List.length_append, List.length_cons, List.length_nil]
    omega
  have hrest : ∀ l : Record F, l ⊆ r → (l.flatMap fun e => comma :: entry e).length ≤
      (l.map fun e => e.1.length + e.2.width + 4).sum := by
    intro l hl
    rw [List.length_flatMap]
    refine List.sum_le_sum fun e he => ?_
    simpa using hentry e (hl he)
  cases hr : r with
  | nil => simp [text, body, width]
  | cons e l =>
    have he := hentry e (hr ▸ List.mem_cons_self)
    have hl := hrest l (hr ▸ List.subset_cons_self e l)
    simp only [text, body, width, List.length_cons, List.length_append, List.length_nil,
      List.map_cons, List.sum_cons]
    omega

/-- A sound record whose widest text fits a buffer of `cap` bytes. -/
structure Record.Fits {F : Type} [CFloat F] (r : Record F) (cap : ℕ) : Prop where
  sound : r.Sound
  words : r.Words
  width : r.width < cap

section
variable {F : Type} [CFloat F] {r : Record F} {cap : ℕ}

theorem Record.Fits.length_lt (h : r.Fits cap) (hnum : r.Modest) : r.text.length < cap :=
  (Record.length_text_le h.words hnum).trans_lt h.width

/-- A record that fits its buffer is decoded from it. -/
theorem Record.Fits.decodes [CFloat.Prints F] (h : r.Fits cap) (hlen : r.text.length < cap) :
    Decodes (snprintf cap r.text) r := by
  have hwhole : snprintf cap r.text = r.text := List.take_of_length_le (by omega)
  rw [hwhole]
  exact h.sound.decodes

end

end IotPlatform
