import IotPlatform.FlatJson
import IotPlatform.Lookups

/-!
# What the firmware reads in a flat object

A key is clean in an object when only a member of that name can stop the search for it. Of a
clean key the firmware reads what the member alone determines, wherever the member stands.
-/
namespace IotPlatform
open CText CFloat KeySearch FlatJson

/-- Whichever member spells the key has it for its key. -/
def Clean (key : Text) (o : Object) : Prop := ∀ m ∈ o.members, m.Spells key → raw m.key = key

instance (key : Text) (o : Object) : Decidable (Clean key o) :=
  inferInstanceAs (Decidable (∀ m ∈ o.members, m.Spells key → raw m.key = key))

theorem decodeFrom_plain {s : JString} (hs : ∀ c ∈ s, ∃ b, c = .plain b) (prev : Option ℕ) :
    decodeFrom prev s = raw s := by
  induction s generalizing prev with
  | nil => rfl
  | cons c s ih =>
    obtain ⟨⟨b, rfl⟩, htail⟩ := List.forall_mem_cons.mp hs
    rw [decodeFrom, ih htail]
    rfl

theorem decode_plain {s : JString} (hs : ∀ c ∈ s, ∃ b, c = .plain b) : decode s = raw s :=
  decodeFrom_plain hs none

theorem plain_of_notMem {s : JString} (h : backslash ∉ raw s) : ∀ c ∈ s, ∃ b, c = .plain b := by
  intro c hc
  have hsub : backslash ∉ c.raw := fun hb => h (List.mem_flatMap.mpr ⟨c, hc, hb⟩)
  cases c with
  | plain b => exact ⟨b, rfl⟩
  | escape e => simp [JChar.raw] at hsub
  | unicode a b c d => simp [JChar.raw] at hsub

theorem decode_plainString {t : Text} (h : ∀ b ∈ t, 32 ≤ b ∧ b ≠ quote ∧ b ≠ backslash) :
    decode (plainString t) = t := by
  have hesc : backslash ∉ raw (plainString t) := by
    rw [raw_plainString h]
    exact fun hb => (h backslash hb).2.2 rfl
  rw [decode_plain (plain_of_notMem hesc), raw_plainString h]

theorem quote_notMem_plain {s : JString} (h : backslash ∉ raw s) : quote ∉ raw s := by
  intro hq
  obtain ⟨c, hc, hq⟩ := List.mem_flatMap.mp hq
  obtain ⟨b, rfl⟩ := plain_of_notMem h c hc
  exact b.2.2.1 (by simpa [JChar.raw, eq_comm] using hq)

theorem word_backslash {key : Text} (hkey : IsWord key) : backslash ∉ key :=
  fun h => absurd (hkey.2 backslash h) (by decide)

theorem name_of_raw {key : Text} (hkey : IsWord key) {m : Member} (h : raw m.key = key) :
    m.name = key := by
  have hb : backslash ∉ raw m.key := h ▸ word_backslash hkey
  rw [Member.name, decode_plain (plain_of_notMem hb), h]

section
variable {key : Text} (hkey : IsWord key) {o : Object} (hclean : Clean key o)
include hkey hclean

/-- The search reads the member that has a clean key, and a separator follows the member. -/
theorem fieldAfter_of_mem {patCap : ℕ} (hcap : key.length + 2 < patCap) {m : Member}
    (hm : m ∈ o.members) (hk : raw m.key = key) : ∃ b t, isScalarByte b = false ∧
      fieldAfter patCap o.render key = some (m.field ++ b :: t) := by
  obtain ⟨before, behind, hms⟩ := List.append_of_mem hm
  have hbefore : ∀ x ∈ before, ¬ x.Spells key := by
    intro x hx hs
    have hxm : x ∈ o.members := hms ▸ List.mem_append_left _ hx
    refine Object.name_ne hms hx ?_
    rw [name_of_raw hkey (hclean x hxm hs), name_of_raw hkey hk]
  rw [Object.fieldAfter_first hkey hcap hms hbefore (Or.inl hk)]
  cases behind with
  | nil => exact ⟨125, o.trail.1, by decide, rfl⟩
  | cons x behind =>
    exact ⟨comma, x.render ++ (renderRest behind ++ o.close), by decide, by simp [renderRest]⟩

theorem fieldAfter_of_absent {patCap : ℕ} (hcap : key.length + 2 < patCap)
    (h : ∀ m ∈ o.members, raw m.key ≠ key) : fieldAfter patCap o.render key = none :=
  Object.fieldAfter_none hkey hcap fun m hm hs => h m hm (hclean m hm hs)

end

/-- The bytes a search for a string takes from a member. -/
def stringRead (isBlank : UInt8 → Bool) (m : Member) : Option Text :=
  if ∀ b ∈ m.post.1, isBlank b = true then
    match m.value with
    | .str s => some ((raw s).takeWhile (· != quote))
    | .scalar _ => none
  else none

def numberRead (m : Member) : Numeral :=
  match m.value with
  | .str _ => Numeral.strtod []
  | .scalar lit => Numeral.strtod lit.1

theorem isSpace_of_isWs {b : UInt8} (h : isWs b = true) : Numeral.isSpace b = true := by
  simp only [isWs, Bool.or_eq_true, beq_iff_eq] at h
  rcases h with ((rfl | rfl) | rfl) | rfl <;> decide

theorem not_isSpace_of_scalar {b : UInt8} (h : isScalarByte b = true) :
    Numeral.isSpace b = false := by
  revert b
  decide +kernel

theorem quotedValue_field {isBlank : UInt8 → Bool} (hq : isBlank quote = false)
    (hs : ∀ b, isScalarByte b = true → isBlank b = false) (m : Member) (tail : Text) :
    quotedValue isBlank (m.field ++ tail) = stringRead isBlank m := by
  have hform : m.field ++ tail = m.post.1 ++ (m.value.render ++ (m.fin.1 ++ tail)) := by
    simp [Member.field]
  rw [hform, quotedValue, stringRead]
  by_cases hpost : ∀ b ∈ m.post.1, isBlank b = true
  · rw [if_pos hpost, List.dropWhile_append_of_pos hpost]
    cases hv : m.value with
    | str s =>
      have hstop : ((Value.str s).render ++ (m.fin.1 ++ tail)).dropWhile isBlank =
          quote :: (raw s ++ quote :: (m.fin.1 ++ tail)) := by
        simp [Value.render, quotedRaw, hq]
      have htake : (raw s ++ quote :: (m.fin.1 ++ tail)).takeWhile (· != quote) =
          (raw s).takeWhile (· != quote) := by
        rw [List.takeWhile_append]
        split_ifs with h
        · rw [(List.takeWhile_prefix _).eq_of_length h]
          simp
        · rfl
      simp only [hstop, if_true, htake]
    | scalar lit =>
      obtain ⟨c, l, hl⟩ := List.exists_cons_of_ne_nil lit.2.1
      have hc : isScalarByte c = true := lit.2.2 c (by simp [hl])
      have hcq : c ≠ quote := by
        rintro rfl
        simp [isScalarByte, quote] at hc
      simp [Value.render, hl, hs c hc, hcq]
  · -- an unknown blank stops the extractor in front of the value
    rw [if_neg hpost]
    have hne : (m.post.1.dropWhile isBlank) ≠ [] := by
      simpa [List.dropWhile_eq_nil_iff] using hpost
    obtain ⟨c, l, hl⟩ := List.exists_cons_of_ne_nil hne
    have hcq : c ≠ quote := by
      rintro rfl
      exact blanks_notMem m.post (by decide)
        ((List.dropWhile_sublist _).subset (hl ▸ List.mem_cons_self))
    simp [List.dropWhile_append, hl, hcq]

theorem strtod_field (m : Member) {b : UInt8} (hb : isScalarByte b = false) (t : Text) :
    Numeral.strtod (m.field ++ b :: t) = numberRead m := by
  have hform : m.field ++ b :: t = m.post.1 ++ (m.value.render ++ (m.fin.1 ++ b :: t)) := by
    simp [Member.field]
  have hpost : ∀ b ∈ m.post.1, Numeral.isSpace b = true :=
    fun b hb => isSpace_of_isWs (m.post.2 b hb)
  rw [hform, numberRead]
  cases hv : m.value with
  | str s =>
    refine Numeral.strtod_congr ?_
    rw [List.dropWhile_append_of_pos hpost]
    rfl
  | scalar lit =>
    obtain ⟨c, l, hl⟩ := List.exists_cons_of_ne_nil lit.2.1
    have hc : Numeral.isSpace c = false := not_isSpace_of_scalar (lit.2.2 c (by simp [hl]))
    have hend : (m.fin.1 ++ b :: t).takeWhile Numeral.isNumeralByte = [] := by
      cases hf : m.fin.1 with
      | nil => exact List.takeWhile_cons_of_neg (ne_true_of_eq_false hb)
      | cons w ws =>
        have hw := isSpace_of_isWs (m.fin.2 w (by simp [hf]))
        refine List.takeWhile_cons_of_neg fun hn => ?_
        simp [not_isSpace_of_scalar hn] at hw
    have hlit : ∀ b ∈ lit.1, Numeral.isNumeralByte b = true := lit.2.2
    refine Numeral.strtod_congr ?_
    rw [List.dropWhile_append_of_pos hpost, Value.render, hl, List.cons_append,
      List.dropWhile_cons_of_neg (by simp [hc]), List.dropWhile_cons_of_neg (by simp [hc]),
      ← List.cons_append, ← hl, List.takeWhile_append_of_pos hlit, hend, List.append_nil,
      List.takeWhile_eq_self_iff.mpr hlit]

/-- Nothing else in the object spells the key, and its member is written with the key as it is,
known blanks behind the colon, and no escapes. -/
def PlainFor (isBlank : UInt8 → Bool) (key : Text) (o : Object) : Prop :=
  Clean key o ∧ ∀ m ∈ o.members, m.name = key →
    raw m.key = key ∧ (∀ b ∈ m.post.1, isBlank b = true) ∧ m.value.Unescaped

instance (isBlank : UInt8 → Bool) (key : Text) (o : Object) :
    Decidable (PlainFor isBlank key o) :=
  inferInstanceAs (Decidable (Clean key o ∧ ∀ m ∈ o.members, m.name = key →
    raw m.key = key ∧ (∀ b ∈ m.post.1, isBlank b = true) ∧ m.value.Unescaped))

/-- The extractor reads the string that was sent under a key without look-alikes. -/
theorem readsAs_of_plain {isBlank : UInt8 → Bool} (hq : isBlank quote = false)
    (hb : ∀ b, isScalarByte b = true → isBlank b = false) {key : Text} (hkey : IsWord key)
    {o : Object} (hplain : PlainFor isBlank key o) {m : Member} (hm : m ∈ o.members)
    (hname : m.name = key) {s : JString} (hs : m.value = .str s) :
    ReadsAs isBlank key o.render (decode s) := by
  obtain ⟨hclean, hmem⟩ := hplain
  obtain ⟨hraw, hpost, hval⟩ := hmem m hm hname
  have hesc : backslash ∉ raw s := by simpa [hs, Value.Unescaped] using hval
  have hcap : key.length + 2 < key.length + 3 := by omega
  obtain ⟨b, t, -, hfield⟩ := fieldAfter_of_mem hkey hclean hcap hm hraw
  have hall : ∀ b ∈ raw s, (b != quote) = true := by
    intro b hbm
    simpa using fun he : b = quote => quote_notMem_plain hesc (he ▸ hbm)
  have hread : stringRead isBlank m = some (decode s) := by
    simp only [stringRead, if_pos hpost, hs, List.takeWhile_eq_self_iff.mpr hall,
      decode_plain (plain_of_notMem hesc)]
  refine (readsAs_iff hcap hq).mp ?_
  rw [hfield, Option.bind_some, quotedValue_field hq hb, hread]

theorem not_readsAs_of_absent {isBlank : UInt8 → Bool} (hq : isBlank quote = false) {key : Text}
    (hkey : IsWord key) {o : Object} (hclean : Clean key o)
    (habs : ∀ m ∈ o.members, m.name ≠ key) (w : Text) : ¬ ReadsAs isBlank key o.render w := by
  have hcap : key.length + 2 < key.length + 3 := by omega
  have hraw : ∀ m ∈ o.members, raw m.key ≠ key :=
    fun m hm hr => habs m hm (name_of_raw hkey hr)
  rw [← readsAs_iff hcap hq, fieldAfter_of_absent hkey hclean hcap hraw]
  simp

theorem ucBlank_scalar (b : UInt8) (h : isScalarByte b = true) : ucBlank b = false := by
  by_contra hb
  simp only [ucBlank, Bool.not_eq_false, Bool.or_eq_true, beq_iff_eq] at hb
  rcases hb with rfl | rfl <;> exact absurd h (by decide)

/-- An object names the use case of its `uc` member. -/
theorem ucNameOf_of_plain {o : Object} (hplain : PlainFor ucBlank (txt "uc") o) {m : Member}
    (hm : m ∈ o.members) (hname : m.name = txt "uc") {s : JString} (hs : m.value = .str s)
    (hne : decode s ≠ []) (hlen : (decode s).length < 48) :
    ucNameOf o.render = some (decode s) := by
  have hread := readsAs_of_plain ucBlank_quote ucBlank_scalar (by decide +kernel) hplain hm hname hs
  have hstr : iotUcJsonStr o.render (txt "uc") 48 = some (decode s) := by
    refine (fieldText_iff (by decide) ucBlank_quote).mpr ⟨_, hread, ?_⟩
    rw [List.take_of_length_le (by omega)]
  rw [ucNameOf, hstr]
  exact if_neg hne

end IotPlatform
