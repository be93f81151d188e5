import IotPlatform.CText

/-!
# Reading a member by searching for its quoted key

The extractor finds the first place where the key stands in quotes, skips to the next colon and
reads what follows: anything at all, or a quoted string. `FieldAt` and `ReadsAs` say the same in
terms of the text, and the two `_iff` theorems connect them.
-/
namespace IotPlatform.KeySearch
open CText

def quoted (key : Text) : Text := quote :: key ++ [quote]

/-- What follows the colon after the first quoted `key`; the pattern is built in `patCap` bytes. -/
def fieldAfter (patCap : ℕ) (t key : Text) : Option Text :=
  let pat := snprintf patCap (quoted key)
  (strstr t pat).bind fun p => (strchr (p.drop pat.length) colon).map List.tail

/-- The bytes of a string up to the next quote, when a quote comes after the blanks. -/
def quotedValue (isBlank : UInt8 → Bool) (p : Text) : Option Text :=
  match p.dropWhile isBlank with
  | [] => none
  | b :: q => if b = quote then some (q.takeWhile (· != quote)) else none

/-- The string member `key` as it is copied into an array of `cap` bytes. -/
def fieldText (patCap : ℕ) (isBlank : UInt8 → Bool) (cap : ℕ) (t key : Text) : Option Text :=
  ((fieldAfter patCap t key).bind (quotedValue isBlank)).map (·.take (cap - 1))

/-- The first quoted `key` in `t` is followed, after its next colon, by `rest`. -/
def FieldAt (key t rest : Text) : Prop :=
  ∃ pre mid, t = pre ++ quoted key ++ mid ++ colon :: rest ∧ colon ∉ mid ∧
    ∀ n < pre.length, ¬ quoted key <+: t.drop n

/-- There, after blanks only, stands a string that begins with the quote-free text `w` and ends
or breaks off after it. -/
def ReadsAs (isBlank : UInt8 → Bool) (key t w : Text) : Prop :=
  ∃ ws post, FieldAt key t (ws ++ quote :: (w ++ post)) ∧ (∀ b ∈ ws, isBlank b) ∧
    quote ∉ w ∧ (post = [] ∨ ∃ p, post = quote :: p)

theorem snprintf_quoted {patCap : ℕ} {key : Text} (h : key.length + 2 < patCap) :
    snprintf patCap (quoted key) = quoted key := by
  apply List.take_of_length_le
  simp only [quoted, List.length_cons, List.length_append, List.length_nil]
  omega

theorem strstr_first {s pat r : Text} (h : strstr s pat = some r) :
    ∃ pre, s = pre ++ r ∧ pat <+: r ∧ ∀ n < pre.length, ¬ pat <+: s.drop n := by
  induction s with
  | nil =>
    obtain ⟨pre, hs, hr⟩ := strstr_spec h
    obtain ⟨rfl, rfl⟩ := List.append_eq_nil_iff.mp hs.symm
    exact ⟨[], rfl, hr, by simp⟩
  | cons b s ih =>
    by_cases hp : pat <+: b :: s
    · rw [strstr_match hp] at h
      obtain rfl := Option.some.inj h
      exact ⟨[], rfl, hp, by simp⟩
    · rw [strstr_cons hp] at h
      obtain ⟨pre, rfl, hr, hfirst⟩ := ih h
      refine ⟨b :: pre, rfl, hr, ?_⟩
      intro n hn
      cases n with
      | zero => exact hp
      | succ n => exact hfirst n (by simpa using hn)

theorem strstr_of_first {pre r pat : Text} (hr : pat <+: r)
    (hfirst : ∀ n < pre.length, ¬ pat <+: (pre ++ r).drop n) :
    strstr (pre ++ r) pat = some r := by
  induction pre with
  | nil => exact strstr_match hr
  | cons b pre ih =>
    have hb : ¬ pat <+: b :: (pre ++ r) := hfirst 0 (by simp)
    refine (strstr_cons hb).trans (ih fun n hn => ?_)
    exact hfirst (n + 1) (by simpa using hn)

theorem fieldAfter_iff {patCap : ℕ} {key : Text} (hkey : key.length + 2 < patCap)
    {t rest : Text} : fieldAfter patCap t key = some rest ↔ FieldAt key t rest := by
  simp only [fieldAfter, snprintf_quoted hkey]
  constructor
  · intro h
    obtain ⟨p, hp, h⟩ := Option.bind_eq_some_iff.mp h
    obtain ⟨r, hr, rfl⟩ := Option.map_eq_some_iff.mp h
    obtain ⟨pre, rfl, ⟨tail, rfl⟩, hfirst⟩ := strstr_first hp
    rw [List.drop_left] at hr
    obtain ⟨gap, rest, rfl, hgap, rfl⟩ := strchr_spec hr
    exact ⟨pre, gap, by simp, hgap, hfirst⟩
  · rintro ⟨pre, mid, rfl, hmid, hfirst⟩
    have hs : strstr (pre ++ (quoted key ++ (mid ++ colon :: rest))) (quoted key) =
        some (quoted key ++ (mid ++ colon :: rest)) :=
      strstr_of_first (List.prefix_append _ _) (by simpa using hfirst)
    simp only [List.append_assoc, hs, Option.bind_some, List.drop_left, strchr_append hmid,
      Option.map_some, List.tail_cons]

theorem takeWhile_quote_iff {q w : Text} : q.takeWhile (· != quote) = w ↔
    ∃ post, q = w ++ post ∧ quote ∉ w ∧ (post = [] ∨ ∃ p, post = quote :: p) := by
  constructor
  · rintro rfl
    refine ⟨q.dropWhile (· != quote), List.takeWhile_append_dropWhile.symm, ?_, ?_⟩
    · intro hm
      simpa using List.mem_takeWhile_imp hm
    · cases hr : q.dropWhile (· != quote) with
      | nil => exact Or.inl rfl
      | cons c r =>
        have := List.head?_dropWhile_not (· != quote) q
        exact Or.inr ⟨r, by simp_all⟩
  · rintro ⟨post, rfl, hw, hpost⟩
    have hall : ∀ b ∈ w, (b != quote) = true := by
      intro b hb
      simpa using fun he : b = quote => hw (he ▸ hb)
    rw [List.takeWhile_append_of_pos hall]
    rcases hpost with rfl | ⟨q, rfl⟩ <;> simp

theorem quotedValue_iff {isBlank : UInt8 → Bool} (hq : isBlank quote = false) {p w : Text} :
    quotedValue isBlank p = some w ↔ ∃ ws post, p = ws ++ quote :: (w ++ post) ∧
      (∀ b ∈ ws, isBlank b) ∧ quote ∉ w ∧ (post = [] ∨ ∃ q, post = quote :: q) := by
  constructor
  · intro h
    rw [quotedValue] at h
    cases hd : p.dropWhile isBlank with
    | nil => simp [hd] at h
    | cons b q =>
      simp only [hd] at h
      split_ifs at h with hb
      subst hb
      obtain ⟨post, rfl, hw, hpost⟩ := takeWhile_quote_iff.mp (Option.some.inj h)
      refine ⟨p.takeWhile isBlank, post, ?_, fun b hb => List.mem_takeWhile_imp hb, hw, hpost⟩
      rw [← hd, List.takeWhile_append_dropWhile]
  · rintro ⟨ws, post, rfl, hws, hw, hpost⟩
    have hd : (ws ++ quote :: (w ++ post)).dropWhile isBlank = quote :: (w ++ post) := by
      rw [List.dropWhile_append_of_pos hws]
      simp [hq]
    have ht := takeWhile_quote_iff.mpr ⟨post, rfl, hw, hpost⟩
    simp [quotedValue, hd, ht]

theorem readsAs_iff {patCap : ℕ} {isBlank : UInt8 → Bool} {key : Text}
    (hkey : key.length + 2 < patCap) (hq : isBlank quote = false) {t w : Text} :
    (fieldAfter patCap t key).bind (quotedValue isBlank) = some w ↔ ReadsAs isBlank key t w := by
  simp only [Option.bind_eq_some_iff, fieldAfter_iff hkey, quotedValue_iff hq, ReadsAs]
  constructor
  · rintro ⟨p, hp, ws, post, rfl, hws, hw, hpost⟩
    exact ⟨ws, post, hp, hws, hw, hpost⟩
  · rintro ⟨ws, post, hp, hws, hw, hpost⟩
    exact ⟨_, hp, ws, post, rfl, hws, hw, hpost⟩

/-- What the extractor copies is the string that `ReadsAs` names, cut to the array. -/
theorem fieldText_iff {patCap cap : ℕ} {isBlank : UInt8 → Bool} {key : Text}
    (hkey : key.length + 2 < patCap) (hq : isBlank quote = false) {t v : Text} :
    fieldText patCap isBlank cap t key = some v ↔
      ∃ w, ReadsAs isBlank key t w ∧ v = w.take (cap - 1) := by
  simp only [fieldText, Option.map_eq_some_iff, readsAs_iff hkey hq, eq_comm (b := v)]

theorem ReadsAs.subset {isBlank : UInt8 → Bool} {key t w : Text} (h : ReadsAs isBlank key t w) :
    w ⊆ t := by
  obtain ⟨ws, post, ⟨pre, mid, rfl, -, -⟩, -⟩ := h
  intro b hb
  simp [hb]

/-- What stands at `p` after the blanks is not a string, or a string that ends within `p`. -/
def Closed (isBlank : UInt8 → Bool) (p : Text) : Prop :=
  p.dropWhile isBlank ≠ [] ∧
    ((p.dropWhile isBlank).head? = some quote → quote ∈ (p.dropWhile isBlank).tail)

instance (isBlank : UInt8 → Bool) (p : Text) : Decidable (Closed isBlank p) :=
  inferInstanceAs (Decidable (_ ∧ _))

theorem fieldAfter_append {patCap : ℕ} {t key r : Text} (h : fieldAfter patCap t key = some r)
    (more : Text) : fieldAfter patCap (t ++ more) key = some (r ++ more) := by
  obtain ⟨p, hp, hr⟩ := Option.bind_eq_some_iff.mp h
  obtain ⟨q, hq, rfl⟩ := Option.map_eq_some_iff.mp hr
  obtain ⟨pre, -, hpat⟩ := strstr_spec hp
  obtain ⟨gap, rest, hdrop, hgap, rfl⟩ := strchr_spec hq
  have hq' : strchr ((p ++ more).drop (snprintf patCap (quoted key)).length) colon =
      some (colon :: (rest ++ more)) := by
    rw [List.drop_append_of_le_length hpat.length_le, hdrop, List.append_assoc]
    exact strchr_append hgap
  simp only [fieldAfter, strstr_append hp more, Option.bind_some, hq', Option.map_some,
    List.tail_cons]

theorem quotedValue_append {isBlank : UInt8 → Bool} {p : Text} (h : Closed isBlank p)
    (more : Text) : quotedValue isBlank (p ++ more) = quotedValue isBlank p := by
  obtain ⟨hne, hclose⟩ := h
  unfold quotedValue
  cases hd : p.dropWhile isBlank with
  | nil => exact absurd hd hne
  | cons b q =>
    have hd' : (p ++ more).dropWhile isBlank = b :: (q ++ more) := by
      simp [List.dropWhile_append, hd]
    rw [hd']
    by_cases hb : b = quote
    · have hq : quote ∈ q := by simpa [hd, hb] using hclose
      have hw : (q ++ more).takeWhile (· != quote) = q.takeWhile (· != quote) := by
        rw [List.takeWhile_append]
        refine if_neg fun hlen => ?_
        have hall := List.takeWhile_eq_self_iff.mp
          ((List.takeWhile_prefix (· != quote)).eq_of_length hlen) quote hq
        simp at hall
      simp only [if_pos hb, hw]
    · simp only [if_neg hb]

end IotPlatform.KeySearch
