import Mathlib

/-!
# C character data

A C string is the list of its bytes up to the terminator, and a `const char *` into it is the
suffix it points at. `strstr` and `strchr` return such suffixes. Memory that may lack a
terminator is a plain list of bytes, read through `cstr`.
-/
namespace IotPlatform.CText

abbrev Text := List UInt8

def txt (s : String) : Text := s.toList.map fun c => UInt8.ofNat c.toNat

def quote : UInt8 := 34
def backslash : UInt8 := 92
def colon : UInt8 := 58

/-- What a string function sees from the start of `mem`: everything before the first NUL. -/
def cstr (mem : List UInt8) : Text := mem.takeWhile (· != 0)

/-- `strstr`: the suffix that starts at the first occurrence of `pat`. -/
def strstr (s pat : Text) : Option Text :=
  if pat.isPrefixOf s then some s else
  match s with
  | [] => none
  | _ :: s => strstr s pat

/-- `strchr` for a byte other than NUL. -/
def strchr (s : Text) (c : UInt8) : Option Text :=
  match s.dropWhile (· != c) with
  | [] => none
  | t => some t

/-- What `snprintf(buf, size, ...)` leaves in `buf` when the formatted text is `t`. -/
def snprintf (size : ℕ) (t : Text) : Text := t.take (size - 1)

/-- A `char` array of `cap` bytes that holds a string, of which the terminator takes one. -/
structure CBuf (cap : ℕ) where
  text : Text
  fits : text.length ≤ cap - 1
  noNul : (0 : UInt8) ∉ text
  deriving DecidableEq

theorem zero_notMem_cstr (mem : List UInt8) : (0 : UInt8) ∉ cstr mem := by
  intro h
  simpa using List.mem_takeWhile_imp h

/-- Storing a text into an array of `cap` bytes cuts it where the array ends. -/
def CBuf.store (cap : ℕ) (t : Text) : CBuf cap where
  text := (cstr t).take (cap - 1)
  fits := List.length_take_le _ _
  noNul := fun h => zero_notMem_cstr t (List.mem_of_mem_take h)

theorem cstr_of_notMem {t : Text} (h : (0 : UInt8) ∉ t) : cstr t = t := by
  rw [cstr, List.takeWhile_eq_self_iff]
  intro b hb
  simpa using fun he : b = 0 => h (he ▸ hb)

theorem CBuf.store_text {cap : ℕ} {t : Text} (h : (0 : UInt8) ∉ t) :
    (CBuf.store cap t).text = t.take (cap - 1) := by
  simp [CBuf.store, cstr_of_notMem h]

/-- A terminator inside the object hides whatever memory follows it. -/
theorem cstr_append {mem : List UInt8} (h : (0 : UInt8) ∈ mem) (past : List UInt8) :
    cstr (mem ++ past) = cstr mem := by
  induction mem with
  | nil => simp at h
  | cons b mem ih =>
    by_cases hb : b = 0
    · simp [cstr, hb]
    · have hm : (0 : UInt8) ∈ mem := by
        rcases List.mem_cons.mp h with h | h
        · exact absurd h.symm hb
        · exact h
      simpa [cstr, hb] using ih hm

theorem cstr_append_of_notMem {t : Text} (h : (0 : UInt8) ∉ t) (past : List UInt8) :
    cstr (t ++ past) = t ++ cstr past := by
  rw [cstr, List.takeWhile_append_of_pos]
  · rfl
  · intro b hb
    simpa using fun he : b = 0 => h (he ▸ hb)

theorem cstr_append_nul {t : Text} (h : (0 : UInt8) ∉ t) (past : List UInt8) :
    cstr (t ++ 0 :: past) = t := by
  rw [cstr_append_of_notMem h]
  simp [cstr]

theorem strstr_match {s pat : Text} (h : pat <+: s) : strstr s pat = some s := by
  rw [strstr.eq_def, if_pos (List.isPrefixOf_iff_prefix.mpr h)]

theorem strstr_cons {b : UInt8} {s pat : Text} (h : ¬ pat <+: b :: s) :
    strstr (b :: s) pat = strstr s pat := by
  rw [strstr.eq_def, if_neg (by simpa [List.isPrefixOf_iff_prefix] using h)]

theorem strstr_nil {pat : Text} (h : pat ≠ []) : strstr [] pat = none := by
  rw [strstr.eq_def, if_neg (by simpa [List.isPrefixOf_iff_prefix] using h)]

theorem strstr_spec {s pat r : Text} (h : strstr s pat = some r) :
    ∃ pre, s = pre ++ r ∧ pat <+: r := by
  induction s with
  | nil =>
    by_cases hp : pat <+: []
    · rw [strstr_match hp] at h
      exact ⟨[], by simpa using h, by simpa [← Option.some.inj h] using hp⟩
    · rw [strstr_nil (by simpa using hp)] at h
      cases h
  | cons b s ih =>
    by_cases hp : pat <+: b :: s
    · rw [strstr_match hp] at h
      obtain rfl := Option.some.inj h
      exact ⟨[], rfl, hp⟩
    · rw [strstr_cons hp] at h
      obtain ⟨pre, rfl, hr⟩ := ih h
      exact ⟨b :: pre, rfl, hr⟩

/-- An occurrence found in a text is found at the same place in every longer text. -/
theorem strstr_append {s pat r : Text} (h : strstr s pat = some r) (more : Text) :
    strstr (s ++ more) pat = some (r ++ more) := by
  induction s with
  | nil =>
    obtain ⟨pre, hs, hr⟩ := strstr_spec h
    obtain ⟨rfl, rfl⟩ := List.append_eq_nil_iff.mp hs.symm
    obtain rfl := List.prefix_nil.mp hr
    exact strstr_match (List.nil_prefix)
  | cons b s ih =>
    by_cases hp : pat <+: b :: s
    · rw [strstr_match hp] at h
      obtain rfl := Option.some.inj h
      exact strstr_match (hp.trans (List.prefix_append _ _))
    · rw [strstr_cons hp] at h
      by_cases hq : pat <+: b :: s ++ more
      · -- the longer text matches here although the shorter does not, so the pattern sticks out
        obtain ⟨pre, rfl, hr⟩ := strstr_spec h
        have hlen : pat.length ≤ (b :: (pre ++ r)).length := by
          have := hr.length_le
          simp only [List.length_cons, List.length_append]
          omega
        exact absurd (List.prefix_of_prefix_length_le hq (List.prefix_append _ _) hlen) hp
      · exact (strstr_cons hq).trans (ih h)

theorem strstr_isSome {s pat : Text} : (strstr s pat).isSome ↔ pat <:+: s := by
  induction s with
  | nil =>
    by_cases hp : pat = []
    · subst hp
      simp [strstr_match]
    · simp [strstr_nil hp, hp]
  | cons b s ih =>
    by_cases hp : pat <+: b :: s
    · simp [strstr_match hp, hp.isInfix]
    · rw [strstr_cons hp, ih, List.infix_cons_iff]
      simp [hp]

theorem strstr_skip {q : UInt8} {pat gap s : Text} (h : q ∉ gap) :
    strstr (gap ++ s) (q :: pat) = strstr s (q :: pat) := by
  induction gap with
  | nil => rfl
  | cons b gap ih =>
    obtain ⟨hb, hg⟩ := not_or.mp (mt List.mem_cons.mpr h)
    rw [List.cons_append, strstr_cons (fun hp => hb (List.cons_prefix_cons.mp hp).1)]
    exact ih hg

theorem strchr_append {gap s : Text} {c : UInt8} (h : c ∉ gap) :
    strchr (gap ++ c :: s) c = some (c :: s) := by
  have hd : (gap ++ c :: s).dropWhile (· != c) = c :: s := by
    rw [List.dropWhile_append_of_pos]
    · simp
    · intro b hb
      simpa using fun he : b = c => h (he ▸ hb)
  rw [strchr, hd]

theorem strchr_spec {s r : Text} {c : UInt8} (h : strchr s c = some r) :
    ∃ gap t, s = gap ++ c :: t ∧ c ∉ gap ∧ r = c :: t := by
  rw [strchr] at h
  cases hd : s.dropWhile (· != c) with
  | nil => simp [hd] at h
  | cons b t =>
    simp only [hd, Option.some.injEq] at h
    have hb : b = c := by
      have := List.head?_dropWhile_not (· != c) s
      simpa [hd] using this
    subst hb
    refine ⟨s.takeWhile (· != b), t, ?_, ?_, h.symm⟩
    · rw [← hd, List.takeWhile_append_dropWhile]
    · intro hm
      simpa using List.mem_takeWhile_imp hm

end IotPlatform.CText
