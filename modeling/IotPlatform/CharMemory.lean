import IotPlatform.CText

/-!
# Character arrays in memory

A string is read by index and an array is written by index. An access outside the terminated text
or outside the array is a fault. The scans of the C library and the usual loops over a string are
connected to the functions on suffixes.
-/
namespace IotPlatform.CharMemory
open CText

/-- An access that the program must not make. -/
inductive Fault
  | read (i : ℕ)
  | write (i : ℕ)
  deriving DecidableEq

/-- A text with a terminator behind it and none inside. -/
structure CString where
  text : Text
  noNul : (0 : UInt8) ∉ text

/-- `s[i]`, up to the terminator. -/
def CString.at (s : CString) (i : ℕ) : Except Fault UInt8 :=
  if h : i < s.text.length then .ok s.text[i]
  else if i = s.text.length then .ok 0
  else .error (.read i)

/-- `out[i] = b`. -/
def store (out : List UInt8) (i : ℕ) (b : UInt8) : Except Fault (List UInt8) :=
  if i < out.length then .ok (out.set i b) else .error (.write i)

theorem CString.at_le {s : CString} {i : ℕ} {b : UInt8} (h : s.at i = .ok b) :
    i ≤ s.text.length := by
  unfold CString.at at h
  split_ifs at h <;> omega

/-- `while (p(s[i])) i++;` -/
def skipWhile (s : CString) (p : UInt8 → Bool) (i : ℕ) : Except Fault ℕ :=
  match h : s.at i with
  | .error f => .error f
  | .ok b => if p b then skipWhile s p (i + 1) else .ok i
termination_by s.text.length + 1 - i
decreasing_by have := CString.at_le h; omega

/-- `strchr(s + i, c)`, as an index. -/
def strchrFrom (s : CString) (c : UInt8) (i : ℕ) : Except Fault (Option ℕ) :=
  match h : s.at i with
  | .error f => .error f
  | .ok b =>
    if b = c then .ok (some i) else if b = 0 then .ok none else strchrFrom s c (i + 1)
termination_by s.text.length + 1 - i
decreasing_by have := CString.at_le h; omega

/-- Whether the bytes of `pat` stand at `i`, compared one by one. -/
def matchAt (s : CString) : Text → ℕ → Except Fault Bool
  | [], _ => .ok true
  | c :: pat, i =>
    match s.at i with
    | .error f => .error f
    | .ok b => if b = c then matchAt s pat (i + 1) else .ok false

/-- `strstr(s + i, pat)`, as an index. -/
def strstrFrom (s : CString) (pat : Text) (i : ℕ) : Except Fault (Option ℕ) :=
  match matchAt s pat i with
  | .error f => .error f
  | .ok true => .ok (some i)
  | .ok false =>
    match h : s.at i with
    | .error f => .error f
    | .ok b => if b = 0 then .ok none else strstrFrom s pat (i + 1)
termination_by s.text.length + 1 - i
decreasing_by have := CString.at_le h; omega

/-- `while (s[p + i] != '\0' && s[p + i] != end && i + 1 < n) { out[i] = s[p + i]; i++; }`, with the
index at which it stops. -/
def copyUntil (s : CString) (stop : UInt8) (p i : ℕ) (out : List UInt8) :
    Except Fault (ℕ × List UInt8) :=
  match h : s.at (p + i) with
  | .error f => .error f
  | .ok b =>
    if b ≠ 0 ∧ b ≠ stop ∧ i + 1 < out.length then do
      let out' ← store out i b
      copyUntil s stop p (i + 1) out'
    else .ok (i, out)
termination_by s.text.length + 1 - (p + i)
decreasing_by have := CString.at_le h; omega

section
variable {s : CString} {i : ℕ}

theorem at_of_drop {b : UInt8} {r : Text} (h : s.text.drop i = b :: r) : s.at i = .ok b := by
  have hlt : i < s.text.length := by
    by_contra hge
    simp [List.drop_of_length_le (not_lt.mp hge)] at h
  rw [List.drop_eq_getElem_cons hlt] at h
  rw [CString.at, dif_pos hlt, (List.cons.inj h).1]

theorem at_end (hi : i ≤ s.text.length) (h : s.text.drop i = []) : s.at i = .ok 0 := by
  have heq : i = s.text.length := le_antisymm hi (List.drop_eq_nil_iff.mp h)
  rw [CString.at, dif_neg (by omega), if_pos heq]

theorem drop_succ {b : UInt8} {r : Text} (h : s.text.drop i = b :: r) :
    s.text.drop (i + 1) = r ∧ i + 1 ≤ s.text.length ∧ b ≠ 0 := by
  have hlt : i < s.text.length := by
    by_contra hge
    simp [List.drop_of_length_le (not_lt.mp hge)] at h
  refine ⟨?_, hlt, ?_⟩
  · rw [← List.drop_drop, h]
    rfl
  · rintro rfl
    exact s.noNul (List.mem_of_mem_drop (h ▸ List.mem_cons_self))

/-- A suffix stands at the index by which the text is longer. -/
theorem drop_suffix {r : Text} (h : r <:+ s.text) :
    s.text.drop (s.text.length - r.length) = r := (List.suffix_iff_eq_drop.mp h).symm

theorem index_of_drop {r : Text} (hi : i ≤ s.text.length) (h : s.text.drop i = r) :
    s.text.length - r.length = i := by
  rw [← h, List.length_drop]
  omega

theorem skipWhile_of_at {p : UInt8 → Bool} {b : UInt8} (h : s.at i = .ok b) :
    skipWhile s p i = if p b then skipWhile s p (i + 1) else .ok i := by
  rw [skipWhile]
  split
  · simp_all
  · simp_all

theorem strchrFrom_of_at {c b : UInt8} (h : s.at i = .ok b) :
    strchrFrom s c i =
      if b = c then .ok (some i) else if b = 0 then .ok none else strchrFrom s c (i + 1) := by
  rw [strchrFrom]
  split
  · simp_all
  · simp_all

theorem strstrFrom_of_match {pat : Text} {b : UInt8} (h : s.at i = .ok b)
    (hmatch : matchAt s pat i = .ok false) :
    strstrFrom s pat i = if b = 0 then .ok none else strstrFrom s pat (i + 1) := by
  rw [strstrFrom, hmatch]
  dsimp only
  split
  · simp_all
  · simp_all

theorem copyUntil_of_at {stop b : UInt8} {p : ℕ} {out : List UInt8} (h : s.at (p + i) = .ok b) :
    copyUntil s stop p i out =
      if b ≠ 0 ∧ b ≠ stop ∧ i + 1 < out.length then
        copyUntil s stop p (i + 1) (out.set i b)
      else .ok (i, out) := by
  rw [copyUntil]
  split
  · simp_all
  · rename_i b' hat
    obtain rfl : b' = b := by simpa [h] using hat.symm
    split_ifs with hgo
    · rw [store, if_pos (by omega)]
      rfl
    · rfl

theorem skipWhile_eq {p : UInt8 → Bool} (hp : p 0 = false) (hi : i ≤ s.text.length) :
    ∃ j, skipWhile s p i = .ok j ∧ j ≤ s.text.length ∧
      s.text.drop j = (s.text.drop i).dropWhile p := by
  induction hd : s.text.drop i generalizing i with
  | nil => exact ⟨i, by simp [skipWhile_of_at (at_end hi hd), hp], hi, hd⟩
  | cons b r ih =>
    obtain ⟨hnext, hle, -⟩ := drop_succ hd
    rw [skipWhile_of_at (at_of_drop hd)]
    cases hb : p b with
    | true => simpa [hb] using ih hle hnext
    | false => exact ⟨i, by simp, hi, by simp [hb, hd]⟩

theorem strchrFrom_eq {c : UInt8} (hc : c ≠ 0) (hi : i ≤ s.text.length) :
    strchrFrom s c i =
      .ok ((strchr (s.text.drop i) c).map fun t => s.text.length - t.length) := by
  induction hd : s.text.drop i generalizing i with
  | nil => simp [strchrFrom_of_at (at_end hi hd), hc.symm, strchr]
  | cons b r ih =>
    obtain ⟨hnext, hle, hb0⟩ := drop_succ hd
    rw [strchrFrom_of_at (at_of_drop hd)]
    by_cases hb : b = c
    · have hfound : strchr (b :: r) c = some (b :: r) := by simp [strchr, hb]
      rw [if_pos hb, hfound, Option.map_some, index_of_drop hi hd]
    · have hskip : strchr (b :: r) c = strchr r c := by simp [strchr, hb]
      rw [if_neg hb, if_neg hb0, ih hle hnext, hskip]

theorem matchAt_eq {pat : Text} (hpat : (0 : UInt8) ∉ pat) (hi : i ≤ s.text.length) :
    matchAt s pat i = .ok (pat.isPrefixOf (s.text.drop i)) := by
  induction pat generalizing i with
  | nil => simp [matchAt]
  | cons c pat ih =>
    obtain ⟨hc, hpat⟩ := not_or.mp (mt List.mem_cons.mpr hpat)
    cases hd : s.text.drop i with
    | nil => simp [matchAt, at_end hi hd, hc]
    | cons b r =>
      obtain ⟨hnext, hle, -⟩ := drop_succ hd
      rw [matchAt, at_of_drop hd]
      by_cases hb : b = c
      · simp [hb, ih hpat hle, hnext]
      · have hcb : (c == b) = false := beq_false_of_ne (Ne.symm hb)
        simp [hb, List.isPrefixOf_cons_cons, hcb]

/-- Where the pattern stands, the search stops. -/
theorem strstrFrom_found {pat : Text} (hpat : (0 : UInt8) ∉ pat) (hi : i ≤ s.text.length)
    (h : pat <+: s.text.drop i) : strstrFrom s pat i = .ok (some i) := by
  rw [strstrFrom, matchAt_eq hpat hi, List.isPrefixOf_iff_prefix.mpr h]

theorem strstrFrom_eq {pat : Text} (hpat : (0 : UInt8) ∉ pat) (hi : i ≤ s.text.length) :
    strstrFrom s pat i =
      .ok ((strstr (s.text.drop i) pat).map fun t => s.text.length - t.length) := by
  induction hd : s.text.drop i generalizing i with
  | nil =>
    by_cases hp : pat <+: []
    · rw [strstrFrom_found hpat hi (hd ▸ hp), strstr_match hp, Option.map_some,
        index_of_drop hi hd]
    · have hmatch : matchAt s pat i = .ok false := by
        rw [matchAt_eq hpat hi, hd]
        exact congrArg Except.ok (Bool.eq_false_iff.mpr (mt List.isPrefixOf_iff_prefix.mp hp))
      rw [strstrFrom_of_match (at_end hi hd) hmatch, strstr_nil (by simpa using hp)]
      rfl
  | cons b r ih =>
    obtain ⟨hnext, hle, hb0⟩ := drop_succ hd
    by_cases hp : pat <+: b :: r
    · rw [strstrFrom_found hpat hi (hd ▸ hp), strstr_match hp, Option.map_some,
        index_of_drop hi hd]
    · have hmatch : matchAt s pat i = .ok false := by
        rw [matchAt_eq hpat hi, hd]
        exact congrArg Except.ok (Bool.eq_false_iff.mpr (mt List.isPrefixOf_iff_prefix.mp hp))
      rw [strstrFrom_of_match (at_of_drop hd) hmatch, if_neg hb0, ih hle hnext, strstr_cons hp]

/-- The loop copies up to the byte that stops it, and leaves room for a terminator. -/
theorem copyUntil_eq {stop : UInt8} {p : ℕ} {done rest : List UInt8} (hrest : rest ≠ [])
    (hi : p + done.length ≤ s.text.length) :
    let v := ((s.text.drop (p + done.length)).takeWhile (· != stop)).take (rest.length - 1)
    copyUntil s stop p done.length (done ++ rest) =
      .ok (done.length + v.length, done ++ (v ++ rest.drop v.length)) := by
  induction hd : s.text.drop (p + done.length) generalizing done rest with
  | nil => simp [copyUntil_of_at (at_end hi hd)]
  | cons b r ih =>
    obtain ⟨hnext, hle, hb0⟩ := drop_succ hd
    obtain ⟨x, rest, rfl⟩ := List.exists_cons_of_ne_nil hrest
    rw [copyUntil_of_at (at_of_drop hd)]
    by_cases hb : b = stop
    · simp [hb]
    · cases rest with
      | nil => simp
      | cons y rest =>
        have hset : (done ++ x :: y :: rest).set done.length b = (done ++ [b]) ++ y :: rest := by
          simp
        have hlen : (done ++ [b]).length = done.length + 1 := by simp
        have hdrop : s.text.drop (p + (done ++ [b]).length) = r := by rw [hlen]; exact hnext
        have hstep := ih (List.cons_ne_nil y rest) (by rw [hlen]; omega) hdrop
        rw [if_pos ⟨hb0, hb, by simp⟩, hset, ← hlen, hstep]
        simp [hb]
        omega

theorem copyUntil_start (stop : UInt8) {p : ℕ} {out : List UInt8} (hout : out ≠ [])
    (hp : p ≤ s.text.length) :
    let v := ((s.text.drop p).takeWhile (· != stop)).take (out.length - 1)
    copyUntil s stop p 0 out = .ok (v.length, v ++ out.drop v.length) := by
  have hcopy := @copyUntil_eq s stop p [] out hout hp
  simpa using hcopy

end

end IotPlatform.CharMemory
