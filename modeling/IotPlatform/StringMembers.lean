import IotPlatform.CharMemory
import IotPlatform.UcPlatform

/-!
# String members, byte by byte

`extract_str` and `iot_uc_json_str` as they read the request and write the array. They skip other
blanks, build the pattern in arrays of other sizes, and the second checks the size of `out`.
-/
namespace IotPlatform
open CText KeySearch CharMemory

/-- `strstr` for the pattern and `strchr` for the colon behind it, then `p++`. -/
def findColon (json : CString) (pat : Text) : Except Fault (Option ℕ) := do
  match ← strstrFrom json pat 0 with
  | none => return none
  | some p =>
    match ← strchrFrom json colon (p + pat.length) with
    | none => return none
    | some p => return some (p + 1)

/-- The blanks at `p`, the opening quote, and the copy up to the next quote. -/
def copyQuoted (isBlank : UInt8 → Bool) (json : CString) (p : ℕ) (out : List UInt8) :
    Except Fault (Bool × List UInt8) := do
  let p ← skipWhile json isBlank p
  let b ← json.at p
  if b ≠ quote then return (false, out)
  else
    let (i, out) ← copyUntil json quote (p + 1) 0 out
    let out ← store out i 0
    return (decide (0 < i), out)

/-- What both functions do; the pattern is built in an array of `patCap` bytes. -/
def copyMember (patCap : ℕ) (isBlank : UInt8 → Bool) (json key : CString) (out : List UInt8) :
    Except Fault (Bool × List UInt8) := do
  match ← findColon json (snprintf patCap (quoted key.text)) with
  | none => return (false, out)
  | some p => copyQuoted isBlank json p out

/-- `extract_str(json, key, out, out_len)`, with the array `out` of `out_len` bytes. -/
def extractStrMem (json key : CString) (out : List UInt8) : Except Fault (Bool × List UInt8) :=
  copyMember 32 provBlank json key out

/-- `iot_uc_json_str(json, key, out, out_len)`, where no pointer is null. -/
def iotUcJsonStrMem (json key : CString) (out : List UInt8) : Except Fault (Bool × List UInt8) :=
  if out.length = 0 then .ok (false, out) else copyMember 48 ucBlank json key out

/-- What `extractStr` and `iotUcJsonStr` say of the call: the array it leaves and its result. -/
def writeBack (out : List UInt8) : Option Text → Bool × List UInt8
  | none => (false, out)
  | some v => (decide (0 < v.length), v ++ 0 :: out.drop (v.length + 1))

variable {patCap : ℕ} {isBlank : UInt8 → Bool} {json key : CString} {out : List UInt8}

theorem pattern_noNul (patCap : ℕ) (key : CString) :
    (0 : UInt8) ∉ snprintf patCap (quoted key.text) := by
  intro h
  have hmem := List.mem_of_mem_take h
  have hq : (0 : UInt8) ≠ quote := by decide
  simp [quoted, hq, key.noNul] at hmem

/-- The search by index ends where the search on suffixes does. -/
theorem findColon_eq (patCap : ℕ) (json key : CString) :
    (findColon json (snprintf patCap (quoted key.text)) = .ok none ∧
      fieldAfter patCap json.text key.text = none) ∨
    ∃ p ≤ json.text.length, findColon json (snprintf patCap (quoted key.text)) = .ok (some p) ∧
      fieldAfter patCap json.text key.text = some (json.text.drop p) := by
  have hpat := pattern_noNul patCap key
  simp only [findColon, fieldAfter]
  generalize snprintf patCap (quoted key.text) = pat at hpat
  rw [strstrFrom_eq hpat (Nat.zero_le _), List.drop_zero]
  cases hfind : strstr json.text pat with
  | none => exact Or.inl ⟨rfl, rfl⟩
  | some r =>
    obtain ⟨pre, htext, hprefix⟩ := strstr_spec hfind
    have hr : r <:+ json.text := ⟨pre, htext.symm⟩
    have htail : json.text.drop (json.text.length - r.length + pat.length) =
        r.drop pat.length := by
      rw [← List.drop_drop, drop_suffix hr]
    have hscan : strchrFrom json colon (json.text.length - r.length + pat.length) =
        .ok ((strchr (r.drop pat.length) colon).map fun t => json.text.length - t.length) := by
      have hlen := hr.length_le
      have hpatlen := hprefix.length_le
      rw [strchrFrom_eq (by decide) (by omega), htail]
    simp only [Option.map_some, bind, Except.bind, Option.bind_some, hscan]
    cases hcolon : strchr (r.drop pat.length) colon with
    | none => exact Or.inl ⟨rfl, rfl⟩
    | some t =>
      obtain ⟨gap, rest, hgap, -, rfl⟩ := strchr_spec hcolon
      have ht : colon :: rest <:+ json.text :=
        List.IsSuffix.trans ⟨gap, hgap.symm⟩ ((List.drop_suffix _ _).trans hr)
      have hrest : json.text.drop (json.text.length - (colon :: rest).length + 1) = rest := by
        rw [← List.drop_drop, drop_suffix ht]
        rfl
      have hlen := ht.length_le
      rw [List.length_cons] at hlen
      refine Or.inr ⟨json.text.length - (colon :: rest).length + 1, ?_, rfl, ?_⟩
      · rw [List.length_cons]
        omega
      · rw [hrest]
        rfl

theorem store_end {v out : List UInt8} (h : v.length < out.length) :
    store (v ++ out.drop v.length) v.length 0 = .ok (v ++ 0 :: out.drop (v.length + 1)) := by
  have hlen : v.length < (v ++ out.drop v.length).length := by
    simp only [List.length_append, List.length_drop]
    omega
  rw [store, if_pos hlen, List.set_append_right _ _ le_rfl, Nat.sub_self,
    List.drop_eq_getElem_cons h, List.set_cons_zero]

theorem copyQuoted_eq (hblank : isBlank 0 = false) (hout : 0 < out.length) {p : ℕ}
    (hp : p ≤ json.text.length) :
    copyQuoted isBlank json p out =
      .ok (writeBack out
        ((quotedValue isBlank (json.text.drop p)).map (·.take (out.length - 1)))) := by
  obtain ⟨j, hskip, hj, hdrop⟩ := skipWhile_eq hblank hp
  unfold copyQuoted quotedValue
  rw [hskip, ← hdrop]
  cases hd : json.text.drop j with
  | nil =>
    have hq : (0 : UInt8) ≠ quote := by decide
    simp only [bind, Except.bind, at_end hj hd, if_pos hq]
    rfl
  | cons b q =>
    by_cases hb : b = quote
    · obtain ⟨hnext, hle, -⟩ := drop_succ hd
      have hcopy := copyUntil_start quote (List.ne_nil_of_length_pos hout) hle
      rw [hnext] at hcopy
      have hlt : ((q.takeWhile (· != quote)).take (out.length - 1)).length < out.length := by
        rw [List.length_take]
        omega
      simp only [bind, Except.bind, at_of_drop hd, hb, ne_eq, not_true_eq_false, if_false, hcopy,
        store_end hlt, if_true, Option.map_some, writeBack]
      rfl
    · simp only [bind, Except.bind, at_of_drop hd, ne_eq, hb, not_false_eq_true, if_true, if_false]
      rfl

theorem copyMember_eq (hblank : isBlank 0 = false) (hout : 0 < out.length) :
    copyMember patCap isBlank json key out =
      .ok (writeBack out (fieldText patCap isBlank out.length json.text key.text)) := by
  unfold copyMember fieldText
  rcases findColon_eq patCap json key with ⟨hfind, hfield⟩ | ⟨p, hp, hfind, hfield⟩
  · rw [hfind, hfield]
    rfl
  · rw [hfind, hfield]
    exact copyQuoted_eq hblank hout hp

/-- The calls do what the model of their callers says. -/
theorem extractStrMem_eq (hout : 0 < out.length) :
    extractStrMem json key out =
      .ok (writeBack out (extractStr json.text key.text out.length)) :=
  copyMember_eq (by decide) hout

theorem iotUcJsonStrMem_eq (hout : 0 < out.length) :
    iotUcJsonStrMem json key out =
      .ok (writeBack out (iotUcJsonStr json.text key.text out.length)) := by
  rw [iotUcJsonStrMem, if_neg hout.ne']
  exact copyMember_eq (by decide) hout

/-- An array too small for the value holds its beginning. -/
example : extractStrMem ⟨txt "\x7b\"ssid\": \"plant\"\x7d", by decide⟩ ⟨txt "ssid", by decide⟩
    [1, 1, 1] = .ok (true, [112, 108, 0]) := by
  rw [extractStrMem_eq (by decide)]
  decide +kernel

/-- A call that stays within the text and the array. On success the array begins with what stands
behind the opening quote, up to the next quote or the end and cut to the array; otherwise no more
than a terminator is written. -/
def CopiesValue (isBlank : UInt8 → Bool) (json key : Text) (out : List UInt8)
    (call : Except Fault (Bool × List UInt8)) : Prop :=
  ∃ ok out', call = .ok (ok, out') ∧ out'.length = out.length ∧
    (ok = true → ∃ w v, ReadsAs isBlank key json w ∧ v = w.take (out.length - 1) ∧
      v.length = min (out.length - 1) w.length ∧ v ≠ [] ∧ quote ∉ v ∧ (0 : UInt8) ∉ v ∧
      out' = v ++ 0 :: out.drop (v.length + 1)) ∧
    (ok = false → out' = out ∨ out' = out.set 0 0)

theorem copiesValue_writeBack (hkey : key.text.length + 2 < patCap)
    (hq : isBlank quote = false) (hout : 0 < out.length) :
    CopiesValue isBlank json.text key.text out
      (.ok (writeBack out (fieldText patCap isBlank out.length json.text key.text))) := by
  refine ⟨_, _, rfl, ?_⟩
  cases hv : fieldText patCap isBlank out.length json.text key.text with
  | none => exact ⟨rfl, fun h => absurd h Bool.false_ne_true, fun _ => Or.inl rfl⟩
  | some v =>
    obtain ⟨w, hreads, rfl⟩ := (fieldText_iff hkey hq).mp hv
    have hlen : (w.take (out.length - 1)).length = min (out.length - 1) w.length :=
      List.length_take
    refine ⟨?_, fun hok => ⟨w, _, hreads, rfl, hlen, ?_, ?_, ?_, rfl⟩, fun hok => Or.inr ?_⟩
    · simp only [List.length_append, List.length_cons, List.length_drop]
      omega
    · exact List.ne_nil_of_length_pos (of_decide_eq_true hok)
    · obtain ⟨-, -, -, -, hw, -⟩ := hreads
      exact fun h => hw (List.mem_of_mem_take h)
    · exact fun h => json.noNul (hreads.subset (List.mem_of_mem_take h))
    · have hnil : w.take (out.length - 1) = [] :=
        List.eq_nil_of_length_eq_zero (Nat.eq_zero_of_not_pos (of_decide_eq_false hok))
      obtain ⟨x, rest, rfl⟩ := List.exists_cons_of_length_pos hout
      rw [hnil]
      rfl

/-- Both functions copy string members faithfully and within bounds. -/
theorem stringMembers_copied (json key : CString) (hkey : key.text.length ≤ 29)
    (out : List UInt8) (hout : 1 ≤ out.length) :
    CopiesValue provBlank json.text key.text out (extractStrMem json key out) ∧
      CopiesValue ucBlank json.text key.text out (iotUcJsonStrMem json key out) := by
  constructor
  · rw [extractStrMem_eq hout]
    exact copiesValue_writeBack (by omega) (by decide) hout
  · rw [iotUcJsonStrMem_eq hout]
    exact copiesValue_writeBack (by omega) (by decide) hout

theorem stringMembers_copied_unterminated :
    CopiesValue provBlank (txt "\x7b\"ssid\":\"pl") (txt "ssid") [1, 1]
        (extractStrMem ⟨txt "\x7b\"ssid\":\"pl", by decide⟩ ⟨txt "ssid", by decide⟩ [1, 1]) ∧
      CopiesValue ucBlank (txt "\x7b\"ssid\":\"pl") (txt "ssid") [1, 1]
        (iotUcJsonStrMem ⟨txt "\x7b\"ssid\":\"pl", by decide⟩ ⟨txt "ssid", by decide⟩ [1, 1]) :=
  stringMembers_copied ⟨txt "\x7b\"ssid\":\"pl", by decide⟩ ⟨txt "ssid", by decide⟩ (by decide)
    [1, 1] (by decide)

end IotPlatform
