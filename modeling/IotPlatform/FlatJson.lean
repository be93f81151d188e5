import IotPlatform.KeySearch

/-!
# Flat JSON objects as text

Objects of strings and scalars, with the blanks and escapes they are written with, and the place
in their text where a search for a quoted word lands.
-/
namespace IotPlatform.FlatJson
open CText KeySearch

def isWs (b : UInt8) : Bool := b == 32 || b == 9 || b == 10 || b == 13

abbrev Blanks := { ws : Text // ∀ b ∈ ws, isWs b = true }

/-- A byte that stands for itself in a string. -/
abbrev PlainByte := { b : UInt8 // 32 ≤ b ∧ b ≠ quote ∧ b ≠ backslash }

inductive Escape
  | quote | backslash | slash | b | f | n | r | t
  deriving DecidableEq, Repr

def Escape.letter : Escape → UInt8
  | quote => 34
  | backslash => 92
  | slash => 47
  | b => 98
  | f => 102
  | n => 110
  | r => 114
  | t => 116

def Escape.byte : Escape → UInt8
  | quote => 34
  | backslash => 92
  | slash => 47
  | b => 8
  | f => 12
  | n => 10
  | r => 13
  | t => 9

structure HexDigit where
  val : Fin 16
  upper : Bool
  deriving DecidableEq, Repr

def HexDigit.letter (h : HexDigit) : UInt8 :=
  if h.val < 10 then UInt8.ofNat (48 + h.val)
  else if h.upper then UInt8.ofNat (55 + h.val)
  else UInt8.ofNat (87 + h.val)

/-- A character of a string, as it is written. -/
inductive JChar
  | plain (b : PlainByte)
  | escape (e : Escape)
  | unicode (a b c d : HexDigit)
  deriving DecidableEq

abbrev JString := List JChar

def JChar.raw : JChar → Text
  | plain b => [b.1]
  | escape e => [backslash, e.letter]
  | unicode a b c d => [backslash, 117, a.letter, b.letter, c.letter, d.letter]

def raw (s : JString) : Text := s.flatMap JChar.raw

/-- The UTF-16 code unit of a `\u` escape. -/
def JChar.unit : JChar → Option ℕ
  | plain _ => none
  | escape _ => none
  | unicode a b c d => some (((a.val.1 * 16 + b.val) * 16 + c.val) * 16 + d.val)

def IsHigh (u : ℕ) : Prop := 0xD800 ≤ u ∧ u < 0xDC00

def IsLow (u : ℕ) : Prop := 0xDC00 ≤ u ∧ u < 0xE000

instance (u : ℕ) : Decidable (IsHigh u) := inferInstanceAs (Decidable (_ ∧ _))

instance (u : ℕ) : Decidable (IsLow u) := inferInstanceAs (Decidable (_ ∧ _))

/-- The bytes of a code point; a surrogate is none and is replaced. -/
def utf8 (n : ℕ) : Text :=
  String.utf8EncodeChar (if n.isValidChar then Char.ofNat n else Char.ofNat 0xFFFD)

/-- The bytes of a code unit between two others: a pair is written at its second half. -/
def unitBytes (prev next : Option ℕ) (u : ℕ) : Text :=
  if IsHigh u ∧ ∃ lo ∈ next, IsLow lo then []
  else if IsLow u then
    match prev with
    | some hi =>
      if IsHigh hi then utf8 (0x10000 + (hi - 0xD800) * 0x400 + (u - 0xDC00)) else utf8 u
    | none => utf8 u
  else utf8 u

def JChar.bytes (prev next : Option ℕ) (c : JChar) : Text :=
  match c with
  | plain b => [b.1]
  | escape e => [e.byte]
  | unicode .. => unitBytes prev next (c.unit.getD 0)

def decodeFrom (prev : Option ℕ) : JString → Text
  | [] => []
  | c :: s => c.bytes prev (s.head?.bind JChar.unit) ++ decodeFrom c.unit s

def decode (s : JString) : Text := decodeFrom none s

/-- The bytes of numbers, `true`, `false` and `null`. -/
def isScalarByte (b : UInt8) : Bool :=
  (48 ≤ b && b ≤ 57) || (97 ≤ b && b ≤ 122) || (65 ≤ b && b ≤ 90) ||
    b == 43 || b == 45 || b == 46

abbrev Scalar := { t : Text // t ≠ [] ∧ ∀ b ∈ t, isScalarByte b = true }

inductive Value
  | str (s : JString)
  | scalar (lit : Scalar)
  deriving DecidableEq

def quotedRaw (s : JString) : Text := quote :: (raw s ++ [quote])

def Value.render : Value → Text
  | str s => quotedRaw s
  | scalar lit => lit.1

def Value.Unescaped : Value → Prop
  | str s => backslash ∉ raw s
  | scalar _ => True

instance (v : Value) : Decidable v.Unescaped :=
  match v with
  | .str s => inferInstanceAs (Decidable (backslash ∉ raw s))
  | .scalar _ => inferInstanceAs (Decidable True)

/-- A member, with the blanks before and behind its key and its value. -/
structure Member where
  pre : Blanks
  key : JString
  mid : Blanks
  post : Blanks
  value : Value
  fin : Blanks
  deriving DecidableEq

def Member.name (m : Member) : Text := decode m.key

def Member.field (m : Member) : Text := m.post.1 ++ (m.value.render ++ m.fin.1)

def Member.render (m : Member) : Text :=
  m.pre.1 ++ (quotedRaw m.key ++ (m.mid.1 ++ colon :: m.field))

structure Object where
  lead : Blanks
  inner : Blanks
  members : List Member
  trail : Blanks
  distinct : (members.map Member.name).Nodup

theorem Object.name_ne {o : Object} {before behind : List Member} {m x : Member}
    (hms : o.members = before ++ m :: behind) (hx : x ∈ before) : x.name ≠ m.name := by
  intro hn
  have hnodup := o.distinct
  rw [hms, List.map_append, List.map_cons] at hnodup
  exact (List.disjoint_of_nodup_append hnodup) (List.mem_map_of_mem hx)
    (hn ▸ List.mem_cons_self)

def comma : UInt8 := 44

def renderRest (ms : List Member) : Text := ms.flatMap fun m => comma :: m.render

def renderMembers : List Member → Text
  | [] => []
  | m :: ms => m.render ++ renderRest ms

def Object.close (o : Object) : Text := 125 :: o.trail.1

def Object.render (o : Object) : Text :=
  o.lead.1 ++ 123 :: (o.inner.1 ++ (renderMembers o.members ++ o.close))

/-- The bytes of a text that need no escape, as a string. -/
def plainString (t : Text) : JString :=
  t.filterMap fun b =>
    if h : 32 ≤ b ∧ b ≠ quote ∧ b ≠ backslash then some (.plain ⟨b, h⟩) else none

def noBlanks : Blanks := ⟨[], by simp⟩

def tight (key : Text) (v : Value) : Member where
  pre := noBlanks
  key := plainString key
  mid := noBlanks
  post := noBlanks
  value := v
  fin := noBlanks

def tightObject (ms : List Member) (h : (ms.map Member.name).Nodup) : Object where
  lead := noBlanks
  inner := noBlanks
  members := ms
  trail := noBlanks
  distinct := h

theorem blanks_notMem (ws : Blanks) {b : UInt8} (hb : isWs b = false) : b ∉ ws.1 := by
  intro h
  simpa [hb] using ws.2 b h

theorem scalar_notMem (lit : Scalar) {b : UInt8} (hb : isScalarByte b = false) : b ∉ lit.1 := by
  intro h
  simpa [hb] using lit.2.2 b h

theorem hexDigit_letter (h : HexDigit) : isScalarByte h.letter = true := by
  obtain ⟨v, u⟩ := h
  revert v u
  decide

@[simp] theorem raw_nil : raw [] = [] := rfl

@[simp] theorem raw_cons (c : JChar) (s : JString) : raw (c :: s) = c.raw ++ raw s := rfl

theorem raw_plainString {t : Text} (h : ∀ b ∈ t, 32 ≤ b ∧ b ≠ quote ∧ b ≠ backslash) :
    raw (plainString t) = t := by
  induction t with
  | nil => rfl
  | cons b t ih =>
    obtain ⟨hb, ht⟩ := List.forall_mem_cons.mp h
    rw [plainString, List.filterMap_cons_some (dif_pos hb)]
    exact congrArg (b :: ·) (ih ht)

theorem zero_notMem_raw (s : JString) : (0 : UInt8) ∉ raw s := by
  intro h
  obtain ⟨c, -, hc⟩ := List.mem_flatMap.mp h
  cases c with
  | plain b =>
    have hb : 0 = b.1 := by simpa [JChar.raw] using hc
    exact absurd b.2.1 (by simp [← hb])
  | escape e =>
    have hz : ¬ 0 = e.letter := by cases e <;> decide
    simp [JChar.raw, hz, backslash] at hc
  | unicode a b c d =>
    have hz : ∀ x : HexDigit, ¬ 0 = x.letter := by
      intro x hx
      have := hexDigit_letter x
      simp [← hx, isScalarByte] at this
    simp [JChar.raw, hz, backslash] at hc

theorem Member.zero_notMem (m : Member) : (0 : UInt8) ∉ m.render := by
  have hws : ∀ ws : Blanks, (0 : UInt8) ∉ ws.1 := fun ws => blanks_notMem ws (by decide)
  have hstr : ∀ s : JString, (0 : UInt8) ∉ quotedRaw s := by
    intro s
    simpa [quotedRaw, quote] using zero_notMem_raw s
  have hval : (0 : UInt8) ∉ m.value.render := by
    cases m.value with
    | str s => exact hstr s
    | scalar lit => exact scalar_notMem lit (by decide)
  simp [Member.render, Member.field, hws, hstr, hval, colon]

theorem Object.zero_notMem (o : Object) : (0 : UInt8) ∉ o.render := by
  have hws : ∀ ws : Blanks, (0 : UInt8) ∉ ws.1 := fun ws => blanks_notMem ws (by decide)
  have hrest : ∀ ms, (0 : UInt8) ∉ renderRest ms := by
    intro ms h
    obtain ⟨m, -, hm⟩ := List.mem_flatMap.mp h
    simp [comma, m.zero_notMem] at hm
  have hmem : (0 : UInt8) ∉ renderMembers o.members := by
    cases o.members with
    | nil => simp [renderMembers]
    | cons m ms => simpa [renderMembers, m.zero_notMem] using hrest ms
  simp [Object.render, Object.close, hws, hmem]

def isWordByte (b : UInt8) : Bool :=
  (48 ≤ b && b ≤ 57) || (97 ≤ b && b ≤ 122) || (65 ≤ b && b ≤ 90) || b == 95

def IsWord (key : Text) : Prop := key ≠ [] ∧ ∀ b ∈ key, isWordByte b = true

instance (key : Text) : Decidable (IsWord key) := inferInstanceAs (Decidable (_ ∧ _))

/-- The text begins with a byte that ends every word. -/
def Separated (t : Text) : Prop := ∃ c r, t = c :: r ∧ isWordByte c = false

theorem separated_cons {c : UInt8} (hc : isWordByte c = false) (t : Text) : Separated (c :: t) :=
  ⟨c, t, rfl, hc⟩

theorem isWordByte_of_isWs {b : UInt8} (hb : isWs b = true) : isWordByte b = false := by
  simp only [isWs, Bool.or_eq_true, beq_iff_eq] at hb
  rcases hb with ((rfl | rfl) | rfl) | rfl <;> decide

theorem separated_blanks (ws : Blanks) {t : Text} (h : Separated t) : Separated (ws.1 ++ t) := by
  obtain ⟨ws, hws⟩ := ws
  cases ws with
  | nil => exact h
  | cons b ws =>
    exact separated_cons (isWordByte_of_isWs (hws b List.mem_cons_self)) _

/-- Written between quotes, the string ends with a quoted `key`: it is the key, or an escaped
quote stands before the key at its end. -/
def Spells (key : Text) (s : JString) : Prop := raw s = key ∨ quote :: key <:+ raw s

instance (key : Text) (s : JString) : Decidable (Spells key s) :=
  inferInstanceAs (Decidable (_ ∨ _))

theorem spells_iff {key : Text} {s : JString} (h : quote ∉ raw s) : Spells key s ↔ raw s = key :=
  or_iff_left fun hsuf => h (hsuf.subset List.mem_cons_self)

theorem prefix_raw_iff {key : Text} (hkey : ∀ b ∈ key, isWordByte b = true) (s : JString)
    (rest : Text) : key ++ [quote] <+: raw s ++ quote :: rest ↔ raw s = key := by
  constructor
  · intro h
    induction s generalizing key with
    | nil =>
      cases key with
      | nil => rfl
      | cons k key =>
        have hk := (List.cons_prefix_cons.mp h).1
        have := hkey k List.mem_cons_self
        simp [hk, quote, isWordByte] at this
    | cons c s ih =>
      cases key with
      | nil =>
        cases c with
        | plain b => exact absurd (List.cons_prefix_cons.mp h).1.symm b.2.2.1
        | escape e => exact absurd (List.cons_prefix_cons.mp h).1 (by decide)
        | unicode a b c d => exact absurd (List.cons_prefix_cons.mp h).1 (by decide)
      | cons k key =>
        have hk := hkey k List.mem_cons_self
        cases c with
        | plain b =>
          obtain ⟨rfl, htail⟩ := List.cons_prefix_cons.mp h
          have := ih (fun b hb => hkey b (List.mem_cons_of_mem _ hb)) htail
          simp [JChar.raw, this]
        | escape e =>
          simp [(List.cons_prefix_cons.mp h).1, backslash, isWordByte] at hk
        | unicode a b c d =>
          simp [(List.cons_prefix_cons.mp h).1, backslash, isWordByte] at hk
  · rintro rfl
    exact ⟨rest, by simp⟩

theorem strstr_quote {key : Text} (hkey : IsWord key) (s : JString) (rest : Text) :
    strstr (quote :: (raw s ++ quote :: rest)) (quoted key) =
      if raw s = key then some (quoted key ++ rest)
      else strstr (raw s ++ quote :: rest) (quoted key) := by
  by_cases hraw : raw s = key
  · rw [if_pos hraw, strstr_match ⟨rest, by simp [quoted, hraw]⟩]
    simp [quoted, hraw]
  · rw [if_neg hraw, strstr_cons]
    intro h
    exact hraw ((prefix_raw_iff hkey.2 s rest).mp (List.cons_prefix_cons.mp h).2)

theorem suffix_skip {key gap r : Text} (h : quote ∉ gap) :
    quote :: key <:+ gap ++ r ↔ quote :: key <:+ r := by
  induction gap with
  | nil => rfl
  | cons b gap ih =>
    obtain ⟨hb, hg⟩ := not_or.mp (mt List.mem_cons.mpr h)
    rw [List.cons_append, List.suffix_cons_iff, ih hg]
    exact or_iff_right fun he => hb (List.cons.inj he).1

theorem quote_notMem_raw {c : JChar} (h : c ≠ .escape .quote) : quote ∉ c.raw := by
  cases c with
  | plain b => simpa [JChar.raw] using b.2.2.1.symm
  | escape e => cases e <;> simp_all [JChar.raw, Escape.letter, quote, backslash]
  | unicode a b c d =>
    have hq : ∀ x : HexDigit, ¬ 34 = x.letter := by
      intro x hx
      have := hexDigit_letter x
      simp [← hx, isScalarByte] at this
    simp [JChar.raw, hq, quote, backslash]

/-- A search that stands inside a string finds the key at the end of that string, or goes on
behind it. -/
theorem strstr_inString {key : Text} (hkey : IsWord key) {rest : Text} (hrest : Separated rest)
    (s : JString) : strstr (raw s ++ quote :: rest) (quoted key) =
      if quote :: key <:+ raw s then some (quoted key ++ rest) else strstr rest (quoted key) := by
  induction s with
  | nil =>
    have hno : ¬ quoted key <+: quote :: rest := by
      intro h
      obtain ⟨k, key, rfl⟩ := List.exists_cons_of_ne_nil hkey.1
      have h := (List.cons_prefix_cons.mp h).2
      obtain ⟨b, rest, rfl, hb⟩ := hrest
      obtain rfl := (List.cons_prefix_cons.mp h).1
      simp [hkey.2 k List.mem_cons_self] at hb
    simp [strstr_cons hno]
  | cons c s ih =>
    by_cases hc : c = .escape .quote
    · subst hc
      have hskip : strstr (raw (.escape .quote :: s) ++ quote :: rest) (quoted key) =
          strstr (quote :: (raw s ++ quote :: rest)) (quoted key) :=
        strstr_skip (show quote ∉ [backslash] by decide)
      have hsuf : quote :: key <:+ raw (.escape .quote :: s) ↔
          raw s = key ∨ quote :: key <:+ raw s := by
        refine (suffix_skip (r := quote :: raw s) (show quote ∉ [backslash] by decide)).trans ?_
        rw [List.suffix_cons_iff, List.cons.injEq, eq_comm (a := key)]
        simp
      rw [hskip, strstr_quote hkey]
      simp only [hsuf, ih]
      by_cases hraw : raw s = key <;> simp [hraw]
    · have hq := quote_notMem_raw hc
      simp only [raw_cons, suffix_skip hq, List.append_assoc]
      exact (strstr_skip hq).trans ih

theorem strstr_token {key : Text} (hkey : IsWord key) {rest : Text} (hrest : Separated rest)
    (s : JString) : strstr (quotedRaw s ++ rest) (quoted key) =
      if Spells key s then some (quoted key ++ rest) else strstr rest (quoted key) := by
  have hform : quotedRaw s ++ rest = quote :: (raw s ++ quote :: rest) := by simp [quotedRaw]
  rw [hform, strstr_quote hkey, strstr_inString hkey hrest]
  by_cases hraw : raw s = key <;> simp [Spells, hraw]

def Value.Spells (key : Text) : Value → Prop
  | str s => FlatJson.Spells key s
  | scalar _ => False

def Member.Spells (key : Text) (m : Member) : Prop :=
  FlatJson.Spells key m.key ∨ m.value.Spells key

instance (key : Text) (v : Value) : Decidable (v.Spells key) :=
  match v with
  | .str s => inferInstanceAs (Decidable (FlatJson.Spells key s))
  | .scalar _ => inferInstanceAs (Decidable False)

instance (key : Text) (m : Member) : Decidable (m.Spells key) :=
  inferInstanceAs (Decidable (_ ∨ _))

section
variable {key rest : Text}

theorem strstr_afterKey {m : Member} :
    strstr (m.mid.1 ++ colon :: m.field ++ rest) (quoted key) =
      strstr (m.value.render ++ (m.fin.1 ++ rest)) (quoted key) := by
  have hgap : quote ∉ m.mid.1 ++ colon :: m.post.1 := by
    simp only [List.mem_append, List.mem_cons, not_or]
    exact ⟨blanks_notMem _ (by decide), by decide, blanks_notMem _ (by decide)⟩
  have hform : m.mid.1 ++ colon :: m.field ++ rest =
      (m.mid.1 ++ colon :: m.post.1) ++ (m.value.render ++ (m.fin.1 ++ rest)) := by
    simp [Member.field]
  rw [hform]
  exact strstr_skip hgap

theorem strstr_member {m : Member} : strstr (m.render ++ rest) (quoted key) =
    strstr (quotedRaw m.key ++ (m.mid.1 ++ colon :: m.field ++ rest)) (quoted key) := by
  have hform : m.render ++ rest =
      m.pre.1 ++ (quotedRaw m.key ++ (m.mid.1 ++ colon :: m.field ++ rest)) := by
    simp [Member.render]
  rw [hform]
  exact strstr_skip (blanks_notMem _ (by decide))

theorem separated_afterKey (m : Member) : Separated (m.mid.1 ++ colon :: m.field ++ rest) := by
  rw [List.append_assoc]
  exact separated_blanks m.mid (separated_cons (by decide) _)

theorem separated_rest (ms : List Member) (hrest : Separated rest) :
    Separated (renderRest ms ++ rest) := by
  cases ms with
  | nil => exact hrest
  | cons m ms => exact separated_cons (by decide) _

theorem strstr_rest_cons {m : Member} {ms : List Member} :
    strstr (renderRest (m :: ms) ++ rest) (quoted key) =
      strstr (m.render ++ (renderRest ms ++ rest)) (quoted key) := by
  have hform : renderRest (m :: ms) ++ rest = [comma] ++ (m.render ++ (renderRest ms ++ rest)) := by
    simp [renderRest]
  rw [hform]
  exact strstr_skip (by decide)

variable (hkey : IsWord key)
include hkey

theorem strstr_value (hrest : Separated rest) {v : Value} (h : ¬ v.Spells key) :
    strstr (v.render ++ rest) (quoted key) = strstr rest (quoted key) := by
  cases v with
  | str s => exact (strstr_token hkey hrest s).trans (if_neg h)
  | scalar lit => exact strstr_skip (scalar_notMem lit (by decide))

theorem strstr_member_key {m : Member} (h : FlatJson.Spells key m.key) :
    strstr (m.render ++ rest) (quoted key) =
      some (quoted key ++ (m.mid.1 ++ colon :: m.field ++ rest)) := by
  rw [strstr_member, strstr_token hkey (separated_afterKey m), if_pos h]

theorem strstr_member_skip {m : Member} (hrest : Separated rest) (h : ¬ m.Spells key) :
    strstr (m.render ++ rest) (quoted key) = strstr rest (quoted key) := by
  obtain ⟨hk, hv⟩ := not_or.mp h
  rw [strstr_member, strstr_token hkey (separated_afterKey m), if_neg hk, strstr_afterKey,
    strstr_value hkey (separated_blanks m.fin hrest) hv]
  exact strstr_skip (blanks_notMem _ (by decide))

theorem strstr_member_isSome {m : Member} (hrest : Separated rest) :
    (strstr (m.render ++ rest) (quoted key)).isSome ↔
      m.Spells key ∨ (strstr rest (quoted key)).isSome := by
  by_cases h : m.Spells key
  · simp only [h, true_or, iff_true]
    by_cases hk : FlatJson.Spells key m.key
    · rw [strstr_member_key hkey hk]
      rfl
    · rw [strstr_member, strstr_token hkey (separated_afterKey m), if_neg hk,
        strstr_afterKey]
      cases hv : m.value with
      | str s =>
        have hs : FlatJson.Spells key s := by simpa [hk, Member.Spells, hv, Value.Spells] using h
        exact (congrArg Option.isSome (strstr_token hkey (separated_blanks m.fin hrest) s)).trans
          (by rw [if_pos hs]; rfl)
      | scalar lit => simp [hk, Member.Spells, hv, Value.Spells] at h
  · rw [strstr_member_skip hkey hrest h]
    simp [h]

theorem strstr_rest_skip {ms ms' : List Member} (hrest : Separated rest)
    (h : ∀ m ∈ ms, ¬ m.Spells key) : strstr (renderRest (ms ++ ms') ++ rest) (quoted key) =
      strstr (renderRest ms' ++ rest) (quoted key) := by
  induction ms with
  | nil => rfl
  | cons m ms ih =>
    obtain ⟨hm, hms⟩ := List.forall_mem_cons.mp h
    rw [List.cons_append, strstr_rest_cons,
      strstr_member_skip hkey (separated_rest _ hrest) hm, ih hms]

theorem strstr_rest_isSome {ms : List Member} (hrest : Separated rest) :
    (strstr (renderRest ms ++ rest) (quoted key)).isSome ↔
      (∃ m ∈ ms, m.Spells key) ∨ (strstr rest (quoted key)).isSome := by
  induction ms with
  | nil => simp [renderRest]
  | cons m ms ih =>
    rw [strstr_rest_cons, strstr_member_isSome hkey (separated_rest ms hrest), ih]
    simp [or_assoc]

end

section
variable {key : Text} {o : Object}

theorem Object.separated_close (o : Object) : Separated o.close := separated_cons (by decide) _

theorem Object.strstr_close : strstr o.close (quoted key) = none := by
  have hq : quote ∉ o.close := by
    simp only [Object.close, List.mem_cons, not_or]
    exact ⟨by decide, blanks_notMem _ (by decide)⟩
  have h : strstr (o.close ++ []) (quoted key) = strstr [] (quoted key) := strstr_skip hq
  rw [List.append_nil] at h
  exact h.trans (strstr_nil (by simp [quoted]))

theorem Object.strstr_render : strstr o.render (quoted key) =
    strstr (renderRest o.members ++ o.close) (quoted key) := by
  have hgap : quote ∉ o.lead.1 ++ 123 :: o.inner.1 := by
    simp only [List.mem_append, List.mem_cons, not_or]
    exact ⟨blanks_notMem _ (by decide), by decide, blanks_notMem _ (by decide)⟩
  have hform : o.render =
      (o.lead.1 ++ 123 :: o.inner.1) ++ (renderMembers o.members ++ o.close) := by
    simp [Object.render]
  rw [hform]
  refine (strstr_skip hgap).trans ?_
  cases hm : o.members with
  | nil => rfl
  | cons m ms =>
    rw [strstr_rest_cons, renderMembers, List.append_assoc]
    rfl

/-- A quoted word stands in the text of an object exactly when one of its strings spells it. -/
theorem Object.mentions_iff (hkey : IsWord key) :
    (strstr o.render (quoted key)).isSome ↔ ∃ m ∈ o.members, m.Spells key := by
  rw [Object.strstr_render, strstr_rest_isSome hkey o.separated_close,
    Object.strstr_close]
  simp

theorem Object.fieldAfter_none (hkey : IsWord key) {patCap : ℕ} (hcap : key.length + 2 < patCap)
    (h : ∀ m ∈ o.members, ¬ m.Spells key) : fieldAfter patCap o.render key = none := by
  have hs : strstr o.render (quoted key) = none := by
    rw [← Option.not_isSome_iff_eq_none, Object.mentions_iff hkey]
    simpa using h
  simp [fieldAfter, snprintf_quoted hcap, hs]

/-- The search reads the value of the first member that spells the word, when its key does. -/
theorem Object.fieldAfter_first (hkey : IsWord key) {patCap : ℕ} (hcap : key.length + 2 < patCap)
    {before behind : List Member} {m : Member} (hms : o.members = before ++ m :: behind)
    (hbefore : ∀ m ∈ before, ¬ m.Spells key) (hm : FlatJson.Spells key m.key) :
    fieldAfter patCap o.render key = some (m.field ++ (renderRest behind ++ o.close)) := by
  have hmid : colon ∉ m.mid.1 := blanks_notMem _ (by decide)
  have hs : strstr o.render (quoted key) = some (quoted key ++
      (m.mid.1 ++ colon :: m.field ++ (renderRest behind ++ o.close))) := by
    rw [Object.strstr_render, hms, strstr_rest_skip hkey o.separated_close hbefore,
      strstr_rest_cons, strstr_member_key hkey hm]
  simp only [fieldAfter, snprintf_quoted hcap, hs, Option.bind_some, List.drop_left,
    List.append_assoc, List.cons_append, strchr_append hmid, Option.map_some, List.tail_cons]

end

theorem infix_split {pat a b : Text} {c : UInt8} (hc : c ∉ pat) :
    pat <:+: a ++ c :: b ↔ pat <:+: a ∨ pat <:+: b := by
  have hpre : ∀ a : Text, pat <+: a ++ c :: b → pat <+: a := by
    intro a h
    rcases List.prefix_or_prefix_of_prefix h (List.prefix_append a (c :: b)) with h' | ⟨x, hx⟩
    · exact h'
    · cases x with
      | nil => exact ⟨[], by simpa using hx.symm⟩
      | cons y x =>
        rw [← hx, List.prefix_append_right_inj] at h
        obtain rfl := (List.cons_prefix_cons.mp h).1
        exact absurd (by simp [← hx]) hc
  constructor
  · intro h
    induction a with
    | nil =>
      rcases List.infix_cons_iff.mp h with h | h
      · exact Or.inl (hpre [] h).isInfix
      · exact Or.inr h
    | cons x a ih =>
      rcases List.infix_cons_iff.mp h with h | h
      · exact Or.inl (hpre (x :: a) h).isInfix
      · exact (ih h).imp_left fun h => h.trans (List.suffix_cons x a).isInfix
  · rintro (h | h)
    · exact h.trans (List.prefix_append a _).isInfix
    · exact h.trans ((List.suffix_cons c b).trans (List.suffix_append a _)).isInfix

/-- The text in which a value can contain a word. -/
def Value.body : Value → Text
  | str s => raw s
  | scalar lit => lit.1

section
variable {word : Text} (hword : IsWord word)
include hword

theorem word_notMem {b : UInt8} (hb : isWordByte b = false) : b ∉ word := by
  intro h
  simp [hword.2 b h] at hb

theorem infix_sep {t : Text} {c : UInt8} (hc : isWordByte c = false) :
    word <:+: c :: t ↔ word <:+: t := by
  have h := infix_split (a := []) (b := t) (word_notMem hword hc)
  simpa [hword.1] using h

theorem infix_blanks (ws : Blanks) (t : Text) : word <:+: ws.1 ++ t ↔ word <:+: t := by
  obtain ⟨ws, hws⟩ := ws
  induction ws with
  | nil => rfl
  | cons b ws ih =>
    obtain ⟨hb, hws⟩ := List.forall_mem_cons.mp hws
    exact (infix_sep hword (isWordByte_of_isWs hb)).trans (ih hws)

theorem infix_gap (a : Text) (ws : Blanks) {rest : Text} (hrest : Separated rest) :
    word <:+: a ++ (ws.1 ++ rest) ↔ word <:+: a ∨ word <:+: rest := by
  obtain ⟨c, t, rfl, hc⟩ := hrest
  obtain ⟨ws, hws⟩ := ws
  cases ws with
  | nil =>
    exact (infix_split (word_notMem hword hc)).trans (or_congr_right (infix_sep hword hc).symm)
  | cons b ws =>
    obtain ⟨hb, hws⟩ := List.forall_mem_cons.mp hws
    refine (infix_split (b := ws ++ c :: t) (word_notMem hword (isWordByte_of_isWs hb))).trans ?_
    rw [infix_blanks hword ⟨ws, hws⟩]

theorem infix_string (s : JString) (t : Text) :
    word <:+: quotedRaw s ++ t ↔ word <:+: raw s ∨ word <:+: t := by
  have hform : quotedRaw s ++ t = quote :: (raw s ++ quote :: t) := by simp [quotedRaw]
  rw [hform, infix_sep hword (by decide), infix_split (word_notMem hword (by decide))]

theorem infix_member (m : Member) {rest : Text} (hrest : Separated rest) :
    word <:+: m.render ++ rest ↔
      (word <:+: raw m.key ∨ word <:+: m.value.body) ∨ word <:+: rest := by
  have hform : m.render ++ rest = m.pre.1 ++ (quotedRaw m.key ++ (m.mid.1 ++
      colon :: (m.post.1 ++ (m.value.render ++ (m.fin.1 ++ rest))))) := by
    simp [Member.render, Member.field]
  have hvalue : word <:+: m.value.render ++ (m.fin.1 ++ rest) ↔
      word <:+: m.value.body ∨ word <:+: rest := by
    cases m.value with
    | str s => exact (infix_string hword s _).trans (or_congr_right (infix_blanks hword m.fin _))
    | scalar lit => exact infix_gap hword lit.1 m.fin hrest
  rw [hform, infix_blanks hword, infix_string hword, infix_blanks hword,
    infix_sep hword (by decide), infix_blanks hword, hvalue, or_assoc]

theorem infix_rest (ms : List Member) {rest : Text} (hrest : Separated rest) :
    word <:+: renderRest ms ++ rest ↔
      (∃ m ∈ ms, word <:+: raw m.key ∨ word <:+: m.value.body) ∨ word <:+: rest := by
  induction ms with
  | nil => simp [renderRest]
  | cons m ms ih =>
    have hform : renderRest (m :: ms) ++ rest = comma :: (m.render ++ (renderRest ms ++ rest)) := by
      simp [renderRest]
    rw [hform, infix_sep hword (by decide), infix_member hword m (separated_rest ms hrest), ih]
    simp [or_assoc]

/-- A word stands in the text of an object exactly when it stands in one of its strings or
scalars. -/
theorem Object.infix_iff (o : Object) : word <:+: o.render ↔
    ∃ m ∈ o.members, word <:+: raw m.key ∨ word <:+: m.value.body := by
  have hclose : ¬ word <:+: o.close := by
    have hb := infix_blanks hword o.trail []
    rw [List.append_nil] at hb
    rw [Object.close, infix_sep hword (by decide), hb]
    simpa using hword.1
  have hmem : word <:+: renderMembers o.members ++ o.close ↔
      word <:+: renderRest o.members ++ o.close := by
    cases o.members with
    | nil => rfl
    | cons m ms =>
      have hform : renderRest (m :: ms) ++ o.close =
          comma :: (renderMembers (m :: ms) ++ o.close) := by simp [renderRest, renderMembers]
      rw [hform, infix_sep hword (by decide)]
  rw [Object.render, infix_blanks hword, infix_sep hword (by decide), infix_blanks hword, hmem,
    infix_rest hword _ o.separated_close]
  simp [hclose]

end

end IotPlatform.FlatJson
