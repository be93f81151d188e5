import IotPlatform.NumericCommands
import IotPlatform.Single

/-!
# Integer members

A flat object of integer members under distinct keys. Each member is found under its key and its
text is read as written; the value then passes through `float` on its way to `int32_t`.
-/
namespace IotPlatform
open CText CFloat KeySearch FlatJson

/-- At most 45 of the bytes `[a-z0-9_]`. -/
def IsIntKey (key : Text) : Prop := key.length ≤ 45 ∧ ∀ b ∈ key, isKeyByte b = true

instance (key : Text) : Decidable (IsIntKey key) := inferInstanceAs (Decidable (_ ∧ _))

structure IntMember where
  pre : Blanks
  key : Text
  mid : Blanks
  post : Blanks
  negative : Bool
  digits : List (Fin 10)
  fin : Blanks
  key_ok : IsIntKey key
  digits_ne : digits ≠ []

namespace IntMember
variable (m : IntMember)

def value : ℤ := (if m.negative then -1 else 1) * digitsValue m.digits

def decimal : Decimal where
  sign := if m.negative then .minus else .none
  whole := m.digits
  fraction := none
  exponent := none
  digits_ne := List.append_ne_nil_of_left_ne_nil m.digits_ne _

def member : Member where
  pre := m.pre
  key := plainString m.key
  mid := m.mid
  post := m.post
  value := .scalar ⟨m.decimal.text, m.decimal.text_scalar⟩
  fin := m.fin

theorem decimal_value : m.decimal.value = m.value := by
  unfold Decimal.value Decimal.unsignedValue IntMember.value decimal
  cases m.negative <;> simp [Decimal.frac, Sign.factor]

theorem key_plain : ∀ b ∈ m.key, 32 ≤ b ∧ b ≠ quote ∧ b ≠ backslash :=
  keyBytes_plain m.key_ok.2

theorem raw_key : raw m.member.key = m.key := raw_plainString m.key_plain

theorem name_key : m.member.name = m.key := decode_plainString m.key_plain

end IntMember

structure IntObject where
  lead : Blanks
  inner : Blanks
  members : List IntMember
  trail : Blanks
  distinct : (members.map IntMember.key).Nodup

theorem IntObject.members_distinct (o : IntObject) :
    ((o.members.map IntMember.member).map Member.name).Nodup := by
  have hnames : (o.members.map IntMember.member).map Member.name =
      o.members.map IntMember.key := by
    rw [List.map_map]
    exact List.map_congr_left fun m _ => m.name_key
  exact hnames ▸ o.distinct

def IntObject.object (o : IntObject) : Object where
  lead := o.lead
  inner := o.inner
  members := o.members.map IntMember.member
  trail := o.trail
  distinct := o.members_distinct

def IntObject.text (o : IntObject) : Text := o.object.render

theorem head_afterKey (m : Member) (rest : Text) :
    (m.mid.1 ++ colon :: m.field ++ rest).head? ≠ some quote := by
  intro h
  cases hmid : m.mid.1 with
  | nil => simp [hmid, colon, quote] at h
  | cons b ws =>
    have hb : b = quote := by simpa [hmid] using h
    have hws : isWs b = true := m.mid.2 b (by simp [hmid])
    rw [hb] at hws
    exact absurd hws (by decide)

section
variable {key rest : Text} (hkey : ∀ b ∈ key, isKeyByte b = true)
include hkey

/-- A quoted key is found where it stands; another is skipped with its quotes, also when the key
that is looked for is empty. -/
theorem strstr_quotedKey {s : JString} (hs : quote ∉ raw s) (hsep : Separated rest)
    (hq : rest.head? ≠ some quote) : strstr (quotedRaw s ++ rest) (quoted key) =
      if raw s = key then some (quoted key ++ rest) else strstr rest (quoted key) := by
  have hword : ∀ b ∈ key, isWordByte b = true := fun b hb => (isKeyByte_plain (hkey b hb)).1
  have hform : quotedRaw s ++ rest = quote :: (raw s ++ quote :: rest) := by simp [quotedRaw]
  rw [hform]
  split_ifs with heq
  · rw [strstr_match ⟨rest, by simp [quoted, heq]⟩]
    simp [quoted, heq]
  · have hopen : ¬ quoted key <+: quote :: (raw s ++ quote :: rest) := by
      intro h
      exact heq ((prefix_raw_iff hword s rest).mp (List.cons_prefix_cons.mp h).2)
    have hclose : ¬ quoted key <+: quote :: rest := by
      intro h
      obtain ⟨c, r, rfl, hc⟩ := hsep
      obtain ⟨-, h⟩ := List.cons_prefix_cons.mp h
      cases key with
      | nil => exact hq (congrArg some (List.cons_prefix_cons.mp h).1.symm)
      | cons k key =>
        have hk : isWordByte k = true := hword k List.mem_cons_self
        rw [(List.cons_prefix_cons.mp h).1, hc] at hk
        exact Bool.false_ne_true hk
    exact (strstr_cons hopen).trans ((strstr_skip hs).trans (strstr_cons hclose))

theorem strstr_intMember (m : IntMember) : strstr (m.member.render ++ rest) (quoted key) =
    if m.key = key then
      some (quoted key ++ (m.member.mid.1 ++ colon :: m.member.field ++ rest))
    else strstr rest (quoted key) := by
  have hs : quote ∉ raw m.member.key := by
    rw [m.raw_key]
    exact fun h => (m.key_plain quote h).2.1 rfl
  rw [strstr_member, strstr_quotedKey hkey hs (separated_afterKey _) (head_afterKey _ _),
    m.raw_key, strstr_afterKey]
  have hvalue : strstr (m.member.value.render ++ (m.member.fin.1 ++ rest)) (quoted key) =
      strstr (m.member.fin.1 ++ rest) (quoted key) :=
    strstr_skip (scalar_notMem ⟨m.decimal.text, m.decimal.text_scalar⟩ (by decide))
  rw [hvalue]
  exact congrArg _ (strstr_skip (blanks_notMem _ (by decide)))

theorem strstr_intMembers {before behind : List IntMember} {m : IntMember}
    (hbefore : ∀ x ∈ before, x.key ≠ key) (hm : m.key = key) :
    strstr (renderRest ((before ++ m :: behind).map IntMember.member) ++ rest) (quoted key) =
      some (quoted key ++ (m.member.mid.1 ++ colon :: m.member.field ++
        (renderRest (behind.map IntMember.member) ++ rest))) := by
  induction before with
  | nil =>
    rw [List.nil_append, List.map_cons, strstr_rest_cons, strstr_intMember hkey, if_pos hm]
  | cons x before ih =>
    obtain ⟨hx, htail⟩ := List.forall_mem_cons.mp hbefore
    rw [List.cons_append, List.map_cons, strstr_rest_cons, strstr_intMember hkey, if_neg hx]
    exact ih htail

end

namespace IntObject
variable (o : IntObject)

theorem fieldAfter_text {m : IntMember} (hm : m ∈ o.members) : ∃ b t, isScalarByte b = false ∧
    fieldAfter 48 o.text m.key = some (m.member.field ++ b :: t) := by
  obtain ⟨before, behind, hms⟩ := List.append_of_mem hm
  have hbefore : ∀ x ∈ before, x.key ≠ m.key := by
    intro x hx heq
    have hnodup := o.distinct
    rw [hms, List.map_append, List.map_cons] at hnodup
    exact List.disjoint_of_nodup_append hnodup (List.mem_map_of_mem hx)
      (heq ▸ List.mem_cons_self)
  have hcap : m.key.length + 2 < 48 := by
    have := m.key_ok.1
    omega
  have hfind : strstr (renderRest (o.members.map IntMember.member) ++ o.object.close)
      (quoted m.key) = some (quoted m.key ++ (m.member.mid.1 ++ colon :: m.member.field ++
        (renderRest (behind.map IntMember.member) ++ o.object.close))) := by
    rw [hms]
    exact strstr_intMembers m.key_ok.2 hbefore rfl
  have hmid : colon ∉ m.member.mid.1 := blanks_notMem _ (by decide)
  have hfield : fieldAfter 48 o.text m.key = some (m.member.field ++
      (renderRest (behind.map IntMember.member) ++ o.object.close)) := by
    simp only [fieldAfter, snprintf_quoted hcap, text, Object.strstr_render, object] at hfind ⊢
    simp only [hfind, Option.bind_some, List.drop_left, List.append_assoc, List.cons_append,
      strchr_append hmid, Option.map_some, List.tail_cons]
  rw [hfield]
  cases behind with
  | nil => exact ⟨125, o.trail.1, by decide, rfl⟩
  | cons x behind =>
    exact ⟨comma, x.member.render ++ (renderRest (behind.map IntMember.member) ++ o.object.close),
      by decide, by simp [renderRest]⟩

/-- Every member is read as it is written. -/
theorem num_text {m : IntMember} (hm : m ∈ o.members) :
    iotUcJsonNum o.text m.key = some (.fin m.value) := by
  obtain ⟨b, t, hb, hfield⟩ := o.fieldAfter_text hm
  rw [iotUcJsonNum, hfield, Option.map_some, strtod_field m.member hb, ← m.decimal_value]
  exact congrArg some (Numeral.strtod_text m.decimal)

theorem hasKey_text {m : IntMember} (hm : m ∈ o.members) :
    iotUcJsonHasKey o.text m.key = true := by
  obtain ⟨b, t, -, hfield⟩ := o.fieldAfter_text hm
  obtain ⟨r, hr, -⟩ := Option.bind_eq_some_iff.mp hfield
  exact Option.isSome_iff_exists.mpr ⟨r, hr⟩

theorem i32_text {F : Type} [CFloat F] {m : IntMember} (hm : m ∈ o.members) :
    iotUcJsonI32 F o.text m.key = some (toInt32 (ofNumeral (.fin m.value) : F)) := by
  rw [iotUcJsonI32, iotUcJsonF32, o.num_text hm]
  rfl

/-- The counter that `water.meter` takes from the text. -/
theorem meterPulses_text {F : Type} [CFloat F] {m : IntMember} (hm : m ∈ o.members)
    (hk : m.key = txt "pulses") {inp : IotUcIn F} (hjson : inp.json = some o.text) :
    meterPulses inp = (toInt32 (ofNumeral (.fin m.value) : F)).toUInt32 := by
  have hhas : inp.has (txt "pulses") = true := by
    rw [IotUcIn.has, hjson, ← hk]
    exact o.hasKey_text hm
  rw [meterPulses, if_pos hhas, IotUcIn.i32, hjson, ← hk]
  simp only [o.i32_text hm, Option.getD_some]

end IntObject

theorem isIntKey_pulses : IsIntKey (txt "pulses") := by decide +kernel

def pulsesMember (d : Fin 10) (ds : List (Fin 10)) : IntMember where
  pre := noBlanks
  key := txt "pulses"
  mid := noBlanks
  post := noBlanks
  negative := false
  digits := d :: ds
  fin := noBlanks
  key_ok := isIntKey_pulses
  digits_ne := List.cons_ne_nil d ds

def pulsesObject (d : Fin 10) (ds : List (Fin 10)) : IntObject where
  lead := noBlanks
  inner := noBlanks
  members := [pulsesMember d ds]
  trail := noBlanks
  distinct := List.nodup_singleton _

/-- `n` is a power of two times a number of 24 bits. -/
def ShortSignificand (n : ℤ) : Prop := ∃ (a : ℤ) (k : ℕ), |a| < 2 ^ 24 ∧ n = a * 2 ^ k

theorem int32_exact_iff (n : Int32) :
    (∀ oor, toInt32 (ofNumeral (.fin n.toInt) : Single oor) = n) ↔ ShortSignificand n.toInt :=
  (Single.int32_exact_iff n).trans Significand.fits_intCast_iff

/-- Whatever a cast out of range yields, a member is decoded exactly when it has 24 significant
bits, and so is the count for `water.meter`. -/
theorem integerMember_exact_iff (o : IntObject) (m : IntMember) (hm : m ∈ o.members) (n : Int32)
    (hn : m.value = n.toInt) :
    ((∀ oor, iotUcJsonI32 (Single oor) o.text m.key = some n) ↔ ShortSignificand n.toInt) ∧
    (m.key = txt "pulses" →
      ((∀ oor (inp : IotUcIn (Single oor)), inp.json = some o.text →
        meterPulses inp = n.toUInt32) ↔ ShortSignificand n.toInt)) := by
  refine ⟨?_, fun hk => ?_⟩
  · simp only [o.i32_text hm, Option.some.injEq, hn]
    exact int32_exact_iff n
  · rw [← int32_exact_iff n]
    constructor
    · intro h oor
      have hpulses := h oor { (IotUcIn.zero : IotUcIn (Single oor)) with json := some o.text } rfl
      rw [o.meterPulses_text hm hk rfl, hn] at hpulses
      exact congrArg UInt32.toInt32 hpulses
    · intro h oor inp hjson
      rw [o.meterPulses_text hm hk hjson, hn, h]

theorem isIntKey_tank : IsIntKey (txt "tank_mv") := by decide +kernel

theorem tank_pulses_nodup : [txt "tank_mv", txt "pulses"].Nodup := by decide +kernel

def tankMember (d : Fin 10) (ds : List (Fin 10)) : IntMember :=
  { pulsesMember d ds with
    key := txt "tank_mv"
    negative := true
    key_ok := isIntKey_tank }

/-- A pulse count behind the reading of the tank. -/
def meterObject (tank pulses : Fin 10 × List (Fin 10)) : IntObject :=
  { pulsesObject pulses.1 pulses.2 with
    members := [tankMember tank.1 tank.2, pulsesMember pulses.1 pulses.2]
    distinct := tank_pulses_nodup }

theorem integerMember_exact_second :
    let o := meterObject (1, [5, 0, 0]) (4, [0, 0, 0, 0])
    o.text = txt "\x7b\"tank_mv\":-1500,\"pulses\":40000\x7d" ∧
      (∀ oor, iotUcJsonI32 (Single oor) o.text (txt "tank_mv") = some (-1500)) ∧
      ∀ oor (inp : IotUcIn (Single oor)), inp.json = some o.text → meterPulses inp = 40000 := by
  intro o
  refine ⟨by decide +kernel, ?_, ?_⟩
  · exact (integerMember_exact_iff o (tankMember 1 [5, 0, 0]) List.mem_cons_self (-1500)
      (by decide)).1.mpr ⟨-1500, 0, by decide, by decide⟩
  · exact ((integerMember_exact_iff o (pulsesMember 4 [0, 0, 0, 0])
      (List.mem_cons_of_mem _ List.mem_cons_self) 40000 (by decide)).2 rfl).mpr
        ⟨40000, 0, by decide, by decide⟩

/-- The first count that `float` cannot hold arrives as its neighbour. -/
theorem integerMember_rounded :
    (pulsesObject 1 [6, 7, 7, 7, 2, 1, 7]).text = txt "\x7b\"pulses\":16777217\x7d" ∧
      iotUcJsonI32 (Single fun _ => 0) (pulsesObject 1 [6, 7, 7, 7, 2, 1, 7]).text
        (txt "pulses") = some 16777216 ∧
      meterPulses { (IotUcIn.zero : IotUcIn (Single fun _ => 0)) with
        json := some (pulsesObject 1 [6, 7, 7, 7, 2, 1, 7]).text } = 16777216 := by
  have hm : pulsesMember 1 [6, 7, 7, 7, 2, 1, 7] ∈
      (pulsesObject 1 [6, 7, 7, 7, 2, 1, 7]).members := List.mem_cons_self
  have hvalue : (pulsesMember 1 [6, 7, 7, 7, 2, 1, 7]).value = 16777217 := by decide
  have hfloat : toInt32 (ofNumeral (.fin (16777217 : ℤ)) : Single fun _ => 0) = 16777216 := by
    decide +kernel
  refine ⟨by decide +kernel, ?_, ?_⟩
  · rw [← hfloat, ← hvalue]
    exact IntObject.i32_text _ hm
  · rw [IntObject.meterPulses_text _ hm rfl rfl, hvalue, hfloat]
    rfl

end IotPlatform
