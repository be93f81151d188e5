import IotPlatform.CommandBounds
import IotPlatform.NumericCommands
import IotPlatform.ValidationGate

/-!
# Legacy limit commands

The hooks of energy and industrial rewrite a legacy command to a request of its use case. The
number is read eight bytes behind the start of the word, which has seven letters and a closing
quote: at the colon, where no number begins.
-/
namespace IotPlatform
open CText CFloat KeySearch FlatJson

/-- Laws of `%.1f` and `atof` that hold of floating-point numbers: zero is printed as `0.0`, and
no number from a tenth on is read as zero. -/
class CFloat.ReadsTenths (F : Type) [CFloat F] : Prop where
  fmt_zero : (fmt 1 (ofNumeral (.fin 0) : F)) = txt "0.0"
  ne_zero : ∀ {q : ℚ}, 1 / 10 ≤ q → (ofNumeral (.fin q) : F) ≠ ofNumeral (.fin 0)

instance CFloat.readsTenths_rat : CFloat.ReadsTenths ℚ where
  fmt_zero := by decide +kernel
  ne_zero {q} hq := by
    intro h
    have h : q = 0 := h
    norm_num [h] at hq

/-- A number without a sign, with at most one digit behind a point. -/
structure LimitValue where
  whole : List (Fin 10)
  tenth : Option (Fin 10)
  whole_ne : whole ≠ []

def LimitValue.decimal (x : LimitValue) : Decimal where
  sign := .none
  whole := x.whole
  fraction := x.tenth.map fun t => [t]
  exponent := none
  digits_ne := List.append_ne_nil_of_left_ne_nil x.whole_ne _

def LimitValue.text (x : LimitValue) : Text := x.decimal.text

def LimitValue.value (x : LimitValue) : ℚ := x.decimal.value

theorem zero_lt_ten : 0 < 10 := by decide

theorem seven_lt_ten : 7 < 10 := by decide

/-- The number `0.0`. -/
def zeroLimit : LimitValue :=
  ⟨[⟨0, zero_lt_ten⟩], some ⟨0, zero_lt_ten⟩, List.cons_ne_nil _ _⟩

def sevenLimit : LimitValue := ⟨[⟨7, seven_lt_ten⟩], none, List.cons_ne_nil _ _⟩

theorem zeroLimit_text : zeroLimit.text = txt "0.0" := by
  simp [LimitValue.text, LimitValue.decimal, zeroLimit, Decimal.text, Decimal.unsignedText,
    Decimal.fractionText, Decimal.exponentText, Sign.text, digitText, digitByte, txt]

theorem zeroLimit_value : zeroLimit.value = 0 := by
  simp [LimitValue.value, LimitValue.decimal, zeroLimit, Decimal.value, Decimal.unsignedValue,
    Decimal.frac, digitsValue, Nat.ofDigits_cons]

theorem sevenLimit_value : sevenLimit.value ≠ 0 := by
  simp [LimitValue.value, LimitValue.decimal, sevenLimit, Decimal.value, Decimal.unsignedValue,
    Decimal.frac, digitsValue, Sign.factor]

/-- A quoted word, a colon, the number and the closing brace. -/
def limitMember (word : Text) (x : LimitValue) : Text :=
  quoted word ++ colon :: (x.text ++ [125])

def legacyRequest (word : Text) (x : LimitValue) : Text := 123 :: limitMember word x

def limitRequest (name key : Text) (x : LimitValue) : Text :=
  requestText name (comma :: limitMember key x)

example : legacyRequest (txt "alarm_w") ⟨[3, 5], some 5, by decide⟩ =
    txt "\x7b\"alarm_w\":35.5\x7d" := by decide +kernel

example : limitRequest (txt "energy.set_limits") (txt "over_w") ⟨[3, 5], some 5, by decide⟩ =
    txt "\x7b\"uc\":\"energy.set_limits\",\"over_w\":35.5\x7d" := by decide +kernel

/-- The hook does the same on both payloads, whatever the device has stored and whatever stands
behind the payload array. -/
def SameEffect {F : Type} (hook : Platform → List UInt8 → IotCommandMsg iotJsonSmallLen →
    Device F → IotErr × Device F) (a b : Text) : Prop :=
  ∀ P past d, hook P past (mqttEvent a) d = hook P past (mqttEvent b) d

theorem LimitValue.tenth_le {x : LimitValue} (h : x.value ≠ 0) : 1 / 10 ≤ x.value := by
  have hvalue : x.value = (digitsValue (x.whole ++ x.decimal.frac) : ℚ) /
      10 ^ x.decimal.frac.length := by
    simp [LimitValue.value, LimitValue.decimal, Decimal.value, Decimal.unsignedValue, Sign.factor,
      Decimal.frac]
  have hfrac : x.decimal.frac.length ≤ 1 := by
    cases ht : x.tenth <;> simp [LimitValue.decimal, Decimal.frac, ht]
  have hden : (10 : ℚ) ^ x.decimal.frac.length ≤ 10 :=
    (pow_le_pow_right₀ (by norm_num) hfrac).trans_eq (pow_one _)
  have hnum : 1 ≤ (digitsValue (x.whole ++ x.decimal.frac) : ℚ) := by
    rw [hvalue] at h
    have hne : digitsValue (x.whole ++ x.decimal.frac) ≠ 0 := by
      rintro h0
      simp [h0] at h
    exact_mod_cast Nat.one_le_iff_ne_zero.mpr hne
  rw [hvalue]
  exact div_le_div₀ (by positivity) hnum (by positivity) hden

theorem LimitValue.text_bytes (x : LimitValue) : ∀ b ∈ x.text, isScalarByte b = true := by
  intro b hb
  exact Numeral.isNumeralByte_of_isDecimalByte (Numeral.text_bytes x.decimal b hb)

/-- The number is read as zero only if it is zero. -/
theorem LimitValue.ofNumeral_eq_iff {F : Type} [CFloat F] [CFloat.ReadsTenths F] (x : LimitValue) :
    (ofNumeral (.fin x.value) : F) = ofNumeral (.fin 0) ↔ x.value = 0 := by
  constructor
  · intro h
    by_contra hne
    exact ReadsTenths.ne_zero (x.tenth_le hne) h
  · intro h
    rw [h]

/-- A search for a quoted word steps over another one. -/
theorem strstr_quoted_skip {w key rest : Text} {c : UInt8} (hkey : IsWord key)
    (hw : ∀ b ∈ w, 32 ≤ b ∧ b ≠ quote ∧ b ≠ backslash) (hne : w ≠ key)
    (hc : isWordByte c = false) (hq : c ≠ quote) :
    strstr (quoted w ++ c :: rest) (quoted key) = strstr rest (quoted key) := by
  have hraw : raw (plainString w) = w := raw_plainString hw
  have htoken := strstr_token hkey (separated_cons hc rest) (plainString w)
  have hno : ¬ Spells key (plainString w) := by
    rw [spells_iff (by rw [hraw]; exact fun h => (hw quote h).2.1 rfl), hraw]
    exact hne
  rw [if_neg hno, quotedRaw, hraw] at htoken
  have hgap : quote ∉ [c] := by simpa using hq.symm
  exact htoken.trans (strstr_skip hgap)

/-- What the array keeps of a payload without NUL, and what stands behind a full array. -/
theorem mqttEvent_text {body : Text} (h0 : (0 : UInt8) ∉ body) (past : List UInt8) :
    (mqttEvent body).text past = body.take iotJsonSmallLen ++
      if body.length < iotJsonSmallLen then [] else cstr past := by
  have htake : (0 : UInt8) ∉ body.take iotJsonSmallLen := fun h => h0 (List.mem_of_mem_take h)
  split_ifs with hlen
  · rw [mqttEvent, enqueued_text (Or.inl (by simpa using hlen)), cstr_of_notMem htake,
      List.append_nil]
  · have hrest : iotJsonSmallLen - body.length = 0 := by omega
    rw [IotCommandMsg.text, mqttEvent, enqueued_payload, hrest, List.replicate_zero,
      List.append_nil, cstr_append_of_notMem htake]

theorem mqttEvent_validated (tail : Text) :
    iotSecurityValidateCommand (mqttEvent (123 :: tail)) = .ok := by
  have hhead : (mqttEvent (123 :: tail)).payload.headD 0 = 123 :=
    headD_padTo (by decide) _
  have hlen : ¬ iotJsonSmallLen < (mqttEvent (123 :: tail)).payloadLen :=
    Nat.not_lt.mpr (min_le_right _ _)
  have hpos : (mqttEvent (123 :: tail)).payloadLen ≠ 0 := by
    simp [mqttEvent, enqueued, iotJsonSmallLen]
  simp only [iotSecurityValidateCommand, hhead, hlen, hpos]
  simp

/-- A profile's limit command: the words, the hook that rewrites its legacy form in `bufLen` bytes,
and what its use case stores of the numbers it is given. `other` is another limit of it. -/
structure LimitCommand (F : Type) [CFloat F] where
  hook : Platform → List UInt8 → IotCommandMsg iotJsonSmallLen → Device F → IotErr × Device F
  legacy : Text
  id : IotUcId
  name : Text
  key : Text
  bufLen : ℕ
  store : (Text → Option F) → Device F → Device F
  limit : Device F → F
  otherKey : Text
  other : Device F → F
  registered : (id, name) ∈ sTab
  legacy_ok : IsNumKey legacy
  key_ok : IsNumKey key
  otherKey_ok : IsNumKey otherKey
  otherKey_ne : key ≠ otherKey
  legacy_len : legacy.length = 7
  buf_ok : (limitRequest name key zeroLimit).length < bufLen ∧ bufLen ≤ iotJsonSmallLen
  hook_uc : ∀ {P past cmd d}, cmd.payloadLen ≠ 0 → cmd.hasUc past = true →
    hook P past cmd d = iotServicesHandleCommand P past cmd d
  hook_legacy : ∀ {P past cmd d n}, cmd.payloadLen ≠ 0 → cmd.hasUc past = false →
    cmd.legacyNumber past legacy = some n →
    hook P past cmd d = iotServicesHandleCommand P past (cmd.mapped (snprintf bufLen
      (requestText name (comma :: (quoted key ++ colon :: (fmt 1 (ofNumeral n : F) ++ [125])))))) d
  run : ∀ P t d, (iotUcRun P id (ucInput t) d).err = .ok ∧
    (iotUcRun P id (ucInput t) d).st = store (iotUcJsonF32 t) d
  store_congr : ∀ {look look' : Text → Option F} d, (∀ k, IsNumKey k → look k = look' k) →
    store look d = store look' d
  limit_store : ∀ look d, limit (store look d) = (look key).getD (limit d)
  other_store : ∀ look d, other (store look d) = (look otherKey).getD (other d)
  other_any : ∀ v, ∃ d, other d = v

variable {F : Type} [CFloat F]

def energyStore (look : Text → Option F) (d : Device F) : Device F :=
  { d with
    ucInit := true
    energy := { d.energy with
      overW := (look (txt "over_w")).getD d.energy.overW
      overV := (look (txt "over_v")).getD d.energy.overV
      underV := (look (txt "under_v")).getD d.energy.underV
      overI := (look (txt "over_i")).getD d.energy.overI } }

def industrialStore (look : Text → Option F) (d : Device F) : Device F :=
  { d with
    ucInit := true
    ind := { d.ind with
      tLim := (look (txt "t_lim")).getD d.ind.tLim
      vibLim := (look (txt "vib_lim")).getD d.ind.vibLim
      iLim := (look (txt "i_lim")).getD d.ind.iLim
      pLim := (look (txt "p_lim")).getD d.ind.pLim } }

theorem energy_template (num : Text) :
    txt "\x7b\"uc\":\"energy.set_limits\",\"over_w\":" ++ num ++ txt "\x7d" =
      requestText (txt "energy.set_limits")
        (comma :: (quoted (txt "over_w") ++ colon :: (num ++ [125]))) := by
  simp [requestText, quoted, txt, quote, comma, colon]

theorem industrial_template (num : Text) :
    txt "\x7b\"uc\":\"industrial.set_limits\",\"t_lim\":" ++ num ++ txt "\x7d" =
      requestText (txt "industrial.set_limits")
        (comma :: (quoted (txt "t_lim") ++ colon :: (num ++ [125]))) := by
  simp [requestText, quoted, txt, quote, comma, colon]

theorem energyKeys_ok : ∀ k ∈ [txt "alarm_w", txt "over_w", txt "over_v", txt "under_v",
    txt "over_i"], IsNumKey k := by
  simp [IsNumKey, isKeyByte, txt]

theorem over_w_ok : IsNumKey (txt "over_w") := energyKeys_ok _ (by simp)

theorem over_v_ok : IsNumKey (txt "over_v") := energyKeys_ok _ (by simp)

theorem industrialKeys_ok : ∀ k ∈ [txt "t_alarm", txt "t_lim", txt "vib_lim", txt "i_lim",
    txt "p_lim"], IsNumKey k := by
  simp [IsNumKey, isKeyByte, txt]

theorem energy_registered : (.energySetLimits, txt "energy.set_limits") ∈ sTab :=
  hookRequests_registered _ (by simp)

theorem industrial_registered : (.indSetLimits, txt "industrial.set_limits") ∈ sTab :=
  hookRequests_registered _ (by simp)

theorem energy_buf :
    (limitRequest (txt "energy.set_limits") (txt "over_w") zeroLimit).length < 128 := by
  simp [limitRequest, limitMember, requestText, quoted, zeroLimit_text, txt]

theorem industrial_buf :
    (limitRequest (txt "industrial.set_limits") (txt "t_lim") zeroLimit).length < 96 := by
  simp [limitRequest, limitMember, requestText, quoted, zeroLimit_text, txt]

def energyLimit : LimitCommand F where
  hook := iotProfileEnergyCmd
  legacy := txt "alarm_w"
  id := .energySetLimits
  name := txt "energy.set_limits"
  key := txt "over_w"
  bufLen := 128
  store := energyStore
  limit d := d.energy.overW
  otherKey := txt "over_v"
  other d := d.energy.overV
  registered := energy_registered
  legacy_ok := energyKeys_ok _ (by simp)
  key_ok := over_w_ok
  otherKey_ok := over_v_ok
  otherKey_ne := by simp [txt]
  legacy_len := rfl
  buf_ok := ⟨energy_buf, by decide⟩
  hook_uc hlen huc := by simp only [iotProfileEnergyCmd, hlen, huc, if_false, if_true]
  hook_legacy hlen huc hn := by
    simp only [iotProfileEnergyCmd, hlen, huc, hn, energy_template]
    simp
  run P t d := ⟨rfl, rfl⟩
  store_congr d h := by
    have hsame := fun k hk => h k (energyKeys_ok k hk)
    simp only [energyStore, hsame (txt "over_w") (by simp), hsame (txt "over_v") (by simp),
      hsame (txt "under_v") (by simp), hsame (txt "over_i") (by simp)]
  limit_store _ _ := rfl
  other_store _ _ := rfl
  other_any v :=
    let d : Device F := Device.static F none
    ⟨{ d with energy := { d.energy with overV := v } }, rfl⟩

def industrialLimit : LimitCommand F where
  hook := iotProfileIndustrialCmd
  legacy := txt "t_alarm"
  id := .indSetLimits
  name := txt "industrial.set_limits"
  key := txt "t_lim"
  bufLen := 96
  store := industrialStore
  limit d := d.ind.tLim
  otherKey := txt "vib_lim"
  other d := d.ind.vibLim
  registered := industrial_registered
  legacy_ok := industrialKeys_ok _ (by simp)
  key_ok := industrialKeys_ok _ (by simp)
  otherKey_ok := industrialKeys_ok _ (by simp)
  otherKey_ne := by simp [txt]
  legacy_len := rfl
  buf_ok := ⟨industrial_buf, by decide⟩
  hook_uc {P past cmd d} hlen huc := by
    simp only [iotProfileIndustrialCmd, huc]
    cases cmd.legacyNumber past (txt "t_alarm") <;> rfl
  hook_legacy hlen huc hn := by
    simp only [iotProfileIndustrialCmd, huc, hn, industrial_template]
  run P t d := ⟨rfl, rfl⟩
  store_congr d h := by
    have hsame := fun k hk => h k (industrialKeys_ok k hk)
    simp only [industrialStore, hsame (txt "t_lim") (by simp), hsame (txt "vib_lim") (by simp),
      hsame (txt "i_lim") (by simp), hsame (txt "p_lim") (by simp)]
  limit_store _ _ := rfl
  other_store _ _ := rfl
  other_any v :=
    let d : Device F := Device.static F none
    ⟨{ d with ind := { d.ind with vibLim := v } }, rfl⟩

namespace LimitCommand
variable (c : LimitCommand F) (x : LimitValue)

def useCase : NumCommand where
  id := c.id
  name := c.name
  before := []
  afterComma := 0
  afterColon := 0
  behind := [⟨0, c.key, 0, x.decimal, c.key_ok⟩]
  registered := c.registered
  distinct := List.nodup_singleton _

theorem useCase_text : (c.useCase x).text = limitRequest c.name c.key x := by
  have huc : raw (plainString [117, 99]) = [117, 99] := (c.useCase x).raw_ucKey
  have hname : raw (plainString c.name) = c.name := (c.useCase x).raw_name
  have hkey : raw (plainString c.key) = c.key := raw_plainString c.key_ok.plain
  simp [NumCommand.text, NumCommand.object, NumCommand.members, NumCommand.ucMember, useCase,
    NumMember.member, Object.render, Object.close, renderMembers, renderRest, Member.render,
    Member.field, quotedRaw, Value.render, spaces, noBlanks, huc, hname, hkey, limitRequest,
    limitMember, requestText, quoted, LimitValue.text, txt, quote, colon]

/-- The request gives the limit its number and no other limit any. -/
theorem look_request {k : Text} (hk : IsNumKey k) :
    (iotUcJsonF32 (limitRequest c.name c.key x) k : Option F) =
      if c.key = k then some (ofNumeral (.fin x.value)) else none := by
  have hnumbers : (c.useCase x).numbers = [⟨0, c.key, 0, x.decimal, c.key_ok⟩] := rfl
  rw [← c.useCase_text, iotUcJsonF32]
  split_ifs with h
  · have hmem := hnumbers ▸ List.mem_singleton_self _
    rw [(c.useCase x).num_listed hk hmem h]
    rfl
  · rw [(c.useCase x).num_unlisted hk]
    · rfl
    · intro m hm
      rw [hnumbers, List.mem_singleton] at hm
      rwa [hm]

theorem request_noNul : (0 : UInt8) ∉ limitRequest c.name c.key x := by
  rw [← c.useCase_text]
  exact Object.zero_notMem _

/-- The bus runs the use case that a validated message names. -/
theorem handle {P : Platform} {past : List UInt8} {cmd : IotCommandMsg iotJsonSmallLen}
    (hv : iotSecurityValidateCommand cmd = .ok) (hname : ucNameOf (cmd.text past) = some c.name)
    (d : Device F) : iotServicesHandleCommand P past cmd d =
      (.ok, c.store (iotUcJsonF32 (cmd.text past)) d) := by
  obtain ⟨herr, hst⟩ := c.run P (cmd.text past) d
  rw [iotServicesHandleCommand_uc hv hname, (iotUcIdFromName_name _ c.registered).1, herr, hst]

theorem request_head : ∃ tail, limitRequest c.name c.key x = 123 :: tail := by
  simp [limitRequest, requestText, txt]

theorem hook_request {P : Platform} {past : List UInt8} {rest : Text}
    (htext : (mqttEvent (limitRequest c.name c.key x)).text past = requestText c.name rest)
    (d : Device F) : c.hook P past (mqttEvent (limitRequest c.name c.key x)) d =
      (.ok, c.store (iotUcJsonF32 (requestText c.name rest)) d) := by
  have hname := ucNameOf_request c.registered rest
  have hv : iotSecurityValidateCommand (mqttEvent (limitRequest c.name c.key x)) = .ok := by
    obtain ⟨tail, htail⟩ := c.request_head x
    rw [htail]
    exact mqttEvent_validated tail
  rw [← htext] at hname ⊢
  rw [c.hook_uc (payloadLen_ne_zero hv) (hasKey_of_ucNameOf hname), c.handle hv hname]

theorem hook_fitting {P : Platform} {past : List UInt8}
    (hfit : (limitRequest c.name c.key x).length < iotJsonSmallLen) (d : Device F) :
    c.hook P past (mqttEvent (limitRequest c.name c.key x)) d =
      (.ok, c.store (iotUcJsonF32 (limitRequest c.name c.key x)) d) := by
  refine c.hook_request x ?_ d
  rw [mqttEvent_text (c.request_noNul x), if_pos hfit, List.append_nil,
    List.take_of_length_le hfit.le]
  rfl

theorem text_noQuote : quote ∉ x.text ++ [125] := by
  simp only [List.mem_append, List.mem_singleton, not_or]
  exact ⟨fun h => absurd (x.text_bytes quote h) (by decide), by decide⟩

theorem legacy_noNul : (0 : UInt8) ∉ legacyRequest c.legacy x := by
  have htext : (0 : UInt8) ∉ x.text := fun h => absurd (x.text_bytes 0 h) (by decide)
  simp [legacyRequest, limitMember, quoted, c.legacy_ok.noNul, htext, quote, colon]

theorem legacy_take : (legacyRequest c.legacy x).take iotJsonSmallLen =
    123 :: (quoted c.legacy ++ colon :: (x.text ++ [125]).take 245) := by
  have hhead : (123 :: (quoted c.legacy ++ [colon])).length = 11 := by simp [quoted, c.legacy_len]
  have hsplit : legacyRequest c.legacy x =
      (123 :: (quoted c.legacy ++ [colon])) ++ (x.text ++ [125]) := by
    simp [legacyRequest, limitMember]
  rw [hsplit, List.take_append, hhead, List.take_of_length_le (by rw [hhead]; decide)]
  simp [iotJsonSmallLen]

/-- The bytes of the message from its tenth on: the colon, and what follows it. -/
theorem legacy_memory (past : List UInt8) : ∃ mem,
    (mqttEvent (legacyRequest c.legacy x)).payload ++ past =
      (123 :: quoted c.legacy) ++ colon :: mem := by
  have hbytes := congrArg (· ++ past) (enqueued_payload 0x4D51 (legacyRequest c.legacy x))
  simp only [legacy_take, List.cons_append, List.append_assoc] at hbytes
  exact ⟨_, hbytes⟩

/-- Eight bytes behind the start of the word no number begins. -/
theorem legacyNumber_zero (past : List UInt8) :
    (mqttEvent (legacyRequest c.legacy x)).legacyNumber past c.legacy = some (.fin 0) := by
  obtain ⟨mem, hmem⟩ := c.legacy_memory x past
  have hnul : (0 : UInt8) ∉ (123 :: quoted c.legacy) ++ [colon] := by
    simp [quoted, c.legacy_ok.noNul, quote, colon]
  have htext : (mqttEvent (legacyRequest c.legacy x)).text past =
      [123, quote] ++ (c.legacy ++ quote :: colon :: cstr mem) := by
    rw [IotCommandMsg.text, hmem, List.append_cons, cstr_append_of_notMem hnul]
    simp [quoted]
  have hfind : strstr ((mqttEvent (legacyRequest c.legacy x)).text past) c.legacy =
      some (c.legacy ++ quote :: colon :: cstr mem) := by
    obtain ⟨b, w, hw⟩ := List.exists_cons_of_ne_nil (List.ne_nil_of_length_pos c.legacy_ok.1.1)
    have hb : b ∉ [123, quote] := by
      have := c.legacy_ok.2.1 b (hw ▸ List.mem_cons_self)
      simp only [List.mem_cons, List.not_mem_nil, or_false, not_or]
      constructor <;> rintro rfl <;> revert this <;> decide
    rw [htext, hw, strstr_skip hb]
    exact strstr_match (List.prefix_append _ _)
  have hstart : (mqttEvent (legacyRequest c.legacy x)).legacyStart past c.legacy = some 10 := by
    rw [IotCommandMsg.legacyStart, hfind, htext]
    simp
    omega
  have hdrop : ((123 :: quoted c.legacy) ++ colon :: mem).drop 10 = colon :: mem := by
    have hlen : (123 :: quoted c.legacy).length = 10 := by simp [quoted, c.legacy_len]
    rw [← hlen, List.drop_left]
  rw [IotCommandMsg.legacyNumber, hstart, Option.map_some, hmem, hdrop]
  rfl

theorem legacy_hasUc {past : List UInt8}
    (h : (legacyRequest c.legacy x).length < iotJsonSmallLen ∨
      strstr (cstr past) (quoted (txt "uc")) = none) :
    (mqttEvent (legacyRequest c.legacy x)).hasUc past = false := by
  have hword : IsWord (txt "uc") := NumCommand.isWord_uc
  have hgap : quote ∉ (x.text ++ [125]).take 245 :=
    fun hq => text_noQuote x (List.mem_of_mem_take hq)
  have hbehind : ∀ behind, strstr behind (quoted (txt "uc")) = none →
      strstr (123 :: (quoted c.legacy ++ colon :: ((x.text ++ [125]).take 245 ++ behind)))
        (quoted (txt "uc")) = none := by
    intro behind hnone
    have hbrace : quote ∉ [123] := by decide
    refine (strstr_skip hbrace).trans ?_
    refine (strstr_quoted_skip hword c.legacy_ok.plain c.legacy_ok.2.2 (by decide)
      (by decide)).trans ?_
    exact (strstr_skip hgap).trans hnone
  have hnone : strstr ((mqttEvent (legacyRequest c.legacy x)).text past) (quoted (txt "uc")) =
      none := by
    rw [mqttEvent_text (c.legacy_noNul x), legacy_take, List.cons_append, List.append_assoc,
      List.cons_append]
    refine hbehind _ ?_
    split_ifs with hfit
    · exact strstr_nil (List.cons_ne_nil _ _)
    · exact h.resolve_left hfit
  rw [IotCommandMsg.hasUc, iotUcJsonHasKey, snprintf_quoted (by decide), hnone]
  rfl

/-- A member of its own, written behind the array. -/
def behindArray : Text := quoted c.otherKey ++ colon :: sevenLimit.text

theorem behindArray_noNul : (0 : UInt8) ∉ c.behindArray := by
  have htext : (0 : UInt8) ∉ sevenLimit.text :=
    fun h => absurd (sevenLimit.text_bytes 0 h) (by decide)
  simp [behindArray, quoted, c.otherKey_ok.noNul, htext, quote, colon]

theorem behindArray_noUc : strstr c.behindArray (quoted (txt "uc")) = none := by
  have hword : IsWord (txt "uc") := NumCommand.isWord_uc
  have hgap : quote ∉ sevenLimit.text :=
    fun h => absurd (sevenLimit.text_bytes quote h) (by decide)
  have htail : strstr sevenLimit.text (quoted (txt "uc")) = none := by
    rw [← List.append_nil sevenLimit.text]
    exact (strstr_skip hgap).trans (strstr_nil (List.cons_ne_nil _ _))
  exact (strstr_quoted_skip hword c.otherKey_ok.plain c.otherKey_ok.2.2 (by decide)
    (by decide)).trans htail

/-- A payload that fills the array runs into the memory behind it. -/
theorem request_full {past : List UInt8} (hpast : (0 : UInt8) ∉ past)
    (hfull : ¬ (limitRequest c.name c.key x).length < iotJsonSmallLen) :
    ∃ gap, quote ∉ gap ∧ (mqttEvent (limitRequest c.name c.key x)).text past =
      requestText c.name (comma :: (quoted c.key ++ colon :: (gap ++ past))) := by
  have hname : c.name.length < 48 := (sTab_name _ c.registered).2.2.2
  have hkey := c.key_ok.1.2
  have hsplit : limitRequest c.name c.key x =
      requestText c.name (comma :: (quoted c.key ++ [colon])) ++ (x.text ++ [125]) := by
    simp [limitRequest, limitMember, requestText]
  have hhead : (requestText c.name (comma :: (quoted c.key ++ [colon]))).length ≤
      iotJsonSmallLen := by
    simp [requestText, quoted, iotJsonSmallLen, txt]
    omega
  refine ⟨(x.text ++ [125]).take (iotJsonSmallLen -
    (requestText c.name (comma :: (quoted c.key ++ [colon]))).length), ?_, ?_⟩
  · exact fun hq => text_noQuote x (List.mem_of_mem_take hq)
  · rw [mqttEvent_text (c.request_noNul x), if_neg hfull, cstr_of_notMem hpast, hsplit,
      List.take_append, List.take_of_length_le hhead]
    simp [requestText]

/-- The search for the other limit stops behind the array. -/
theorem look_behindArray {gap : Text} (hgap : quote ∉ gap) :
    (iotUcJsonF32 (requestText c.name (comma :: (quoted c.key ++ colon ::
      (gap ++ c.behindArray)))) c.otherKey : Option F) =
        some (ofNumeral (.fin sevenLimit.value)) := by
  have hword := c.otherKey_ok.isWord
  have hpoint : c.name ≠ c.otherKey := by
    rintro hn
    exact c.otherKey_ok.noPoint (hn ▸ (sTab_bytes _ c.registered).2.1)
  have hform : requestText c.name (comma :: (quoted c.key ++ colon :: (gap ++ c.behindArray))) =
      [123] ++ (quoted (txt "uc") ++ colon :: (quoted c.name ++ comma :: (quoted c.key ++
        colon :: (gap ++ c.behindArray)))) := by
    simp [requestText, quoted, txt, quote, colon]
  have hfind : strstr ([123] ++ (quoted (txt "uc") ++ colon :: (quoted c.name ++ comma ::
      (quoted c.key ++ colon :: (gap ++ c.behindArray))))) (quoted c.otherKey) =
        some c.behindArray := by
    have hbrace : quote ∉ [123] := by decide
    refine (strstr_skip hbrace).trans ?_
    refine (strstr_quoted_skip hword NumCommand.plain_uc (Ne.symm c.otherKey_ok.2.2) (by decide)
      (by decide)).trans ?_
    refine (strstr_quoted_skip hword (c.useCase zeroLimit).name_plain hpoint (by decide)
      (by decide)).trans ?_
    refine (strstr_quoted_skip hword c.key_ok.plain c.otherKey_ne (by decide)
      (by decide)).trans ?_
    exact (strstr_skip hgap).trans (strstr_match (List.prefix_append _ _))
  have hfield : fieldAfter 48 (requestText c.name (comma :: (quoted c.key ++ colon ::
      (gap ++ c.behindArray)))) c.otherKey = some sevenLimit.text := by
    have hcolon : strchr (colon :: sevenLimit.text) colon = some (colon :: sevenLimit.text) :=
      strchr_append (show colon ∉ [] from List.not_mem_nil)
    rw [fieldAfter, snprintf_quoted c.otherKey_ok.cap, hform, hfind, Option.bind_some,
      behindArray, List.drop_left, hcolon]
    rfl
  rw [iotUcJsonF32, iotUcJsonNum, hfield, Option.map_some, LimitValue.text, Numeral.strtod_text]
  rfl

theorem legacy_le_request :
    (legacyRequest c.legacy x).length ≤ (limitRequest c.name c.key x).length := by
  simp [legacyRequest, limitRequest, limitMember, requestText, quoted, c.legacy_len, txt]
  omega

variable [CFloat.ReadsTenths F]

/-- The legacy form is the use-case form with the number zero, whatever number it carries. -/
theorem hook_legacyRequest {P : Platform} {past : List UInt8}
    (h : (legacyRequest c.legacy x).length < iotJsonSmallLen ∨
      strstr (cstr past) (quoted (txt "uc")) = none) (d : Device F) :
    c.hook P past (mqttEvent (legacyRequest c.legacy x)) d =
      (.ok, c.store (iotUcJsonF32 (limitRequest c.name c.key zeroLimit)) d) := by
  have hv : iotSecurityValidateCommand (mqttEvent (legacyRequest c.legacy x)) = .ok :=
    mqttEvent_validated _
  obtain ⟨hbuf, hcap⟩ := c.buf_ok
  have hprint : requestText c.name (comma :: (quoted c.key ++ colon ::
      (fmt 1 (ofNumeral (.fin 0) : F) ++ [125]))) = limitRequest c.name c.key zeroLimit := by
    rw [ReadsTenths.fmt_zero, ← zeroLimit_text]
    rfl
  have hfit : (limitRequest c.name c.key zeroLimit).length < iotJsonSmallLen :=
    hbuf.trans_le hcap
  have hcut : snprintf c.bufLen (limitRequest c.name c.key zeroLimit) =
      limitRequest c.name c.key zeroLimit := List.take_of_length_le (by omega)
  have htext : ((mqttEvent (legacyRequest c.legacy x)).mapped
      (limitRequest c.name c.key zeroLimit)).text past = limitRequest c.name c.key zeroLimit :=
    (cstr_padTo hfit past).trans (cstr_of_notMem (c.request_noNul zeroLimit))
  have hvalid : iotSecurityValidateCommand ((mqttEvent (legacyRequest c.legacy x)).mapped
      (limitRequest c.name c.key zeroLimit)) = .ok := by
    obtain ⟨tail, htail⟩ := c.request_head zeroLimit
    rw [htail] at hfit ⊢
    exact mapped_validated _ hfit.le
  have hname : ucNameOf (((mqttEvent (legacyRequest c.legacy x)).mapped
      (limitRequest c.name c.key zeroLimit)).text past) = some c.name := by
    rw [htext]
    exact ucNameOf_request c.registered _
  rw [c.hook_legacy (payloadLen_ne_zero hv) (c.legacy_hasUc x h) (c.legacyNumber_zero x past),
    hprint, hcut, c.handle hvalid hname, htext]

theorem sameEffect_of_zero (hzero : x.value = 0)
    (hfit : (limitRequest c.name c.key x).length < iotJsonSmallLen) :
    SameEffect c.hook (legacyRequest c.legacy x) (limitRequest c.name c.key x) := by
  intro P past d
  rw [c.hook_legacyRequest x (Or.inl ((c.legacy_le_request x).trans_lt hfit)) d,
    c.hook_fitting x hfit d]
  refine congrArg (Prod.mk IotErr.ok) (c.store_congr d fun k hk => ?_)
  have hvalue : x.value = zeroLimit.value := hzero.trans zeroLimit_value.symm
  rw [c.look_request _ hk, c.look_request _ hk, hvalue]

theorem zero_of_sameEffect (hfit : (limitRequest c.name c.key x).length < iotJsonSmallLen)
    (h : SameEffect c.hook (legacyRequest c.legacy x) (limitRequest c.name c.key x)) :
    x.value = 0 := by
  have hrun := h hostPlatform [] (Device.static F none)
  rw [c.hook_legacyRequest x (Or.inl ((c.legacy_le_request x).trans_lt hfit)),
    c.hook_fitting x hfit] at hrun
  have hlimit := congrArg (fun r : IotErr × Device F => c.limit r.2) hrun
  simp only [c.limit_store, c.look_request _ c.key_ok, if_true, Option.getD_some] at hlimit
  rw [zeroLimit_value] at hlimit
  exact x.ofNumeral_eq_iff.mp hlimit.symm

theorem not_sameEffect_of_full (hfull : ¬ (limitRequest c.name c.key x).length < iotJsonSmallLen) :
    ¬ SameEffect c.hook (legacyRequest c.legacy x) (limitRequest c.name c.key x) := by
  intro h
  obtain ⟨d, hd⟩ := c.other_any (ofNumeral (.fin 0))
  obtain ⟨gap, hgap, htext⟩ := c.request_full x c.behindArray_noNul hfull
  have hnone : strstr (cstr c.behindArray) (quoted (txt "uc")) = none := by
    rw [cstr_of_notMem c.behindArray_noNul]
    exact c.behindArray_noUc
  have hrun := h hostPlatform c.behindArray d
  rw [c.hook_legacyRequest x (Or.inr hnone), c.hook_request x htext] at hrun
  have hother := congrArg (fun r : IotErr × Device F => c.other r.2) hrun
  simp only [c.other_store, c.look_request _ c.otherKey_ok, if_neg c.otherKey_ne,
    c.look_behindArray hgap, Option.getD_none, Option.getD_some, hd] at hother
  exact sevenLimit_value (sevenLimit.ofNumeral_eq_iff.mp hother.symm)

theorem sameEffect_iff :
    SameEffect c.hook (legacyRequest c.legacy x) (limitRequest c.name c.key x) ↔
      x.value = 0 ∧ (limitRequest c.name c.key x).length < iotJsonSmallLen := by
  constructor
  · intro h
    have hfit : (limitRequest c.name c.key x).length < iotJsonSmallLen :=
      not_not.mp fun hfull => c.not_sameEffect_of_full x hfull h
    exact ⟨c.zero_of_sameEffect x hfit h, hfit⟩
  · rintro ⟨hzero, hfit⟩
    exact c.sameEffect_of_zero x hzero hfit

end LimitCommand

/-- A legacy limit command does what its use-case form does exactly when the number is zero and
the use-case form leaves room for a terminator in the payload array. -/
theorem legacy_limits_iff [CFloat.ReadsTenths F] (x : LimitValue) :
    (SameEffect (F := F) iotProfileEnergyCmd (legacyRequest (txt "alarm_w") x)
        (limitRequest (txt "energy.set_limits") (txt "over_w") x) ↔
      x.value = 0 ∧ (limitRequest (txt "energy.set_limits") (txt "over_w") x).length <
        iotJsonSmallLen) ∧
    (SameEffect (F := F) iotProfileIndustrialCmd (legacyRequest (txt "t_alarm") x)
        (limitRequest (txt "industrial.set_limits") (txt "t_lim") x) ↔
      x.value = 0 ∧ (limitRequest (txt "industrial.set_limits") (txt "t_lim") x).length <
        iotJsonSmallLen) :=
  ⟨energyLimit.sameEffect_iff x, industrialLimit.sameEffect_iff x⟩

theorem legacy_limits_iff_rat :
    SameEffect (F := ℚ) iotProfileEnergyCmd (legacyRequest (txt "alarm_w") zeroLimit)
        (limitRequest (txt "energy.set_limits") (txt "over_w") zeroLimit) ∧
      SameEffect (F := ℚ) iotProfileIndustrialCmd (legacyRequest (txt "t_alarm") zeroLimit)
        (limitRequest (txt "industrial.set_limits") (txt "t_lim") zeroLimit) := by
  obtain ⟨henergy, hindustrial⟩ := legacy_limits_iff (F := ℚ) zeroLimit
  exact ⟨henergy.mpr ⟨zeroLimit_value, energy_buf.trans (by decide)⟩,
    hindustrial.mpr ⟨zeroLimit_value, industrial_buf.trans (by decide)⟩⟩

/-- `{"alarm_w":3500}` sets the power limit to zero. -/
theorem alarm_w_sets_zero :
    ¬ SameEffect (F := ℚ) iotProfileEnergyCmd (txt "\x7b\"alarm_w\":3500\x7d")
      (txt "\x7b\"uc\":\"energy.set_limits\",\"over_w\":3500\x7d") := by
  intro h
  have hlegacy : (iotProfileEnergyCmd hostPlatform [] (mqttEvent (txt "\x7b\"alarm_w\":3500\x7d"))
      (appMain hostPlatform .energy false none : Device ℚ)).2.energy.overW = 0 := by
    decide +kernel
  have huc : (iotProfileEnergyCmd hostPlatform []
      (mqttEvent (txt "\x7b\"uc\":\"energy.set_limits\",\"over_w\":3500\x7d"))
      (appMain hostPlatform .energy false none : Device ℚ)).2.energy.overW = 3500 := by
    decide +kernel
  have hsame := h hostPlatform [] (appMain hostPlatform .energy false none)
  rw [hsame, huc] at hlegacy
  norm_num at hlegacy

end IotPlatform
