import IotPlatform.Decimals
import IotPlatform.JsonRequests

/-!
# Commands with numeric members

A command names a use case of the catalog and gives numbers under keys of their own, in any order
and with any number of spaces. No key is found inside another member, so each number is read as it
was written.
-/
namespace IotPlatform
open CText CFloat KeySearch FlatJson

/-- The bytes `[a-z0-9_]`. -/
def isKeyByte (b : UInt8) : Bool := (97 ≤ b && b ≤ 122) || (48 ≤ b && b ≤ 57) || b == 95

/-- A key of 1 to 45 such bytes that is not `uc`. -/
def IsNumKey (key : Text) : Prop :=
  (1 ≤ key.length ∧ key.length ≤ 45) ∧ (∀ b ∈ key, isKeyByte b = true) ∧ key ≠ txt "uc"

instance (key : Text) : Decidable (IsNumKey key) := inferInstanceAs (Decidable (_ ∧ _))

/-- A number under its key, with the spaces behind the comma before it and behind its colon. -/
structure NumMember where
  afterComma : ℕ
  key : Text
  afterColon : ℕ
  value : Decimal
  key_ok : IsNumKey key

/-- The `uc` member stands between the numbers of `before` and those of `behind`. -/
structure NumCommand where
  id : IotUcId
  name : Text
  before : List NumMember
  afterComma : ℕ
  afterColon : ℕ
  behind : List NumMember
  registered : (id, name) ∈ sTab
  distinct : ((before ++ behind).map NumMember.key).Nodup

theorem isWs_replicate (n : ℕ) : ∀ b ∈ List.replicate n (32 : UInt8), isWs b = true := by
  intro b hb
  rw [List.eq_of_mem_replicate hb]
  decide

def spaces (n : ℕ) : Blanks := ⟨List.replicate n 32, isWs_replicate n⟩

theorem Decimal.text_scalar (d : Decimal) : d.text ≠ [] ∧ ∀ b ∈ d.text, isScalarByte b = true := by
  obtain ⟨b, r, hbody, -⟩ := Numeral.unsignedText_head d
  refine ⟨by simp [Decimal.text, hbody], fun b hb => ?_⟩
  exact Numeral.isNumeralByte_of_isDecimalByte (Numeral.text_bytes d b hb)

def NumMember.member (m : NumMember) : Member where
  pre := spaces m.afterComma
  key := plainString m.key
  mid := noBlanks
  post := spaces m.afterColon
  value := .scalar ⟨m.value.text, m.value.text_scalar⟩
  fin := noBlanks

namespace NumCommand
variable (c : NumCommand)

def numbers : List NumMember := c.before ++ c.behind

def ucMember : Member where
  pre := spaces c.afterComma
  key := plainString (txt "uc")
  mid := noBlanks
  post := spaces c.afterColon
  value := .str (plainString c.name)
  fin := noBlanks

def members : List Member :=
  c.before.map NumMember.member ++ c.ucMember :: c.behind.map NumMember.member

end NumCommand

theorem isKeyByte_plain {b : UInt8} (hb : isKeyByte b = true) :
    isWordByte b = true ∧ 32 ≤ b ∧ b ≠ quote ∧ b ≠ backslash ∧ b ≠ 46 := by
  revert b
  decide +kernel

theorem IsNumKey.isWord {key : Text} (h : IsNumKey key) : IsWord key :=
  ⟨List.ne_nil_of_length_pos h.1.1, fun b hb => (isKeyByte_plain (h.2.1 b hb)).1⟩

theorem keyBytes_plain {key : Text} (h : ∀ b ∈ key, isKeyByte b = true) :
    ∀ b ∈ key, 32 ≤ b ∧ b ≠ quote ∧ b ≠ backslash := by
  intro b hb
  obtain ⟨-, h32, hq, hbs, -⟩ := isKeyByte_plain (h b hb)
  exact ⟨h32, hq, hbs⟩

theorem IsNumKey.plain {key : Text} (h : IsNumKey key) :
    ∀ b ∈ key, 32 ≤ b ∧ b ≠ quote ∧ b ≠ backslash := keyBytes_plain h.2.1

theorem IsNumKey.noNul {key : Text} (h : IsNumKey key) : (0 : UInt8) ∉ key :=
  fun hb => absurd (h.plain 0 hb).1 (by decide)

theorem IsNumKey.noPoint {key : Text} (h : IsNumKey key) : 46 ∉ key :=
  fun hb => (isKeyByte_plain (h.2.1 46 hb)).2.2.2.2 rfl

theorem IsNumKey.cap {key : Text} (h : IsNumKey key) : key.length + 2 < 48 := by
  have := h.1.2
  omega

theorem NumMember.raw_key (m : NumMember) : raw m.member.key = m.key :=
  raw_plainString m.key_ok.plain

theorem NumMember.name_key (m : NumMember) : m.member.name = m.key :=
  name_of_raw m.key_ok.isWord m.raw_key

theorem sTab_registered : ∀ e ∈ sTab, e.1 ≠ .invalid ∧ e.1 ≠ .count := by decide +kernel

namespace NumCommand
variable (c : NumCommand)

theorem plain_uc : ∀ b ∈ txt "uc", 32 ≤ b ∧ b ≠ quote ∧ b ≠ backslash := by
  simp [txt, quote, backslash]

theorem raw_ucKey : raw c.ucMember.key = txt "uc" := raw_plainString plain_uc

/-- The name needs no escape. -/
theorem name_plain : ∀ b ∈ c.name, 32 ≤ b ∧ b ≠ quote ∧ b ≠ backslash := by
  obtain ⟨⟨hall, hq, hbs⟩, -⟩ := sTab_bytes _ c.registered
  intro b hb
  exact ⟨of_decide_eq_true (List.all_eq_true.mp hall b hb), ne_of_mem_of_not_mem hb hq,
    ne_of_mem_of_not_mem hb hbs⟩

theorem raw_name : raw (plainString c.name) = c.name := raw_plainString c.name_plain

theorem isWord_uc : IsWord (txt "uc") := by decide +kernel

theorem name_uc : c.ucMember.name = txt "uc" := name_of_raw isWord_uc c.raw_ucKey

theorem members_distinct : (c.members.map Member.name).Nodup := by
  have hnames : ∀ ms : List NumMember,
      (ms.map NumMember.member).map Member.name = ms.map NumMember.key := by
    intro ms
    rw [List.map_map]
    exact List.map_congr_left fun m _ => m.name_key
  rw [members, List.map_append, List.map_cons, hnames, hnames, name_uc, List.nodup_middle,
    ← List.map_append, List.nodup_cons]
  refine ⟨fun h => ?_, c.distinct⟩
  obtain ⟨m, -, hm⟩ := List.mem_map.mp h
  exact m.key_ok.2.2 hm

def object : Object where
  lead := noBlanks
  inner := noBlanks
  members := c.members
  trail := noBlanks
  distinct := c.members_distinct

def text : Text := c.object.render

theorem mem_members {x : Member} :
    x ∈ c.members ↔ x = c.ucMember ∨ ∃ m ∈ c.numbers, m.member = x := by
  simp only [members, numbers, List.mem_append, List.mem_cons, List.mem_map]
  grind

/-- Only keys are found by a search for a quoted word without a point. -/
theorem spells_iff {key : Text} (hpoint : 46 ∉ key) {x : Member} (hx : x ∈ c.members) :
    x.Spells key ↔ raw x.key = key := by
  rcases c.mem_members.mp hx with rfl | ⟨m, -, rfl⟩
  · have hkey : quote ∉ raw c.ucMember.key := by
      rw [raw_ucKey]
      decide +kernel
    obtain ⟨⟨-, hq, -⟩, hname, -⟩ := sTab_bytes _ c.registered
    have hvalue : ¬ c.ucMember.value.Spells key := by
      change ¬ FlatJson.Spells key (plainString c.name)
      rw [FlatJson.spells_iff (by rwa [raw_name]), raw_name]
      rintro rfl
      exact hpoint hname
    exact (or_iff_left hvalue).trans (FlatJson.spells_iff hkey)
  · have hkey : quote ∉ raw m.member.key := by
      rw [m.raw_key]
      exact fun h => (m.key_ok.plain quote h).2.1 rfl
    exact (or_iff_left not_false).trans (FlatJson.spells_iff hkey)

theorem clean {key : Text} (hpoint : 46 ∉ key) : Clean key c.object :=
  fun _ hx => (c.spells_iff hpoint hx).mp

theorem ucNameOf_text : ucNameOf c.text = some c.name := by
  have huc : c.ucMember ∈ c.members := c.mem_members.mpr (Or.inl rfl)
  obtain ⟨⟨-, -, hbs⟩, hpoint, hlen⟩ := sTab_bytes _ c.registered
  have hdec : decode (plainString c.name) = c.name := decode_plainString c.name_plain
  have hne : c.name ≠ [] := List.ne_nil_of_mem hpoint
  have hesc : c.ucMember.value.Unescaped := by
    change backslash ∉ raw (plainString c.name)
    rwa [raw_name]
  have huc_plain : PlainFor ucBlank (txt "uc") c.object := by
    refine ⟨c.clean (by decide +kernel), fun x hx hname => ?_⟩
    rcases c.mem_members.mp hx with rfl | ⟨m, -, rfl⟩
    · refine ⟨c.raw_ucKey, fun b hb => ?_, hesc⟩
      rw [List.eq_of_mem_replicate hb]
      rfl
    · exact absurd (m.name_key.symm.trans hname) m.key_ok.2.2
  rw [← hdec]
  exact ucNameOf_of_plain huc_plain huc c.name_uc rfl (by rwa [hdec]) (by rwa [hdec])

/-- The dispatcher hands the text to the handler that the catalog has for the name. -/
theorem run_text {F : Type} [CFloat F] (P : Platform) {len : ℕ} (hlen : len ≠ 0)
    (out : IotUcOut F) (d : Device F) : ∃ h, entryFn P c.id = some h ∧
      iotUcRunJson P c.text len out d = h (ucInput c.text) .zero { d with ucInit := true } := by
  have hid := iotUcIdFromName_name _ c.registered
  have hcatalog := sTab_registered _ c.registered
  obtain ⟨h, hh⟩ := Option.isSome_iff_exists.mp
    ((entryFn_isSome_iff (F := F) P c.id).mpr hcatalog)
  refine ⟨h, hh, ?_⟩
  rw [iotUcRunJson_of_name hlen c.ucNameOf_text, hid.1]
  simp only [iotUcRun, hh]

section
variable {key : Text} (hkey : IsNumKey key)
include hkey

theorem exists_member_iff :
    (∃ x ∈ c.members, raw x.key = key) ↔ ∃ m ∈ c.numbers, m.key = key := by
  constructor
  · rintro ⟨x, hx, hk⟩
    rcases c.mem_members.mp hx with rfl | ⟨m, hm, rfl⟩
    · exact absurd (hk.symm.trans c.raw_ucKey) hkey.2.2
    · exact ⟨m, hm, m.raw_key.symm.trans hk⟩
  · rintro ⟨m, hm, hk⟩
    exact ⟨m.member, c.mem_members.mpr (Or.inr ⟨m, hm, rfl⟩), m.raw_key.trans hk⟩

theorem hasKey_iff : iotUcJsonHasKey c.text key = true ↔ ∃ m ∈ c.numbers, m.key = key := by
  rw [iotUcJsonHasKey, snprintf_quoted hkey.cap, text, Object.mentions_iff hkey.isWord,
    ← c.exists_member_iff hkey]
  exact exists_congr fun x => and_congr_right fun hx => c.spells_iff hkey.noPoint hx

theorem num_listed {m : NumMember} (hm : m ∈ c.numbers) (hk : m.key = key) :
    iotUcJsonNum c.text key = some (.fin m.value.value) := by
  have hmem : m.member ∈ c.object.members := c.mem_members.mpr (Or.inr ⟨m, hm, rfl⟩)
  obtain ⟨b, t, hb, hfield⟩ := fieldAfter_of_mem hkey.isWord (c.clean hkey.noPoint) hkey.cap hmem
    (m.raw_key.trans hk)
  rw [iotUcJsonNum, text, hfield, Option.map_some, strtod_field m.member hb]
  exact congrArg some (Numeral.strtod_text m.value)

theorem num_unlisted (h : ∀ m ∈ c.numbers, m.key ≠ key) : iotUcJsonNum c.text key = none := by
  have habs : ∀ x ∈ c.object.members, raw x.key ≠ key := by
    intro x hx hk
    obtain ⟨m, hm, hmk⟩ := (c.exists_member_iff hkey).mp ⟨x, hx, hk⟩
    exact h m hm hmk
  have hfield : fieldAfter 48 c.text key = none :=
    fieldAfter_of_absent hkey.isWord (c.clean hkey.noPoint) hkey.cap habs
  rw [iotUcJsonNum, hfield]
  rfl

theorem f32_listed {m : NumMember} (hm : m ∈ c.numbers) (hk : m.key = key) :
    (iotUcJsonF32 c.text key : Option ℚ) = some m.value.value := by
  rw [iotUcJsonF32, c.num_listed hkey hm hk]
  rfl

theorem f32_unlisted (h : ∀ m ∈ c.numbers, m.key ≠ key) :
    (iotUcJsonF32 c.text key : Option ℚ) = none := by
  rw [iotUcJsonF32, c.num_unlisted hkey h]
  rfl

end

end NumCommand

/-- A command with numeric members runs the handler registered for its name, and of every key the
helpers answer what the command lists under it. -/
theorem numCommand_decoded {F : Type} [CFloat F] (c : NumCommand) :
    (∀ (P : Platform) (len : ℕ), len ≠ 0 → ∀ (out : IotUcOut F) (d : Device F),
      ∃ h, entryFn P c.id = some h ∧
        iotUcRunJson P c.text len out d = h (ucInput c.text) .zero { d with ucInit := true }) ∧
    ∀ key, IsNumKey key →
      (iotUcJsonHasKey c.text key = true ↔ ∃ m ∈ c.numbers, m.key = key) ∧
      (∀ m ∈ c.numbers, m.key = key →
        (iotUcJsonF32 c.text key : Option ℚ) = some m.value.value) ∧
      ((∀ m ∈ c.numbers, m.key ≠ key) → (iotUcJsonF32 c.text key : Option ℚ) = none) :=
  ⟨fun P _ hlen out d => c.run_text P hlen out d, fun _ hkey =>
    ⟨c.hasKey_iff hkey, fun _ hm hk => c.f32_listed hkey hm hk, c.f32_unlisted hkey⟩⟩

def wholeNumber (key : Text) (hkey : IsNumKey key) (ds : List (Fin 10)) (hds : ds ≠ []) :
    NumMember where
  afterComma := 0
  key := key
  afterColon := 0
  value := ⟨.none, ds, none, none, List.append_ne_nil_of_left_ne_nil hds _⟩
  key_ok := hkey

/-- The command that `iot_uc.h` gives as its example. -/
def documentedCommand : NumCommand where
  id := .energySetLimits
  name := txt "energy.set_limits"
  before := []
  afterComma := 0
  afterColon := 0
  behind :=
    [wholeNumber (txt "over_w") (by decide +kernel) [3, 5, 0, 0] (List.cons_ne_nil _ _),
      wholeNumber (txt "over_v") (by decide +kernel) [2, 5, 3] (List.cons_ne_nil _ _),
      wholeNumber (txt "under_v") (by decide +kernel) [2, 0, 7] (List.cons_ne_nil _ _),
      wholeNumber (txt "over_i") (by decide +kernel) [1, 6] (List.cons_ne_nil _ _)]
  registered := by decide +kernel
  distinct := by decide +kernel

example : documentedCommand.text = txt ("\x7b\"uc\":\"energy.set_limits\",\"over_w\":3500," ++
    "\"over_v\":253,\"under_v\":207,\"over_i\":16\x7d") := by decide +kernel

theorem documentedCommand_decoded :
    (∃ h, entryFn hostPlatform .energySetLimits = some h ∧
      iotUcRunJson hostPlatform documentedCommand.text 79 .zero (Device.static ℚ none) =
        h (ucInput documentedCommand.text) .zero { Device.static ℚ none with ucInit := true }) ∧
    iotUcJsonHasKey documentedCommand.text (txt "over_v") = true ∧
    (iotUcJsonF32 documentedCommand.text (txt "over_v") : Option ℚ) = some 253 ∧
    (iotUcJsonF32 documentedCommand.text (txt "pf") : Option ℚ) = none := by
  obtain ⟨hrun, hkeys⟩ := numCommand_decoded (F := ℚ) documentedCommand
  obtain ⟨hhas, hlisted, -⟩ := hkeys (txt "over_v") (by decide +kernel)
  obtain ⟨-, -, hunlisted⟩ := hkeys (txt "pf") (by decide +kernel)
  have hmem : wholeNumber (txt "over_v") (by decide +kernel) [2, 5, 3] (List.cons_ne_nil _ _) ∈
      documentedCommand.numbers := List.mem_cons_of_mem _ List.mem_cons_self
  have hvalue : (⟨.none, [2, 5, 3], none, none, by decide⟩ : Decimal).value = 253 := by
    decide +kernel
  refine ⟨hrun hostPlatform 79 (by decide) .zero _, hhas.mpr ⟨_, hmem, rfl⟩, ?_, hunlisted ?_⟩
  · rw [hlisted _ hmem rfl, ← hvalue]
    rfl
  · decide +kernel

end IotPlatform
