import IotPlatform.ConfigCache
import IotPlatform.Identity
import IotPlatform.Isolation
import IotPlatform.ParameterRange

/-!
# The configuration over resets

A device that is switched off and on again starts from its NVS image. As long as every write of NVS
succeeds, the cache holds what a reader of NVS would get, and a reset that can read NVS brings the
configuration back as it was.
-/
namespace IotPlatform
open CText CFloat

variable {F : Type} [CFloat F]

/-- What a reader of NVS gets; without the namespace these are the defaults. -/
def flashCfg (nvs : Option NvsImage) : RuntimeCfg := (nvs.map readImage).getD iotConfigSetDefaults

/-- The cache is in use and holds what NVS holds. -/
structure CfgStore.Coherent (st : CfgStore) : Prop where
  ready : st.ready = true
  cache : st.cfg = flashCfg st.nvs

/-- A target build on which every `nvs_set_*` and every commit succeed; `nvs_open` may fail. -/
def WritesHold (P : Platform) : Prop := P.build = .target ∧ AllStored P

theorem flashCfg_cloud (nvs : Option NvsImage) : (flashCfg nvs).cloud < 256 := by
  cases nvs with
  | none => decide
  | some img =>
    refine toUInt8_toUInt32.mp ?_
    simp [flashCfg, readImage]

theorem CfgStore.Coherent.load {st : CfgStore} (h : st.Coherent) (P : Platform)
    (out : RuntimeCfg) : iotConfigLoad P out st = (.ok, st.cfg, st) := by
  obtain ⟨ready, cfg, nvs⟩ := st
  obtain ⟨hready, hcache⟩ := h
  obtain rfl : ready = true := hready
  obtain rfl : cfg = flashCfg nvs := hcache
  have hread : ∀ img, nvsReadable P ⟨true, flashCfg nvs, nvs⟩ = some img → nvs = some img := by
    intro img
    unfold nvsReadable
    split
    · simp
    · split_ifs <;> simp
  unfold iotConfigLoad
  cases himg : nvsReadable P ⟨true, flashCfg nvs, nvs⟩ with
  | none => simp
  | some img =>
    have hcfg : flashCfg nvs = readImage img := by rw [hread img himg]; rfl
    simp [hcfg]

/-- A save stores in both places, or is refused because NVS does not open. -/
theorem CfgStore.Coherent.save {st : CfgStore} (h : st.Coherent) {P : Platform}
    (hP : WritesHold P) {c : RuntimeCfg} (hc : c.cloud < 256) :
    (iotConfigSave P c st).2.Coherent ∧
      (iotConfigSave P c st).2.cfg = if P.nvsOpenWrite = 0 then c else st.cfg := by
  by_cases hw : P.nvsOpenWrite = 0
  · rw [iotConfigSave_target hP.1 h.ready hw, if_pos hw]
    refine ⟨⟨h.ready, ?_⟩, rfl⟩
    exact ((readImage_writeImage_iff hP.2 _ c).mpr hc).symm
  · have hno : ¬ (st.ready = true ∧ SaveOpens P) := by
      rintro ⟨-, hhost | hopen⟩
      · simp [hP.1] at hhost
      · exact hw hopen
    rw [(iotConfigSave_fail c hno).2, if_neg hw]
    exact ⟨h, rfl⟩

theorem cloud_lt {c : Int32} (h : ¬ (c < 0 ∨ iotCloudGcpMqtt < c)) : c.toUInt32 < 256 := by
  obtain ⟨hlow, hhigh⟩ := not_or.mp h
  exact UInt32.lt_of_le_of_lt (toUInt32_le (Int32.not_lt.mp hlow) (Int32.not_lt.mp hhigh))
    (by decide)

section
variable {P : Platform} (hP : WritesHold P)
include hP

theorem provision_coherent {s : SysSt} (h : s.cfg.Coherent) (json : Text) (len : ℕ) :
    (iotProvisionApplyJson P json len s).2.cfg.Coherent := by
  unfold iotProvisionApplyJson
  split_ifs
  · exact h
  · have hcloud : s.cfg.cfg.cloud < 256 := h.cache ▸ flashCfg_cloud _
    rw [h.load]
    exact (h.save hP (c := provisionedCfg P json s.cfg.cfg) hcloud).1

theorem iotUcRun_coherent (id : IotUcId) (inp : IotUcIn F) {d : Device F}
    (h : d.sys.cfg.Coherent) : (iotUcRun P id inp d).st.sys.cfg.Coherent := by
  have hcloud : d.sys.cfg.cfg.cloud < 256 := h.cache ▸ flashCfg_cloud _
  cases id
  case pltFactoryReset => exact (h.save hP (by decide)).1
  case pltSetSampleMs =>
    simp only [iotUcRun, entryFn, onSys, Handler.at, iotUcPltSetSampleMs]
    split_ifs
    · exact h
    · rw [h.load]
      exact (h.save hP
        (c := { d.sys.cfg.cfg with samplePeriodMs := sampleMsAsked inp }) hcloud).1
  case pltProvision =>
    simp only [iotUcRun, entryFn, onSys, Handler.at, iotUcPltProvision]
    split_ifs
    · exact h
    · exact provision_coherent hP h _ _
  case pltOta =>
    simp only [iotUcRun, entryFn, onSys, Handler.at, iotUcPltOta]
    split <;> exact h
  case pltSetCloud =>
    simp only [iotUcRun, entryFn, onSys, Handler.at, iotUcPltSetCloud]
    split_ifs with hrange
    · exact h
    · rw [h.load]
      exact (h.save hP (c := { d.sys.cfg.cfg with cloud := (cloudAsked inp).toUInt32 })
        (cloud_lt hrange)).1
  case pltSetLogLevel =>
    simp only [iotUcRun, entryFn, onSys, Handler.at, iotUcPltSetLogLevel]
    split_ifs <;> exact h
  all_goals exact h

theorem commandActs_coherent : CommandActs (F := F) P fun _ g =>
    ∀ d, d.sys.cfg.Coherent → (g d).2.sys.cfg.Coherent where
  idle _ _ h := h
  refused _ _ h := h
  provision json len _ h := provision_coherent hP h json len
  ota _ _ h := h
  run id json _ h := iotUcRun_coherent hP id (ucInput json) h

end

/-- The platform whose answers an operation depends on. -/
def Op.platform : Op F → Option Platform
  | .command P _ _ => some P
  | .run P _ _ => some P
  | .runJson P _ _ => some P
  | _ => none

theorem Op.apply_coherent (profile : Profile) {op : Op F} (hP : ∀ P ∈ op.platform, WritesHold P)
    {d : Device F} (h : d.sys.cfg.Coherent) : (op.apply profile d).sys.cfg.Coherent := by
  cases op with
  | command P past cmd =>
    exact (commandActs_coherent (hP P rfl)).hook past cmd profile d h
  | run P id inp => exact iotUcRun_coherent (hP P rfl) id inp h
  | runJson P json len => exact (commandActs_coherent (hP P rfl)).text json len .zero d h
  | _ => exact h

/-- What may happen to a device over its life: an operation, or a reset after which it boots from
the NVS image that it has. -/
inductive Life (F : Type)
  | op (o : Op F)
  | reset (P : Platform) (wdtReset : Bool)

def Life.apply (profile : Profile) (d : Device F) : Life F → Device F
  | .op o => o.apply profile d
  | .reset P wdtReset => appMain P profile wdtReset d.sys.cfg.nvs

def Device.live (profile : Profile) (d : Device F) (life : List (Life F)) : Device F :=
  life.foldl (Life.apply profile) d

/-- Writes of NVS succeed, and a device that boots can read NVS. -/
def Life.Sound : Life F → Prop
  | .op o => ∀ P ∈ o.platform, WritesHold P
  | .reset P _ => WritesHold P ∧ P.nvsOpenRead = 0

/-- The configuration with a default id in place of none, or of that of a device never
provisioned. -/
def adopted (P : Platform) (cfg : RuntimeCfg) : RuntimeCfg :=
  if cfg.deviceId.text = [] ∨ (strstr cfg.deviceId.text (txt "unprovisioned")).isSome then
    { cfg with deviceId := iotSecurityDefaultDeviceId P cfg.deviceId }
  else cfg

/-- A boot that can read NVS brings the configuration back, apart from the id that it may adopt. -/
theorem boot_coherent {P : Platform} (hP : WritesHold P) (hread : P.nvsOpenRead = 0)
    (profile : Profile) (wdtReset : Bool) (nvs : Option NvsImage) :
    let st := (appMain P profile wdtReset nvs : Device F).sys.cfg
    st.Coherent ∧ st.cfg =
      if P.nvsOpenWrite = 0 then adopted P (flashCfg nvs) else flashCfg nvs := by
  have hst : (appMain P profile wdtReset nvs : Device F).sys.cfg =
      adoptDeviceId P ⟨true, iotConfigSetDefaults, nvs⟩ := rfl
  have hload : iotConfigLoad P zeroCfg ⟨true, iotConfigSetDefaults, nvs⟩ =
      (.ok, flashCfg nvs, ⟨true, flashCfg nvs, nvs⟩) := by
    cases nvs with
    | none => simp [iotConfigLoad, nvsReadable, hP.1, hread, flashCfg]
    | some img => simp [iotConfigLoad, nvsReadable, hP.1, hread, flashCfg]
  have hcoh : CfgStore.Coherent ⟨true, flashCfg nvs, nvs⟩ := ⟨rfl, rfl⟩
  rw [hst]
  unfold adoptDeviceId adopted
  simp only [hload]
  split_ifs with hid hw
  · have hsave := hcoh.save hP
      (c := { flashCfg nvs with deviceId := iotSecurityDefaultDeviceId P (flashCfg nvs).deviceId })
      (flashCfg_cloud nvs)
    exact ⟨hsave.1, hsave.2.trans (if_pos hw)⟩
  · have hsave := hcoh.save hP
      (c := { flashCfg nvs with deviceId := iotSecurityDefaultDeviceId P (flashCfg nvs).deviceId })
      (flashCfg_cloud nvs)
    exact ⟨hsave.1, hsave.2.trans (if_neg hw)⟩
  all_goals exact ⟨hcoh, rfl⟩

theorem Life.apply_coherent (profile : Profile) {e : Life F} (he : e.Sound) {d : Device F}
    (h : d.sys.cfg.Coherent) : (e.apply profile d).sys.cfg.Coherent := by
  cases e with
  | op o => exact Op.apply_coherent profile he h
  | reset P wdtReset => exact (boot_coherent he.1 he.2 profile wdtReset _).1

theorem Device.live_coherent (profile : Profile) {life : List (Life F)}
    (hlife : ∀ e ∈ life, e.Sound) {d : Device F} (h : d.sys.cfg.Coherent) :
    (d.live profile life).sys.cfg.Coherent :=
  List.foldlRecOn (motive := fun d : Device F => d.sys.cfg.Coherent) life (Life.apply profile) h
    fun _ hd e he => Life.apply_coherent profile (hlife e he) hd

theorem strstr_isSome_mem {t pat : Text} {b : UInt8} (h : (strstr t pat).isSome) (hb : b ∈ pat) :
    b ∈ t :=
  (strstr_isSome.mp h).subset hb

/-- An id made from a MAC address is not taken for that of a device never provisioned. -/
theorem adopted_adopted {P : Platform} (hb : P.build = .target) (hmac : P.mac ≠ none)
    (P' : Platform) (cfg : RuntimeCfg) : adopted P' (adopted P cfg) = adopted P cfg := by
  obtain ⟨mac, hmac⟩ := Option.ne_none_iff_exists'.mp hmac
  have hid := iotSecurityDefaultDeviceId_mac hb hmac cfg.deviceId
  have hproper : ¬ (macId mac = [] ∨ (strstr (macId mac) (txt "unprovisioned")).isSome) := by
    rintro (h | h)
    · have hlen := macId_length mac
      simp [h] at hlen
    · exact (macId_bytes mac 117 (strstr_isSome_mem h (by decide))).2.2 rfl
  by_cases h : cfg.deviceId.text = [] ∨ (strstr cfg.deviceId.text (txt "unprovisioned")).isSome
  · rw [adopted, adopted, if_pos h]
    refine if_neg ?_
    simpa only [hid] using hproper
  · rw [adopted, adopted, if_neg h, if_neg h]

/-- Whatever operations and resets a device has gone through, every load returns the configuration
in force and changes nothing; a reset brings that configuration back, with a default id if it has
none; and another reset changes nothing more. -/
theorem configuration_survives (profile : Profile) {P : Platform} (hP : WritesHold P)
    (hread : P.nvsOpenRead = 0) (wdtReset : Bool) (nvs : Option NvsImage) {life : List (Life F)}
    (hlife : ∀ e ∈ life, e.Sound) :
    let d : Device F := (appMain P profile wdtReset nvs).live profile life
    (∀ Q out, iotConfigLoad Q out d.sys.cfg = (.ok, d.sys.cfg.cfg, d.sys.cfg)) ∧
    ∀ Q w, (Life.reset Q w : Life F).Sound → Q.nvsOpenWrite = 0 →
      let d' := Life.apply profile d (.reset Q w)
      d'.sys.cfg.cfg = adopted Q d.sys.cfg.cfg ∧
      (Q.mac ≠ none → ∀ Q' w', (Life.reset Q' w' : Life F).Sound →
        (Life.apply profile d' (.reset Q' w')).sys.cfg.cfg = d'.sys.cfg.cfg) := by
  intro d
  have hd : d.sys.cfg.Coherent :=
    Device.live_coherent profile hlife (boot_coherent hP hread profile wdtReset nvs).1
  refine ⟨fun Q out => hd.load Q out, fun Q w hQ hopen => ?_⟩
  obtain ⟨hcoh, hcfg⟩ := boot_coherent (F := F) hQ.1 hQ.2 profile w d.sys.cfg.nvs
  rw [if_pos hopen, ← hd.cache] at hcfg
  refine ⟨hcfg, fun hmac Q' w' hQ' => ?_⟩
  obtain ⟨-, hcfg'⟩ := boot_coherent (F := F) hQ'.1 hQ'.2 profile w'
    (Life.apply profile d (.reset Q w)).sys.cfg.nvs
  have hsame : adopted Q' (adopted Q d.sys.cfg.cfg) = adopted Q d.sys.cfg.cfg :=
    adopted_adopted hQ.1.1 hmac Q' d.sys.cfg.cfg
  have hflash : flashCfg (Life.apply profile d (.reset Q w)).sys.cfg.nvs =
      adopted Q d.sys.cfg.cfg := hcoh.cache.symm.trans hcfg
  have hnew : (Life.apply profile d (.reset Q w)).sys.cfg.cfg = adopted Q d.sys.cfg.cfg := hcfg
  rw [hflash, hsame, ite_self] at hcfg'
  exact hcfg'.trans hnew.symm

/-- The sampling period is changed, and after a reset the cloud provider. -/
def twoChanges (P : Platform) : List (Life ℚ) :=
  [.op (.runJson P (txt "\x7b\"uc\":\"plt.set_sample_ms\",\"sample_ms\":250\x7d") 42),
    .reset P true,
    .op (.runJson P (txt "\x7b\"uc\":\"plt.set_cloud\",\"cloud\":2\x7d") 32)]

theorem macPlatform_writesHold (mac : Fin 6 → UInt8) : WritesHold (macPlatform mac) :=
  ⟨rfl, fun _ => rfl, rfl⟩

theorem twoChanges_sound {P : Platform} (hP : WritesHold P) (hread : P.nvsOpenRead = 0) :
    ∀ e ∈ twoChanges P, e.Sound := by
  simp [twoChanges, Life.Sound, Op.platform, hP, hread]

theorem two_changes_survive :
    (Life.apply .water
      ((appMain (macPlatform fun _ => 1) .water false none : Device ℚ).live .water
        (twoChanges (macPlatform fun _ => 1)))
      (.reset (macPlatform fun _ => 1) false)).sys.cfg.cfg =
    adopted (macPlatform fun _ => 1)
      ((appMain (macPlatform fun _ => 1) .water false none : Device ℚ).live .water
        (twoChanges (macPlatform fun _ => 1))).sys.cfg.cfg := by
  have hP := macPlatform_writesHold fun _ => 1
  obtain ⟨-, hreset⟩ := configuration_survives .water hP rfl false none (twoChanges_sound hP rfl)
  exact (hreset (macPlatform fun _ => 1) false ⟨hP, rfl⟩ rfl).1

end IotPlatform
