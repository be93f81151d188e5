import IotPlatform.Device

/-!
# `iot_config.c`

The cached configuration and, on the target build, its NVS image.
-/
namespace IotPlatform
open CText

def iotConfigSetDefaults : RuntimeCfg :=
  { zeroCfg with
    deviceId := CBuf.store 32 (txt "esp32c3-unprovisioned")
    mqttUri := CBuf.store 128 (txt "mqtts://mqtt.local:8883")
    samplePeriodMs := 1000 }

def iotConfigInit (st : CfgStore) : IotErr × CfgStore :=
  if st.ready then (.alreadyInit, st)
  else (.ok, { st with cfg := iotConfigSetDefaults, ready := true })

/-- What the `nvs_get_*` calls of `iot_config_load` leave in `tmp`. -/
def readImage (img : NvsImage) : RuntimeCfg :=
  let d := iotConfigSetDefaults
  { deviceId := img.deviceId.getD d.deviceId
    wifiSsid := img.wifiSsid.getD d.wifiSsid
    wifiPass := img.wifiPass.getD d.wifiPass
    mqttUri := img.mqttUri.getD d.mqttUri
    mqttUser := img.mqttUser.getD d.mqttUser
    mqttPass := img.mqttPass.getD d.mqttPass
    samplePeriodMs := img.sampleMs.getD d.samplePeriodMs
    provisioned := img.provisioned.getD 0 ≠ 0
    cloud := (img.cloud.getD 0).toUInt32 }

def NvsImage.empty : NvsImage := ⟨none, none, none, none, none, none, none, none, none⟩

/-- One `nvs_set_*` call. -/
def nvsPut {α : Type} (P : Platform) (k : NvsKey) (v : α) (old : Option α) : Option α :=
  if P.nvsSet k then some v else old

/-- The nine `nvs_set_*` calls of `iot_config_save` and the commit, whose results are ignored. -/
def writeImage (P : Platform) (old : NvsImage) (c : RuntimeCfg) : NvsImage :=
  if P.nvsCommit then
    { deviceId := nvsPut P .deviceId c.deviceId old.deviceId
      wifiSsid := nvsPut P .wifiSsid c.wifiSsid old.wifiSsid
      wifiPass := nvsPut P .wifiPass c.wifiPass old.wifiPass
      mqttUri := nvsPut P .mqttUri c.mqttUri old.mqttUri
      mqttUser := nvsPut P .mqttUser c.mqttUser old.mqttUser
      mqttPass := nvsPut P .mqttPass c.mqttPass old.mqttPass
      sampleMs := nvsPut P .sampleMs c.samplePeriodMs old.sampleMs
      provisioned := nvsPut P .provisioned (if c.provisioned then 1 else 0) old.provisioned
      cloud := nvsPut P .cloud c.cloud.toUInt8 old.cloud }
  else old

/-- The image that `nvs_open(..., NVS_READONLY, ...)` gives access to. -/
def nvsReadable (P : Platform) (st : CfgStore) : Option NvsImage :=
  match P.build with
  | .host => none
  | .target => if P.nvsOpenRead = 0 then st.nvs else none

/-- `iot_config_load`: the code, `*out`, and the store, whose cache takes what NVS holds. -/
def iotConfigLoad (P : Platform) (out : RuntimeCfg) (st : CfgStore) :
    IotErr × RuntimeCfg × CfgStore :=
  if !st.ready then (.notInit, out, st)
  else match nvsReadable P st with
    | none => (.ok, st.cfg, st)
    | some img => (.ok, readImage img, { st with cfg := readImage img })

def iotConfigSave (P : Platform) (inp : RuntimeCfg) (st : CfgStore) : IotErr × CfgStore :=
  if !st.ready then (.notInit, st)
  else match P.build with
    | .host => (.ok, { st with cfg := inp })
    | .target =>
      if P.nvsOpenWrite ≠ 0 then (iotErrFromEsp .target P.nvsOpenWrite, st)
      else (.ok, { st with
        cfg := inp
        nvs := some (writeImage P (st.nvs.getD NvsImage.empty) inp) })

/-- Whether `iot_config_save` can store: always on the host, on the target when NVS opens. -/
def SaveOpens (P : Platform) : Prop := P.build = .host ∨ P.nvsOpenWrite = 0

instance (P : Platform) : Decidable (SaveOpens P) := inferInstanceAs (Decidable (_ ∨ _))

/-- NVS opens, and every write of it succeeds. On the host there is nothing to fail. -/
def NvsWorks (P : Platform) : Prop :=
  P.build = .host ∨
    (P.nvsOpenRead = 0 ∧ P.nvsOpenWrite = 0 ∧ (∀ k, P.nvsSet k = true) ∧ P.nvsCommit = true)

theorem NvsWorks.saveOpens {P : Platform} (h : NvsWorks P) : SaveOpens P := by
  rcases h with h | ⟨-, h, -, -⟩
  · exact Or.inl h
  · exact Or.inr h

theorem hostPlatform_nvsWorks : NvsWorks hostPlatform := Or.inl rfl

@[simp] theorem iotConfigLoad_ready (P : Platform) (out : RuntimeCfg) (st : CfgStore) :
    (iotConfigLoad P out st).2.2.ready = st.ready := by
  unfold iotConfigLoad
  split
  · rfl
  · split <;> rfl

theorem iotConfigSave_fail {P : Platform} {st : CfgStore} (inp : RuntimeCfg)
    (h : ¬ (st.ready = true ∧ SaveOpens P)) :
    (iotConfigSave P inp st).1 ≠ .ok ∧ (iotConfigSave P inp st).2 = st := by
  unfold iotConfigSave
  cases hr : st.ready with
  | false => simp
  | true =>
    have ho : ¬ SaveOpens P := fun ho => h ⟨hr, ho⟩
    obtain ⟨hb, hw⟩ := not_or.mp ho
    cases hP : P.build with
    | host => exact absurd hP hb
    | target => simp [hw, iotErrFromEsp_eq_ok]

theorem iotConfigSave_ok {P : Platform} {st : CfgStore} (inp : RuntimeCfg)
    (hr : st.ready = true) (ho : SaveOpens P) :
    (iotConfigSave P inp st).1 = .ok ∧ (iotConfigSave P inp st).2.cfg = inp := by
  unfold iotConfigSave
  cases hP : P.build with
  | host => simp [hr]
  | target =>
    have hw : P.nvsOpenWrite = 0 := by
      rcases ho with h | h
      · simp [hP] at h
      · exact h
    simp [hr, hw]

theorem iotConfigSave_err_iff {P : Platform} {st : CfgStore} (inp : RuntimeCfg) :
    (iotConfigSave P inp st).1 = .ok ↔ st.ready = true ∧ SaveOpens P := by
  constructor
  · intro h
    by_contra hn
    exact (iotConfigSave_fail inp hn).1 h
  · rintro ⟨hr, ho⟩
    exact (iotConfigSave_ok inp hr ho).1

end IotPlatform
