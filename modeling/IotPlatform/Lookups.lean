import IotPlatform.Services

/-!
# What a command text is read for

Handlers never see a command text except through searches in it. `reads` lists the searches of
each use case, and two texts that answer them alike are the same request.
-/
namespace IotPlatform
open CText CFloat KeySearch

/-- A question that the firmware asks of a command text. -/
inductive Lookup
  /-- `iot_uc_json_has_key`. -/
  | has (key : Text)
  /-- `iot_uc_json_f32` and `iot_uc_json_i32`. -/
  | num (key : Text)
  /-- `iot_uc_json_str` into `outLen` bytes. -/
  | str (key : Text) (outLen : ℕ)
  /-- `extract_str` into `outLen` bytes. -/
  | extract (key : Text) (outLen : ℕ)
  /-- `strstr` for a bare word. -/
  | mention (word : Text)
  /-- The first byte. -/
  | head
  /-- Whether `strlen` exceeds `n`. -/
  | longer (n : ℕ)

/-- The two texts give the same answer. -/
def Lookup.Same (t t' : Text) : Lookup → Prop
  | .has key => iotUcJsonHasKey t key = iotUcJsonHasKey t' key
  | .num key => iotUcJsonNum t key = iotUcJsonNum t' key
  | .str key outLen => iotUcJsonStr t key outLen = iotUcJsonStr t' key outLen
  | .extract key outLen => extractStr t key outLen = extractStr t' key outLen
  | .mention word => (strstr t word).isSome = (strstr t' word).isSome
  | .head => t.head? = t'.head?
  | .longer n => (n < t.length) = (n < t'.length)

def Lookup.member (key : Text) : List Lookup := [.has key, .num key]

def provisioningReads : List Lookup :=
  [.extract (txt "ssid") 33, .extract (txt "pass") 65, .extract (txt "mqtt") 128,
    .extract (txt "user") 64, .extract (txt "mpw") 64]

/-- What each use case looks up in the text of its request. -/
def reads : IotUcId → List Lookup
  | .pltSetSampleMs => Lookup.member (txt "sample_ms") ++ [.num (txt "i0")]
  | .pltProvision => .longer 0 :: .longer 512 :: provisioningReads
  | .pltOta =>
    [.has (txt "ota_url"), .str (txt "ota_url") 200, .str (txt "ota_url") 160]
  | .pltSetCloud => Lookup.member (txt "cloud") ++ [.num (txt "i0")]
  | .pltSetLogLevel => Lookup.member (txt "level") ++ [.num (txt "i0")]
  | .pltCmdSchema => [.head]
  | .energyMeasure =>
    Lookup.member (txt "v") ++ [.num (txt "i"), .num (txt "f0"), .num (txt "f1")]
  | .energyAccum => Lookup.member (txt "dt_ms") ++ [.num (txt "f0")]
  | .energySetLimits =>
    [.num (txt "over_w"), .num (txt "over_v"), .num (txt "under_v"), .num (txt "over_i")]
  | .energyCalibrate => [.num (txt "v_scale"), .num (txt "i_scale")]
  | .energyPf => Lookup.member (txt "pf") ++ [.num (txt "f0")]
  | .indSample =>
    [.num (txt "t"), .num (txt "vib"), .num (txt "i"), .num (txt "p_bar"), .num (txt "f0"),
      .num (txt "f1"), .num (txt "f2")]
  | .indSetLimits =>
    [.num (txt "t_lim"), .num (txt "vib_lim"), .num (txt "i_lim"), .num (txt "p_lim")]
  | .indHoursTick => [.num (txt "f0")]
  | .pmFeatures => Lookup.member (txt "accel") ++ [.num (txt "f0")]
  | .waterMeter => Lookup.member (txt "pulses") ++ [.num (txt "i0")]
  | .waterBillingFreeze => Lookup.member (txt "freeze")
  | .waterSetK => Lookup.member (txt "k") ++ [.num (txt "f0")]
  | .evSample => [.num (txt "i0")]
  | .evStartReq => [.mention (txt "contactor")]
  | .evSession => Lookup.member (txt "session")
  | .autoDtc => Lookup.member (txt "dtc")
  | .trkBeacon => [.num (txt "i0")]
  | .trkMotion => Lookup.member (txt "moving")
  | .trkBattLow => Lookup.member (txt "batt_mv")
  | .trkGeofence => Lookup.member (txt "rssi_lim")
  | .trkSleep => Lookup.member (txt "sleep_s") ++ [.num (txt "i0")]
  | .agriSoil => Lookup.member (txt "moist") ++ [.num (txt "i0")]
  | .agriSchedule => Lookup.member (txt "window_min")
  | .agriInhibit => Lookup.member (txt "inhibit")
  | .coldSample => [.num (txt "t_c"), .num (txt "rh"), .num (txt "f0"), .num (txt "f1")]
  | .coldDoor => Lookup.member (txt "door")
  | .robotEstopReport => Lookup.member (txt "estop")
  | .robotBattery => Lookup.member (txt "batt_mv") ++ [.num (txt "i0")]
  | _ => []

section
variable {F : Type} [CFloat F] (t : Text)

@[simp] theorem ucInput_json : (ucInput t : IotUcIn F).json = some t := rfl

@[simp] theorem ucInput_has (key : Text) :
    (ucInput t : IotUcIn F).has key = iotUcJsonHasKey t key := rfl

@[simp] theorem ucInput_f32 (key : Text) (v : F) :
    (ucInput t).f32 key v = ((iotUcJsonNum t key).map ofNumeral).getD v := rfl

@[simp] theorem ucInput_i32 (key : Text) (v : Int32) : (ucInput t : IotUcIn F).i32 key v =
    ((iotUcJsonNum t key).map fun n => toInt32 (ofNumeral n : F)).getD v := by
  simp [IotUcIn.i32, ucInput, iotUcJsonI32, iotUcJsonF32, Function.comp_def]

@[simp] theorem ucInput_f0 : (ucInput t : IotUcIn F).f 0 =
    ((iotUcJsonNum t (txt "f0")).map ofNumeral).getD (flit 0) := by
  simp [ucInput, iotUcJsonF32, IotUcIn.zero]

@[simp] theorem ucInput_f1 : (ucInput t : IotUcIn F).f 1 =
    ((iotUcJsonNum t (txt "f1")).map ofNumeral).getD (flit 0) := by
  simp [ucInput, iotUcJsonF32, IotUcIn.zero]

@[simp] theorem ucInput_f2 : (ucInput t : IotUcIn F).f 2 =
    ((iotUcJsonNum t (txt "f2")).map ofNumeral).getD (flit 0) := by
  simp [ucInput, iotUcJsonF32, IotUcIn.zero]

@[simp] theorem ucInput_f3 : (ucInput t : IotUcIn F).f 3 = flit 0 := by
  simp [ucInput, IotUcIn.zero]

@[simp] theorem ucInput_i0 : (ucInput t : IotUcIn F).i 0 =
    ((iotUcJsonNum t (txt "i0")).map fun n => toInt32 (ofNumeral n : F)).getD 0 := by
  simp [ucInput, iotUcJsonI32, iotUcJsonF32, IotUcIn.zero, Function.comp_def]

@[simp] theorem ucInput_i1 : (ucInput t : IotUcIn F).i 1 = 0 := by
  simp [ucInput, IotUcIn.zero]

@[simp] theorem ucInput_u (j : Fin 8) : (ucInput t : IotUcIn F).u j = 0 := rfl

@[simp] theorem ucInput_b (j : Fin 8) : (ucInput t : IotUcIn F).b j = false := rfl

theorem pltOtaUrl_ucInput : pltOtaUrl (ucInput t : IotUcIn F) [] =
    (iotUcJsonStr t (txt "ota_url") 200).bind fun u =>
      if u = [] then none else some (u.take 159) := by
  have hstr : ∀ n, iotUcJsonStr t (txt "ota_url") n =
      ((fieldAfter 48 t (txt "ota_url")).bind (quotedValue ucBlank)).map (·.take (n - 1)) :=
    fun _ => rfl
  simp only [pltOtaUrl, otaUrlGiven, ucInput_json, Option.bind_some]
  cases hq : (fieldAfter 48 t (txt "ota_url")).bind (quotedValue ucBlank) with
  | none =>
    have hs1 : (ucInput t : IotUcIn F).s1.text = [] := by
      simp [ucInput, hstr, hq, IotUcIn.zero, CBuf.store, cstr]
    simp [hstr, hq, hs1]
  | some w =>
    obtain ⟨r, hr, -⟩ := Option.bind_eq_some_iff.mp hq
    obtain ⟨p, hp, -⟩ := Option.bind_eq_some_iff.mp hr
    have hkey : iotUcJsonHasKey t (txt "ota_url") = true := by simp only [iotUcJsonHasKey, hp]; rfl
    cases w with
    | nil => simp [hstr, hq, hkey]
    | cons b w => simp [hstr, hq, hkey, snprintf]

end

section
variable {F : Type} [CFloat F] {t t' : Text}

theorem extractInto_congr {cap : ℕ} {key : Text}
    (h : extractStr t key cap = extractStr t' key cap) (buf : CBuf cap) :
    extractInto t key buf = extractInto t' key buf := by
  simp only [extractInto, h]

theorem provisionedCfg_congr (P : Platform) (h : ∀ l ∈ provisioningReads, l.Same t t')
    (cfg : RuntimeCfg) : provisionedCfg P t cfg = provisionedCfg P t' cfg := by
  simp only [provisioningReads, List.forall_mem_cons, Lookup.Same] at h
  obtain ⟨h1, h2, h3, h4, h5, -⟩ := h
  unfold provisionedCfg
  rw [extractInto_congr h1, extractInto_congr h2, extractInto_congr h3,
    extractInto_congr h4, extractInto_congr h5]

theorem iotProvisionApplyJson_congr (P : Platform) (h : ∀ l ∈ provisioningReads, l.Same t t')
    {len len' : ℕ} (hzero : len = 0 ↔ len' = 0) (hlong : 512 < len ↔ 512 < len') (s : SysSt) :
    iotProvisionApplyJson P t len s = iotProvisionApplyJson P t' len' s := by
  simp only [iotProvisionApplyJson, hzero, hlong, provisionedCfg_congr P h]

theorem schemaCmd_validate (t : Text) :
    iotSecurityValidateCommand (schemaCmd (ucInput t : IotUcIn F)) =
      match t.head? with
      | none => .denied
      | some b => if b ≠ 123 ∧ b ≠ 91 then .protocol else .ok := by
  cases t with
  | nil => rfl
  | cons b t =>
    have hhead : (schemaCmd (ucInput (b :: t) : IotUcIn F)).payload.headD 0 = b :=
      headD_padTo (by decide) _
    have hlen : (schemaCmd (ucInput (b :: t) : IotUcIn F)).payloadLen ≠ 0 := by
      simp [schemaCmd, iotJsonSmallLen]
    have hfit : ¬ iotJsonSmallLen < (schemaCmd (ucInput (b :: t) : IotUcIn F)).payloadLen :=
      Nat.not_lt.mpr (Nat.min_le_right _ _)
    have hop : (schemaCmd (ucInput (b :: t) : IotUcIn F)).opcode = 0 := rfl
    simp only [iotSecurityValidateCommand, hhead, hlen, hfit, hop, List.head?_cons]
    simp

theorem pltCmdSchema_congr (P : Platform) (d : Device F) (h : t.head? = t'.head?) :
    iotUcRun P .pltCmdSchema (ucInput t) d =
      iotUcRun P .pltCmdSchema (ucInput t' : IotUcIn F) d := by
  simp only [iotUcRun, entryFn, onSys, Handler.at, iotUcPltCmdSchema, schemaCmd_validate, h]

theorem pltProvision_congr (P : Platform) (d : Device F)
    (h : ∀ l ∈ reads .pltProvision, l.Same t t') :
    iotUcRun P .pltProvision (ucInput t) d =
      iotUcRun P .pltProvision (ucInput t' : IotUcIn F) d := by
  simp only [reads, List.forall_mem_cons, Lookup.Same] at h
  obtain ⟨hempty, hlong, h⟩ := h
  have hnil : t = [] ↔ t' = [] := by
    simp only [eq_iff_iff, List.length_pos_iff] at hempty
    exact not_iff_not.mp hempty
  have hzero : t.length = 0 ↔ t'.length = 0 := by simpa using hnil
  have happly := iotProvisionApplyJson_congr P h hzero (iff_of_eq hlong) d.sys
  by_cases hn : t' = []
  · rw [hn, hnil.mpr hn]
  · have hn' := mt hnil.mp hn
    simp only [iotUcRun, entryFn, onSys, Handler.at, iotUcPltProvision, ucInput_json,
      Option.getD_some, hn, hn', if_false, happly]

theorem pltOta_congr (P : Platform) (d : Device F) (h : ∀ l ∈ reads .pltOta, l.Same t t') :
    iotUcRun P .pltOta (ucInput t) d = iotUcRun P .pltOta (ucInput t' : IotUcIn F) d := by
  simp only [reads, List.forall_mem_cons, Lookup.Same] at h
  obtain ⟨hkey, h200, h160, -⟩ := h
  have hs1 : (ucInput t : IotUcIn F).s1 = (ucInput t' : IotUcIn F).s1 := by
    simp only [ucInput, h160]
  have hgiven : ∀ js, otaUrlGiven (ucInput t : IotUcIn F) js =
      otaUrlGiven (ucInput t' : IotUcIn F) js := by
    simp only [otaUrlGiven, ucInput_json, hkey, h200, hs1, implies_true]
  have hurl : ∀ js,
      pltOtaUrl (ucInput t : IotUcIn F) js = pltOtaUrl (ucInput t' : IotUcIn F) js := by
    intro js
    unfold pltOtaUrl
    rw [hgiven]
    simp only [ucInput_json, Option.bind_some, h160]
  have hrun : iotUcPltOta P (ucInput t : IotUcIn F) .zero d.sys =
      iotUcPltOta P (ucInput t' : IotUcIn F) .zero d.sys := by
    simp only [iotUcPltOta]
    rw [hurl]
  simp only [iotUcRun, entryFn, onSys, Handler.at, hrun]

/-- Texts that answer a use case's searches alike are the same request to it. -/
theorem iotUcRun_congr (P : Platform) (d : Device F) {id : IotUcId}
    (h : ∀ l ∈ reads id, l.Same t t') :
    iotUcRun P id (ucInput t) d = iotUcRun P id (ucInput t' : IotUcIn F) d := by
  cases id
  case pltProvision => exact pltProvision_congr P d h
  case pltOta => exact pltOta_congr P d h
  case pltCmdSchema => exact pltCmdSchema_congr P d (h .head (by simp [reads]))
  all_goals
    simp only [reads, Lookup.member, List.cons_append, List.nil_append, List.forall_mem_cons,
      Lookup.Same] at h
  case pltSetSampleMs | pltSetCloud | pltSetLogLevel =>
    simp only [iotUcRun, entryFn, onSys, Handler.at, iotUcPltSetSampleMs, sampleMsAsked,
      iotUcPltSetCloud, cloudAsked, iotUcPltSetLogLevel, levelAsked, ucInput_has, ucInput_i32,
      ucInput_i0, h]
  case energyMeasure | energyAccum | energySetLimits | energyPf =>
    simp only [iotUcRun, entryFn, onEnergy, Handler.at, iotUcEnergyMeasure, iotUcEnergyLedAlarm,
      iotUcEnergyAccum, iotUcEnergySetLimits, iotUcEnergyPf, pfAsked, ucInput_json, ucInput_has,
      ucInput_f32, ucInput_f0, ucInput_f1, h]
  case energyCalibrate =>
    have hs : calibrateScales (ucInput t) d.energy = calibrateScales (ucInput t') d.energy := by
      simp only [calibrateScales, ucInput_json, ucInput_f32, h]
    simp only [iotUcRun, entryFn, onEnergy, Handler.at, iotUcEnergyCalibrate]
    rw [hs]
  case indSample =>
    have hm : indMeasure (ucInput t) d.ind = indMeasure (ucInput t') d.ind := by
      simp only [indMeasure, ucInput_f32, ucInput_f0, ucInput_f1, ucInput_f2, ucInput_f3, h]
      rfl
    simp only [iotUcRun, entryFn, onInd, Handler.at, iotUcIndSample]
    rw [hm]
  case indSetLimits | indHoursTick =>
    simp only [iotUcRun, entryFn, onInd, Handler.at, iotUcIndSetLimits, iotUcIndHours,
      ucInput_f32, ucInput_f0, h]
  case pmFeatures =>
    simp only [iotUcRun, entryFn, onPm, Handler.at, iotUcPmFeatures, iotUcPmHealth, ucInput_has,
      ucInput_f32, ucInput_f0, h]
  case waterMeter | waterBillingFreeze | waterSetK =>
    simp only [iotUcRun, entryFn, onWater, Handler.at, iotUcWaterMeter, meterPulses,
      iotUcWaterLeak, iotUcWaterBurst, iotUcWaterBilling, iotUcWaterSetK, kAsked, ucInput_has,
      ucInput_f32, ucInput_i32, ucInput_f0, ucInput_i0, ucInput_u, h]
  case evSample | evStartReq | evSession =>
    simp only [iotUcRun, entryFn, onEv, Handler.at, iotUcEvSample, iotUcEvStart,
      mentionsContactor, iotUcEvRejectContactor, iotUcEvSession, ucInput_json, ucInput_has,
      ucInput_i32, ucInput_i0, h]
  case autoDtc =>
    simp only [iotUcRun, entryFn, onCan, Handler.at, iotUcAutoDtc, ucInput_has, ucInput_i32, h]
  case trkBeacon | trkMotion | trkBattLow | trkGeofence | trkSleep =>
    simp only [iotUcRun, entryFn, onTr, Handler.at, iotUcTrkBeacon, iotUcTrkMotion,
      iotUcTrkBatt, iotUcTrkGeo, iotUcTrkSleep, sleepAsked, ucInput_has, ucInput_i32,
      ucInput_i0, ucInput_i1, ucInput_b, h]
  case agriSoil | agriSchedule | agriInhibit =>
    simp only [iotUcRun, entryFn, onAg, Handler.at, iotUcAgriSoil, iotUcAgriSchedule,
      iotUcAgriInhibit, inhibitAsked, ucInput_has, ucInput_i32, ucInput_i0, h]
  case coldSample | coldDoor =>
    simp only [iotUcRun, entryFn, onCd, Handler.at, iotUcColdSample, iotUcColdDoor, ucInput_has,
      ucInput_f32, ucInput_i32, ucInput_f0, ucInput_f1, ucInput_b, h]
  case robotEstopReport | robotBattery =>
    simp only [iotUcRun, entryFn, onRb, Handler.at, iotUcRobotEstop, iotUcRobotBatt,
      ucInput_has, ucInput_i32, ucInput_i0, h]
  all_goals rfl

end

/-- The answer is found within the text, whatever may follow it. -/
def Lookup.Settled (t : Text) : Lookup → Prop
  | .has key => iotUcJsonHasKey t key = true
  | .num key => ∃ r ∈ fieldAfter 48 t key,
      ∃ b ∈ r.dropWhile Numeral.isSpace, Numeral.isNumeralByte b = false
  | .str key _ => ∃ r ∈ fieldAfter 48 t key, Closed ucBlank r
  | .extract key _ => ∃ r ∈ fieldAfter 32 t key, Closed provBlank r
  | .mention word => (strstr t word).isSome = true
  | .head => t ≠ []
  | .longer n => n < t.length

theorem fieldText_append {patCap cap : ℕ} {isBlank : UInt8 → Bool} {t key r : Text}
    (hr : fieldAfter patCap t key = some r) (hc : Closed isBlank r) (more : Text) :
    fieldText patCap isBlank cap (t ++ more) key = fieldText patCap isBlank cap t key := by
  simp only [fieldText, hr, fieldAfter_append hr, Option.bind_some, quotedValue_append hc]

theorem Lookup.Settled.same_append {t : Text} {l : Lookup} (h : l.Settled t) (more : Text) :
    l.Same (t ++ more) t := by
  cases l with
  | has key =>
    obtain ⟨r, hr⟩ := Option.isSome_iff_exists.mp h
    exact (congrArg Option.isSome (strstr_append hr more)).trans h.symm
  | num key =>
    obtain ⟨r, hr, hend⟩ := h
    simp only [Lookup.Same, iotUcJsonNum, Option.mem_def.mp hr, fieldAfter_append hr,
      Option.map_some, Numeral.strtod_append hend]
  | str key outLen =>
    obtain ⟨r, hr, hc⟩ := h
    exact fieldText_append hr hc more
  | extract key outLen =>
    obtain ⟨r, hr, hc⟩ := h
    exact fieldText_append hr hc more
  | mention word =>
    obtain ⟨r, hr⟩ := Option.isSome_iff_exists.mp h
    exact (congrArg Option.isSome (strstr_append hr more)).trans h.symm
  | head =>
    cases t with
    | nil => exact absurd rfl h
    | cons b t => rfl
  | longer n =>
    have hn : n < (t ++ more).length := by
      simp only [Lookup.Settled] at h
      simp only [List.length_append]
      omega
    simp only [Lookup.Same, hn, iff_true_intro (show n < t.length from h)]

theorem Lookup.Settled.same {t : Text} {l : Lookup} (h : l.Settled t) (more more' : Text) :
    l.Same (t ++ more) (t ++ more') := by
  have h1 := h.same_append more
  have h2 := h.same_append more'
  cases l <;> exact Eq.trans h1 h2.symm

end IotPlatform
