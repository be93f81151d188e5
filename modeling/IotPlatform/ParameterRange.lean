import IotPlatform.Executions

/-!
# Parameters stay in range

Seven parameters are tested before they are stored, except the two scales, which are stored first.
Two of the tests ask whether the value lies outside its range, which a `nan` does not.
-/
namespace IotPlatform
open CText CFloat Runs

theorem toUInt32_le {s t : Int32} (h0 : 0 ≤ s) (h : s ≤ t) : s.toUInt32 ≤ t.toUInt32 := by
  rw [UInt32.le_iff_toNat_le, Int32.toNat_toUInt32_of_le h0,
    Int32.toNat_toUInt32_of_le (Int32.le_trans h0 h)]
  exact Int.toNat_le_toNat (Int32.le_iff_toInt_le.mp h)

/-- A sampling period of 50 ms to 60 s and one of the four cloud providers. -/
def RuntimeCfg.InRange (c : RuntimeCfg) : Prop :=
  (50 ≤ c.samplePeriodMs ∧ c.samplePeriodMs ≤ 60000) ∧ c.cloud ≤ 3

/-- What NVS holds of the two is in range. -/
def NvsInRange (nvs : Option NvsImage) : Prop :=
  ∀ img, nvs = some img → (∀ ms, img.sampleMs = some ms → 50 ≤ ms ∧ ms ≤ 60000) ∧
    ∀ c, img.cloud = some c → c ≤ 3

structure CfgStore.InRange (st : CfgStore) : Prop where
  ready : st.ready = true
  cfg : st.cfg.InRange
  nvs : NvsInRange st.nvs

theorem defaults_inRange : iotConfigSetDefaults.InRange := by
  unfold RuntimeCfg.InRange
  decide +kernel

theorem readImage_inRange {img : NvsImage} (h : NvsInRange (some img)) :
    (readImage img).InRange := by
  obtain ⟨hms, hcloud⟩ := h img rfl
  refine ⟨?_, ?_⟩
  · cases hi : img.sampleMs with
    | none => simpa [readImage, hi] using defaults_inRange.1
    | some ms => simpa [readImage, hi] using hms ms hi
  · cases hi : img.cloud with
    | none => simp [readImage, hi]
    | some c =>
      have hc := UInt8.le_iff_toNat_le.mp (hcloud c hi)
      simp only [readImage, hi, Option.getD_some, UInt32.le_iff_toNat_le, UInt8.toNat_toUInt32]
      exact hc

theorem writeImage_inRange (P : Platform) {old : NvsImage} {c : RuntimeCfg}
    (hold : NvsInRange (some old)) (hc : c.InRange) : NvsInRange (some (writeImage P old c)) := by
  rintro img ⟨⟩
  obtain ⟨hms, hcloud⟩ := hold old rfl
  unfold writeImage
  split
  · constructor
    · intro ms
      simp only [nvsPut]
      split
      · rintro ⟨⟩
        exact hc.1
      · exact hms ms
    · intro v
      simp only [nvsPut]
      split
      · rintro ⟨⟩
        have hle := UInt32.le_iff_toNat_le.mp hc.2
        have h3 : (3 : UInt32).toNat = 3 := rfl
        rw [UInt8.le_iff_toNat_le, UInt32.toNat_toUInt8, Nat.mod_eq_of_lt (by omega)]
        exact hle
      · exact hcloud v
  · exact ⟨hms, hcloud⟩

theorem load_inRange (P : Platform) {st : CfgStore} (h : st.InRange) :
    (iotConfigLoad P zeroCfg st).2.1.InRange ∧ (iotConfigLoad P zeroCfg st).2.2.InRange := by
  rw [iotConfigLoad, h.ready, if_neg (by simp)]
  cases hr : nvsReadable P st with
  | none => exact ⟨h.cfg, h⟩
  | some img =>
    have hnvs : st.nvs = some img := by
      unfold nvsReadable at hr
      split at hr
      · cases hr
      · split_ifs at hr
        exact hr
    have himg := readImage_inRange (hnvs ▸ h.nvs)
    exact ⟨himg, rfl, himg, h.nvs⟩

theorem save_inRange (P : Platform) {st : CfgStore} (h : st.InRange) {c : RuntimeCfg}
    (hc : c.InRange) : (iotConfigSave P c st).2.InRange := by
  rw [iotConfigSave, h.ready, if_neg (by simp)]
  cases P.build with
  | host => exact ⟨rfl, hc, h.nvs⟩
  | target =>
    dsimp only
    split_ifs
    · exact h
    · refine ⟨rfl, hc, writeImage_inRange P ?_ hc⟩
      cases hn : st.nvs with
      | none => simp [NvsInRange, NvsImage.empty]
      | some img => exact hn ▸ h.nvs

theorem provision_inRange (P : Platform) (json : Text) (len : ℕ) {s : SysSt}
    (h : s.cfg.InRange) : (iotProvisionApplyJson P json len s).2.cfg.InRange := by
  unfold iotProvisionApplyJson
  split_ifs
  · exact h
  · obtain ⟨hc, hst⟩ := load_inRange P h
    exact save_inRange P hst hc

theorem quietSys_inRange {s s' : SysSt} (hq : QuietSys s s') (h : s.cfg.InRange) :
    s'.cfg.InRange := by
  rcases hq with hq | ⟨P, json, len, rfl⟩
  · rwa [hq]
  · exact provision_inRange P json len h

variable {F : Type} [CFloat F]

def Within (lo hi x : F) : Prop := lo ≤ x ∧ x ≤ hi

/-- A test for lying outside, as the handlers write it: a `nan` passes as inside. -/
def Outside (lo hi x : F) : Prop := x < lo ∨ hi < x

structure ParamsInRange (d : Device F) : Prop where
  vScale : Within (flit 0.1) (flit 10) d.energy.vScale
  iScale : Within (flit 0.1) (flit 10) d.energy.iScale
  pf : Within (flit 0.5) (flit 1) d.energy.pf
  kPpl : Within (flit 0.1) (flit 1000) d.water.kPpl
  sleepS : 5 ≤ d.tr.sleepS ∧ d.tr.sleepS ≤ 3600
  cfg : d.sys.cfg.cfg.InRange

/-- The requests whose values may be stored: scales in range, and a power factor or a pulse rate
that its handler turns away or that is in range. -/
def RequestInRange (inp : IotUcIn F) (s : EnergySt F) : IotUcId → Prop
  | .energyCalibrate => Within (flit 0.1) (flit 10) (calibrateScales inp s).1 ∧
      Within (flit 0.1) (flit 10) (calibrateScales inp s).2
  | .energyPf => Outside (flit 0.5) (flit 1) (pfAsked inp) ∨
      Within (flit 0.5) (flit 1) (pfAsked inp)
  | .waterSetK => Outside (flit 0.1) (flit 1000) (kAsked inp) ∨
      Within (flit 0.1) (flit 1000) (kAsked inp)
  | _ => True

def Op.AsksInRange (profile : Profile) (d : Device F) (op : Op F) : Prop :=
  ∀ P id inp, op.useCase profile = some (P, id, inp) → RequestInRange inp d.energy id

section
variable {P : Platform} {inp : IotUcIn F} {d : Device F}

theorem calibrate_inRange_iff (h : ParamsInRange d) :
    ParamsInRange (iotUcRun P .energyCalibrate inp d).st ↔
      RequestInRange inp d.energy .energyCalibrate := by
  have hst : (iotUcRun P .energyCalibrate inp d).st =
      { d with
        energy := { d.energy with
          vScale := (calibrateScales inp d.energy).1
          iScale := (calibrateScales inp d.energy).2 }
        ucInit := true } := by
    simp only [iotUcRun, entryFn, onEnergy, Handler.at, iotUcEnergyCalibrate]
    split <;> rfl
  rw [hst]
  constructor
  · exact fun h' => ⟨h'.vScale, h'.iScale⟩
  · rintro ⟨hv, hi⟩
    exact ⟨hv, hi, h.pf, h.kPpl, h.sleepS, h.cfg⟩

/-- A handler that tests the value before it stores it. -/
theorem tested_iff {α : Type} {I : α → Prop} {lo hi x : F} {refused stored : α}
    (hrefused : I refused) (hstored : I stored ↔ Within lo hi x) :
    I (if x < lo ∨ hi < x then refused else stored) ↔ Outside lo hi x ∨ Within lo hi x := by
  by_cases hout : x < lo ∨ hi < x
  · rw [if_pos hout]
    exact iff_of_true hrefused (Or.inl hout)
  · rw [if_neg hout, hstored]
    exact (or_iff_right hout).symm

theorem pf_inRange_iff (h : ParamsInRange d) :
    ParamsInRange (iotUcRun P .energyPf inp d).st ↔ RequestInRange inp d.energy .energyPf := by
  simp only [iotUcRun, entryFn, onEnergy, Handler.at, iotUcEnergyPf]
  refine tested_iff (I := fun r : Ret F (EnergySt F × Gpio) => ParamsInRange
    { d with energy := r.st.1, gpio := r.st.2, ucInit := true })
    ⟨h.vScale, h.iScale, h.pf, h.kPpl, h.sleepS, h.cfg⟩ ?_
  exact ⟨fun h' => h'.pf, fun hpf => ⟨h.vScale, h.iScale, hpf, h.kPpl, h.sleepS, h.cfg⟩⟩

theorem setK_inRange_iff (h : ParamsInRange d) :
    ParamsInRange (iotUcRun P .waterSetK inp d).st ↔ RequestInRange inp d.energy .waterSetK := by
  simp only [iotUcRun, entryFn, onWater, Handler.at, iotUcWaterSetK]
  refine tested_iff (I := fun r : Ret F (WaterSt F × Gpio) => ParamsInRange
    { d with water := r.st.1, gpio := r.st.2, ucInit := true })
    ⟨h.vScale, h.iScale, h.pf, h.kPpl, h.sleepS, h.cfg⟩ ?_
  exact ⟨fun h' => h'.kPpl, fun hk => ⟨h.vScale, h.iScale, h.pf, hk, h.sleepS, h.cfg⟩⟩

theorem sleep_inRange {tr : TrkSt} (h : 5 ≤ tr.sleepS ∧ tr.sleepS ≤ 3600) (out : IotUcOut F) :
    5 ≤ (iotUcTrkSleep inp out tr).st.sleepS ∧ (iotUcTrkSleep inp out tr).st.sleepS ≤ 3600 := by
  simp only [iotUcTrkSleep]
  split_ifs with hout
  · exact h
  · obtain ⟨hlo, hhi⟩ := not_or.mp hout
    have hlo' : 5 ≤ sleepAsked inp tr := Int32.not_lt.mp hlo
    exact ⟨toUInt32_le (by decide) hlo',
      toUInt32_le (Int32.le_trans (by decide) hlo') (Int32.not_lt.mp hhi)⟩

omit [CFloat F] in
theorem kPpl_of_totals {w w' : WaterSt F} (h : w'.totals = w.totals) : w'.kPpl = w.kPpl :=
  congrArg (fun t => t.2.2.2.2) h

theorem waterMeter_kPpl (inp : IotUcIn F) (out : IotUcOut F) (st : WaterSt F × Gpio) :
    (iotUcWaterMeter inp out st).st.1.kPpl = st.1.kPpl := by
  refine (kPpl_of_totals (waterMeter_totals inp out st)).trans ?_
  unfold waterCount
  dsimp only
  split <;> rfl

/-- A water handler that leaves the pulse rate alone. -/
theorem water_inRange (h : ParamsInRange d) {d' : Device F} (henergy : d'.energy = d.energy)
    (htr : d'.tr = d.tr) (hk : d'.water.kPpl = d.water.kPpl) (hcfg : d'.sys.cfg.cfg.InRange) :
    ParamsInRange d' where
  vScale := henergy ▸ h.vScale
  iScale := henergy ▸ h.iScale
  pf := henergy ▸ h.pf
  kPpl := hk ▸ h.kPpl
  sleepS := htr ▸ h.sleepS
  cfg := hcfg

theorem iotUcRun_cfg_inRange (P : Platform) (inp : IotUcIn F) (id : IotUcId)
    (h : d.sys.cfg.InRange) : (iotUcRun P id inp d).st.sys.cfg.InRange := by
  obtain ⟨hc, hst⟩ := load_inRange P h
  cases id
  case pltFactoryReset => exact save_inRange P h defaults_inRange
  case pltSetSampleMs =>
    simp only [iotUcRun, entryFn, onSys, Handler.at, iotUcPltSetSampleMs]
    split_ifs with hout
    · exact h
    · obtain ⟨hlo, hhi⟩ := not_or.mp hout
      exact save_inRange P hst ⟨⟨UInt32.not_lt.mp hlo, UInt32.not_lt.mp hhi⟩, hc.2⟩
  case pltProvision =>
    simp only [iotUcRun, entryFn, onSys, Handler.at, iotUcPltProvision]
    split_ifs
    · exact h
    · exact provision_inRange P _ _ h
  case pltOta =>
    simp only [iotUcRun, entryFn, onSys, Handler.at, iotUcPltOta]
    split <;> exact h
  case pltSetCloud =>
    simp only [iotUcRun, entryFn, onSys, Handler.at, iotUcPltSetCloud]
    split_ifs with hout
    · exact h
    · obtain ⟨hlo, hhi⟩ := not_or.mp hout
      exact save_inRange P hst ⟨hc.1, toUInt32_le (Int32.not_lt.mp hlo) (Int32.not_lt.mp hhi)⟩
  case pltSetLogLevel =>
    simp only [iotUcRun, entryFn, onSys, Handler.at, iotUcPltSetLogLevel]
    split_ifs <;> exact h
  all_goals exact h

theorem iotUcRun_inRange_iff (id : IotUcId) (h : ParamsInRange d) (hc : d.sys.cfg.InRange) :
    ParamsInRange (iotUcRun P id inp d).st ↔ RequestInRange inp d.energy id := by
  have hcfg := (iotUcRun_cfg_inRange P inp id hc).cfg
  cases id
  case energyCalibrate => exact calibrate_inRange_iff h
  case energyPf => exact pf_inRange_iff h
  case waterSetK => exact setK_inRange_iff h
  case energySetLimits =>
    refine iff_of_true ?_ trivial
    simp only [iotUcRun, entryFn, onEnergy, Handler.at, iotUcEnergySetLimits]
    split <;> exact ⟨h.vScale, h.iScale, h.pf, h.kPpl, h.sleepS, h.cfg⟩
  case waterMeter =>
    have hk := waterMeter_kPpl inp .zero (d.water, d.gpio)
    exact iff_of_true (water_inRange h rfl rfl hk hcfg) trivial
  case waterBurst =>
    have hk := kPpl_of_totals (waterBurst_totals inp .zero (d.water, d.gpio))
    exact iff_of_true (water_inRange h rfl rfl hk hcfg) trivial
  case waterValveOpen =>
    have hk := kPpl_of_totals (waterValveOpen_totals inp .zero (d.water, d.gpio))
    exact iff_of_true (water_inRange h rfl rfl hk hcfg) trivial
  case trkSleep =>
    exact iff_of_true ⟨h.vScale, h.iScale, h.pf, h.kPpl, sleep_inRange h.sleepS .zero, hcfg⟩
      trivial
  all_goals exact iff_of_true ⟨h.vScale, h.iScale, h.pf, h.kPpl, h.sleepS, hcfg⟩ trivial

end

theorem sample_inRange (profile : Profile) {op : Op F} (hs : op.IsSample) {d : Device F}
    (h : ParamsInRange d) : ParamsInRange (op.apply profile d) ∧
      (op.apply profile d).sys = d.sys := by
  cases op with
  | waterSample pulses tankMv =>
    let z : IotUcIn F := .zero
    have hk := waterMeter_kPpl
      { z with u := Function.update z.u 0 pulses, i := Function.update z.i 0 tankMv } .zero
      (d.water, d.gpio)
    exact ⟨water_inRange h rfl rfl hk h.cfg, rfl⟩
  | autoFrame => exact ⟨⟨h.vScale, h.iScale, h.pf, h.kPpl, h.sleepS, h.cfg⟩, rfl⟩
  | command | run | runJson | otaProgress | diag => exact hs.elim
  | _ => exact ⟨⟨h.vScale, h.iScale, h.pf, h.kPpl, h.sleepS, h.cfg⟩, rfl⟩

theorem Op.apply_cfg_inRange (profile : Profile) (op : Op F) {d : Device F}
    (hc : d.sys.cfg.InRange) : (op.apply profile d).sys.cfg.InRange := by
  rcases op.apply_cases profile d with ⟨P, id, inp, -, heq⟩ | ⟨-, hs⟩ | ⟨-, -, s, heq, hq⟩
  · rw [heq]
    exact iotUcRun_cfg_inRange P inp id hc
  · cases op with
    | command | run | runJson | otaProgress | diag => exact hs.elim
    | _ => exact hc
  · rw [heq]
    exact quietSys_inRange hq hc

theorem Op.apply_inRange_iff (profile : Profile) (op : Op F) {d : Device F}
    (h : ParamsInRange d) (hc : d.sys.cfg.InRange) :
    ParamsInRange (op.apply profile d) ↔ op.AsksInRange profile d := by
  have hcfg := (op.apply_cfg_inRange profile hc).cfg
  rcases op.apply_cases profile d with ⟨P, id, inp, hu, heq⟩ | ⟨hu, hs⟩ | ⟨hu, -, s, heq, hq⟩
  · rw [heq, Op.AsksInRange, forall_useCase hu]
    exact iotUcRun_inRange_iff id h hc
  · refine iff_of_true (sample_inRange profile hs h).1 fun _ _ _ hu' => ?_
    simp [hu] at hu'
  · rw [heq] at hcfg ⊢
    refine iff_of_true ⟨h.vScale, h.iScale, h.pf, h.kPpl, h.sleepS, hcfg⟩ fun _ _ _ hu' => ?_
    simp [hu] at hu'

theorem appMain_cfg_inRange (P : Platform) (profile : Profile) (wdtReset : Bool)
    {nvs : Option NvsImage} (h : NvsInRange nvs) :
    (appMain P profile wdtReset nvs : Device F).sys.cfg.InRange := by
  have hinit : (iotConfigInit (Device.static F nvs).sys.cfg).2.InRange :=
    ⟨rfl, defaults_inRange, h⟩
  obtain ⟨hc, hst⟩ := load_inRange P hinit
  simp only [appMain, adoptDeviceId]
  split_ifs
  · exact save_inRange P hst hc
  · exact hst

theorem appMain_inRange [Lawful F] (P : Platform) (profile : Profile) (wdtReset : Bool)
    {nvs : Option NvsImage} (h : NvsInRange nvs) :
    ParamsInRange (appMain P profile wdtReset nvs : Device F) where
  vScale := ⟨Lawful.flit_le (by norm_num), Lawful.flit_le (by norm_num)⟩
  iScale := ⟨Lawful.flit_le (by norm_num), Lawful.flit_le (by norm_num)⟩
  pf := ⟨Lawful.flit_le (by norm_num), Lawful.flit_le (by norm_num)⟩
  kPpl := ⟨Lawful.flit_le (by norm_num), Lawful.flit_le (by norm_num)⟩
  sleepS := (by decide : (5 : UInt32) ≤ 30 ∧ (30 : UInt32) ≤ 3600)
  cfg := (appMain_cfg_inRange P profile wdtReset h).cfg

/-- With the initial configuration in range, the parameters stay in range along a run exactly when
every calibration names scales in range, and every power factor and pulse rate is turned away or in
range. -/
theorem paramRun_inRange_iff [Lawful F] (P : Platform) (profile : Profile) (wdtReset : Bool)
    {nvs : Option NvsImage} (h : NvsInRange nvs) (ops : List (Op F)) :
    (∀ e ∈ trace (Op.apply profile) (appMain P profile wdtReset nvs) ops,
      ParamsInRange e.2.2) ↔
    ∀ e ∈ trace (Op.apply profile) (appMain P profile wdtReset nvs) ops,
      e.2.1.AsksInRange profile e.1 := by
  refine Run.forall_iff (I := fun d : Device F => ParamsInRange d ∧ d.sys.cfg.InRange)
    (C := fun _ _ (d' : Device F) => ParamsInRange d')
    (G := fun (d : Device F) (op : Op F) _ => op.AsksInRange profile d) ?_ ?_ (run_trace _ _ _)
    ⟨appMain_inRange P profile wdtReset h, appMain_cfg_inRange P profile wdtReset h⟩
  · rintro d op d' ⟨hd, hc⟩ rfl
    exact op.apply_inRange_iff profile hd hc
  · rintro d op d' ⟨-, hc⟩ rfl hd'
    exact ⟨hd', op.apply_cfg_inRange profile hc⟩

theorem runJson_asks {P : Platform} {profile : Profile} {d : Device F} {json : Text} {len : ℕ}
    (name : Text) (hlen : len ≠ 0) (hname : ucNameOf json = some name)
    (h : RequestInRange (ucInput json) d.energy (iotUcIdFromName name)) :
    (Op.runJson P json len).AsksInRange profile d :=
  (forall_useCase (P := P) (by simp [Op.useCase, textUseCase, hlen, hname])).mpr h

/-- A rejected calibration, and a power factor that is not a number, leave the range. -/
theorem paramRun_leaves_range :
    (¬ ∀ e ∈ trace (Op.apply .energy) (appMain hostPlatform .energy false none : Device Numeral)
      [.runJson hostPlatform (txt "\x7b\"uc\":\"energy.calibrate\",\"v_scale\":50\x7d") 38],
      ParamsInRange e.2.2) ∧
    ¬ ∀ e ∈ trace (Op.apply .energy) (appMain hostPlatform .energy false none : Device Numeral)
      [.runJson hostPlatform (txt "\x7b\"uc\":\"energy.pf\",\"pf\":nan\x7d") 27],
      ParamsInRange e.2.2 := by
  constructor
  · intro h
    have hle : Numeral.leb _ _ = true := (h _ List.mem_cons_self).vScale.2
    revert hle
    decide +kernel
  · intro h
    have hle : Numeral.leb _ _ = true := (h _ List.mem_cons_self).pf.1
    revert hle
    decide +kernel

/-- A calibration, a sample, a power factor that is turned away and one that is stored keep the
parameters of a fresh device in range. -/
theorem paramRun_requests :
    NvsInRange none ∧
    ∀ e ∈ trace (Op.apply .energy) (appMain hostPlatform .energy false none : Device ℚ)
      [.runJson hostPlatform (txt "\x7b\"uc\":\"energy.calibrate\",\"v_scale\":1.25\x7d") 40,
        .energyAdc 1000, .runJson hostPlatform (txt "\x7b\"uc\":\"energy.pf\",\"pf\":7\x7d") 25,
        .runJson hostPlatform (txt "\x7b\"uc\":\"energy.pf\",\"pf\":0.8\x7d") 27],
      ParamsInRange e.2.2 := by
  have hnvs : NvsInRange none := by rintro _ ⟨⟩
  refine ⟨hnvs, (paramRun_inRange_iff hostPlatform .energy false hnvs _).mpr ?_⟩
  simp only [trace, List.forall_mem_cons, List.not_mem_nil, false_imp_iff, implies_true, and_true]
  refine ⟨runJson_asks (txt "energy.calibrate") (by decide) (by decide +kernel) ?_, ?_,
    runJson_asks (txt "energy.pf") (by decide) (by decide +kernel) (Or.inl ?_),
    runJson_asks (txt "energy.pf") (by decide) (by decide +kernel) (Or.inr ?_)⟩
  · change Within _ _ _ ∧ Within _ _ _
    unfold Within
    decide +kernel
  · rintro P id inp ⟨⟩
  · unfold Outside
    decide +kernel
  · unfold Within
    decide +kernel

end IotPlatform
