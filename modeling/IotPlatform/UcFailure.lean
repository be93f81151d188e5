import IotPlatform.Executions

/-!
# What a failed use case leaves behind

Of the handlers that can fail, `energy.calibrate` stores before it checks, and the three handlers
that load, change and save the configuration refresh its cache even when they cannot save.
-/
namespace IotPlatform
open CText CFloat

variable {F : Type} [CFloat F]

/-- Product registers, runtime configuration and actuator outputs. -/
structure Product (F : Type) where
  energy : EnergySt F
  ind : IndSt F
  pm : PmSt F
  water : WaterSt F
  ev : EvSt F
  can : AutoSt
  tr : TrkSt
  ag : AgriSt
  cd : ColdSt F
  rb : RobSt
  cfg : RuntimeCfg
  gpio : Gpio
  pwm : Pwm

omit [CFloat F] in
def Device.product (d : Device F) : Product F :=
  ⟨d.energy, d.ind, d.pm, d.water, d.ev, d.can, d.tr, d.ag, d.cd, d.rb, d.sys.cfg.cfg, d.gpio,
    d.pwm⟩

omit [CFloat F] in
/-- The same, without the record that `auto.filter` keeps of the frame it saw last. -/
def Device.productBut (id : IotUcId) (d : Device F) : Product F :=
  if id = .autoFilter then { d.product with can := { d.can with lastId := 0, accepted := 0 } }
  else d.product

/-- When the use case fails it has changed nothing. -/
def FailsClean (P : Platform) (id : IotUcId) (inp : IotUcIn F) (d : Device F) : Prop :=
  (iotUcRun P id inp d).err ≠ .ok →
    (iotUcRun P id inp d).st.productBut id = d.productBut id

/-- A load and save that fails has left the cached configuration as it was. -/
def SaveSettles (P : Platform) (st : CfgStore) : Prop :=
  (st.ready = true ∧ SaveOpens P) ∨ (iotConfigLoad P zeroCfg st).2.2.cfg = st.cfg

/-- The inputs on which a handler does not fail after it has stored. -/
def ChecksFirst (P : Platform) (id : IotUcId) (inp : IotUcIn F) (d : Device F) : Prop :=
  match id with
  | .energyCalibrate =>
    let asked := calibrateScales inp d.energy
    ScalesOutOfRange asked.1 asked.2 → asked = (d.energy.vScale, d.energy.iScale)
  | .pltSetSampleMs =>
    50 ≤ sampleMsAsked inp → sampleMsAsked inp ≤ 60000 → SaveSettles P d.sys.cfg
  | .pltSetCloud =>
    0 ≤ cloudAsked inp → cloudAsked inp ≤ iotCloudGcpMqtt → SaveSettles P d.sys.cfg
  | .pltProvision =>
    inp.json.getD inp.s0.text ≠ [] → (inp.json.getD inp.s0.text).length ≤ 512 →
      SaveSettles P d.sys.cfg
  | _ => True

theorem iotUcRun_pumpSafe (P : Platform) (id : IotUcId) (inp : IotUcIn F) (d : Device F)
    (h : PumpSafe (d.ag, d.pwm)) :
    PumpSafe ((iotUcRun P id inp d).st.ag, (iotUcRun P id inp d).st.pwm) := by
  cases id
  case agriSoil => exact agriSoil_safe inp .zero h
  case agriPumpAuto => exact agriPumpAuto_safe inp .zero h
  case agriPumpOn => exact agriPumpOn_safe inp .zero h
  case agriPumpOff => exact agriPumpOff_safe inp .zero h
  case agriSchedule => exact agriSchedule_safe inp .zero h
  case agriInhibit => exact agriInhibit_safe inp .zero h
  all_goals exact h

theorem sample_pumpSafe (profile : Profile) (op : Op F) (d : Device F) (hs : op.IsSample)
    (h : PumpSafe (d.ag, d.pwm)) :
    PumpSafe ((op.apply profile d).ag, (op.apply profile d).pwm) := by
  cases op with
  | agriSample moistPct => exact agriOnSample_safe moistPct .zero h
  | command | run | runJson | otaProgress | diag => exact hs.elim
  | _ => exact h

theorem Reachable.pumpSafe {profile : Profile} {d : Device F} (h : Reachable profile d) :
    PumpSafe (d.ag, d.pwm) := by
  induction h with
  | boot P wdtReset nvs =>
    refine ⟨fun _ => ?_, fun hi => ?_⟩
    · simp only [appMain]
      split <;> rfl
    · exact absurd hi (by simp [appMain, Device.static])
  | step op _ ih =>
    exact op.apply_keeps (Q := fun d : Device F => PumpSafe (d.ag, d.pwm)) iotUcRun_pumpSafe
      (sample_pumpSafe profile) (fun _ _ h => h) ih

theorem saveSettles_iff (P : Platform) (st : CfgStore) (f : RuntimeCfg → RuntimeCfg) :
    ((iotConfigSave P (f (iotConfigLoad P zeroCfg st).2.1) (iotConfigLoad P zeroCfg st).2.2).1 ≠
        .ok →
      (iotConfigSave P (f (iotConfigLoad P zeroCfg st).2.1)
        (iotConfigLoad P zeroCfg st).2.2).2.cfg = st.cfg) ↔ SaveSettles P st := by
  have hready := iotConfigLoad_ready P zeroCfg st
  generalize hl : iotConfigLoad P zeroCfg st = l at hready
  by_cases h : st.ready = true ∧ SaveOpens P
  · have hok : (iotConfigSave P (f l.2.1) l.2.2).1 = .ok :=
      (iotConfigSave_err_iff _).mpr ⟨hready.trans h.1, h.2⟩
    exact iff_of_true (fun hn => absurd hok hn) (Or.inl h)
  · have hl' : ¬ (l.2.2.ready = true ∧ SaveOpens P) := by rwa [hready]
    obtain ⟨herr, hst⟩ := iotConfigSave_fail (f l.2.1) hl'
    rw [hst, SaveSettles, hl]
    exact ⟨fun hc => Or.inr (hc herr), fun hs _ => hs.resolve_left h⟩

section
variable {P : Platform} {inp : IotUcIn F} {d : Device F}

theorem calibrate_failsClean_iff :
    FailsClean P .energyCalibrate inp d ↔ ChecksFirst P .energyCalibrate inp d := by
  simp only [FailsClean, ChecksFirst, iotUcRun, entryFn, onEnergy, Handler.at, iotUcEnergyCalibrate]
  by_cases hr : ScalesOutOfRange (calibrateScales inp d.energy).1 (calibrateScales inp d.energy).2
  · simp only [if_pos hr, Device.productBut, Device.product, Prod.ext_iff]
    simp only [ne_eq, reduceCtorEq, not_false_eq_true, if_false, Product.mk.injEq, and_true,
      forall_const, hr]
    constructor
    · intro h
      exact ⟨congrArg EnergySt.vScale h, congrArg EnergySt.iScale h⟩
    · rintro ⟨hv, hi⟩
      rw [hv, hi]
  · simp [hr]

theorem saving_failsClean_iff {id : IotUcId} (hid : id ≠ .autoFilter)
    (f : RuntimeCfg → RuntimeCfg) {s : SysSt}
    (herr : (iotUcRun P id inp d).err = (iotConfigSave P (f (iotConfigLoad P zeroCfg d.sys.cfg).2.1)
      (iotConfigLoad P zeroCfg d.sys.cfg).2.2).1)
    (hst : (iotUcRun P id inp d).st = { d with sys := s, ucInit := true })
    (hs : s.cfg = (iotConfigSave P (f (iotConfigLoad P zeroCfg d.sys.cfg).2.1)
      (iotConfigLoad P zeroCfg d.sys.cfg).2.2).2) :
    FailsClean P id inp d ↔ SaveSettles P d.sys.cfg := by
  rw [← saveSettles_iff P d.sys.cfg f]
  simp [FailsClean, herr, hst, hs, Device.productBut, Device.product, hid]

theorem setSampleMs_failsClean_iff :
    FailsClean P .pltSetSampleMs inp d ↔ ChecksFirst P .pltSetSampleMs inp d := by
  by_cases hr : sampleMsAsked inp < 50 ∨ 60000 < sampleMsAsked inp
  · have hst : (iotUcRun P .pltSetSampleMs inp d).st = { d with ucInit := true } := by
      simp only [iotUcRun, entryFn, onSys, Handler.at, iotUcPltSetSampleMs, if_pos hr]
    refine iff_of_true (fun _ => by rw [hst]; rfl) fun h50 h60 => absurd hr ?_
    exact not_or.mpr ⟨UInt32.not_lt.mpr h50, UInt32.not_lt.mpr h60⟩
  · obtain ⟨h50, h60⟩ := not_or.mp hr
    have hcond : ChecksFirst P .pltSetSampleMs inp d ↔ SaveSettles P d.sys.cfg :=
      ⟨fun h => h (UInt32.not_lt.mp h50) (UInt32.not_lt.mp h60), fun h _ _ => h⟩
    rw [hcond]
    refine saving_failsClean_iff (by decide)
      (fun cfg => { cfg with samplePeriodMs := sampleMsAsked inp })
      (s := (iotUcPltSetSampleMs P inp .zero d.sys).st) ?_ rfl ?_ <;>
      simp only [iotUcRun, entryFn, onSys, Handler.at, iotUcPltSetSampleMs, if_neg hr]

theorem setCloud_failsClean_iff :
    FailsClean P .pltSetCloud inp d ↔ ChecksFirst P .pltSetCloud inp d := by
  by_cases hr : cloudAsked inp < 0 ∨ iotCloudGcpMqtt < cloudAsked inp
  · have hst : (iotUcRun P .pltSetCloud inp d).st = { d with ucInit := true } := by
      simp only [iotUcRun, entryFn, onSys, Handler.at, iotUcPltSetCloud, if_pos hr]
    refine iff_of_true (fun _ => by rw [hst]; rfl) fun h0 h3 => absurd hr ?_
    exact not_or.mpr ⟨Int32.not_lt.mpr h0, Int32.not_lt.mpr h3⟩
  · obtain ⟨h0, h3⟩ := not_or.mp hr
    have hcond : ChecksFirst P .pltSetCloud inp d ↔ SaveSettles P d.sys.cfg :=
      ⟨fun h => h (Int32.not_lt.mp h0) (Int32.not_lt.mp h3), fun h _ _ => h⟩
    rw [hcond]
    refine saving_failsClean_iff (by decide)
      (fun cfg => { cfg with cloud := (cloudAsked inp).toUInt32 })
      (s := (iotUcPltSetCloud P inp .zero d.sys).st) ?_ rfl ?_ <;>
      simp only [iotUcRun, entryFn, onSys, Handler.at, iotUcPltSetCloud, if_neg hr]

theorem provision_failsClean_iff :
    FailsClean P .pltProvision inp d ↔ ChecksFirst P .pltProvision inp d := by
  by_cases he : inp.json.getD inp.s0.text = []
  · have hst : (iotUcRun P .pltProvision inp d).st = { d with ucInit := true } := by
      simp only [iotUcRun, entryFn, onSys, Handler.at, iotUcPltProvision, if_pos he]
    exact iff_of_true (fun _ => by rw [hst]; rfl) fun hne => absurd he hne
  · have hzero : (inp.json.getD inp.s0.text).length ≠ 0 := by simpa using he
    by_cases hl : 512 < (inp.json.getD inp.s0.text).length
    · have hst : (iotUcRun P .pltProvision inp d).st = { d with ucInit := true } := by
        simp only [iotUcRun, entryFn, onSys, Handler.at, iotUcPltProvision, provisionReply,
          if_neg he, iotProvisionApplyJson, hzero, hl, or_true, if_true]
      exact iff_of_true (fun _ => by rw [hst]; rfl) fun _ hle => absurd hl (by omega)
    · have hcond : ChecksFirst P .pltProvision inp d ↔ SaveSettles P d.sys.cfg :=
        ⟨fun h => h he (by omega), fun h _ _ => h⟩
      have hgo : ¬ ((inp.json.getD inp.s0.text).length = 0 ∨
          512 < (inp.json.getD inp.s0.text).length) := not_or.mpr ⟨hzero, hl⟩
      rw [hcond]
      refine saving_failsClean_iff (by decide) (provisionedCfg P (inp.json.getD inp.s0.text))
        (s := (iotUcPltProvision P inp .zero d.sys).st) ?_ rfl ?_ <;>
        simp only [iotUcRun, entryFn, onSys, Handler.at, iotUcPltProvision, provisionReply,
          if_neg he, iotProvisionApplyJson, if_neg hgo]

end

/-- The pump does not start while it is inhibited, when its output is already off. -/
theorem agriPumpOn_failsClean (P : Platform) (inp : IotUcIn F) {d : Device F}
    (hpump : PumpSafe (d.ag, d.pwm)) : FailsClean P .agriPumpOn inp d := by
  intro herr
  have hi : d.ag.inhibit = true := by
    by_contra hn
    refine herr ?_
    simp [iotUcRun, entryFn, onAg, Handler.at, iotUcAgriPumpOn, hn]
  have hst : (iotUcRun P .agriPumpOn inp d).st = { d with ucInit := true } := by
    simp only [iotUcRun, entryFn, onAg, Handler.at, iotUcAgriPumpOn, pumpHw_inhibited hpump hi]
  rw [hst]
  rfl

theorem factoryReset_failsClean (P : Platform) (inp : IotUcIn F) {d : Device F} :
    FailsClean P .pltFactoryReset inp d := by
  intro herr
  have hsave : ¬ (d.sys.cfg.ready = true ∧ SaveOpens P) :=
    fun h => herr ((iotConfigSave_err_iff _).mpr h)
  have hst := (iotConfigSave_fail iotConfigSetDefaults hsave).2
  simp [iotUcRun, entryFn, onSys, Handler.at, iotUcPltFactoryReset, hst, Device.productBut,
    Device.product]

/-- Every other use case leaves the product alone when it fails, given the pump interlock. -/
theorem other_failsClean (P : Platform) {id : IotUcId} (inp : IotUcIn F) {d : Device F}
    (hpump : PumpSafe (d.ag, d.pwm))
    (hid : id ≠ .energyCalibrate ∧ id ≠ .pltSetSampleMs ∧ id ≠ .pltSetCloud ∧
      id ≠ .pltProvision) : FailsClean P id inp d := by
  intro herr
  cases id
  case energyCalibrate | pltSetSampleMs | pltSetCloud | pltProvision => simp at hid
  case agriPumpOn => exact agriPumpOn_failsClean P inp hpump herr
  case pltFactoryReset => exact factoryReset_failsClean P inp herr
  case pltOta =>
    simp only [iotUcRun, entryFn, onSys, Handler.at, iotUcPltOta]
    split <;> rfl
  case pltSetLogLevel =>
    simp only [iotUcRun, entryFn, onSys, Handler.at, iotUcPltSetLogLevel]
    split <;> rfl
  case energyPf =>
    simp only [iotUcRun, entryFn, onEnergy, Handler.at, iotUcEnergyPf] at herr ⊢
    split_ifs at herr ⊢
    · rfl
    · exact absurd rfl herr
  case waterValveOpen =>
    simp only [iotUcRun, entryFn, onWater, Handler.at, iotUcWaterValveOpen] at herr ⊢
    split_ifs at herr ⊢
    · rfl
    · exact absurd rfl herr
  case waterSetK =>
    simp only [iotUcRun, entryFn, onWater, Handler.at, iotUcWaterSetK] at herr ⊢
    split_ifs at herr ⊢
    · rfl
    · exact absurd rfl herr
  case evStartReq =>
    by_cases hm : mentionsContactor inp = true
    · simp only [iotUcRun, entryFn, onEv, Handler.at, iotUcEvStart, if_pos hm]
      rfl
    · simp [iotUcRun, entryFn, onEv, Handler.at, iotUcEvStart, hm] at herr
  case trkSleep =>
    simp only [iotUcRun, entryFn, onTr, Handler.at, iotUcTrkSleep] at herr ⊢
    split_ifs at herr ⊢
    · rfl
    · exact absurd rfl herr
  all_goals first
    | rfl
    | exact absurd rfl herr

/-- In a reachable state a use case that fails has changed nothing, exactly when its handler
checks the request before it stores. -/
theorem reachable_failsClean_iff {profile : Profile} {d : Device F} (hd : Reachable profile d)
    (P : Platform) (id : IotUcId) (inp : IotUcIn F) :
    FailsClean P id inp d ↔ ChecksFirst P id inp d := by
  cases id
  case energyCalibrate => exact calibrate_failsClean_iff
  case pltSetSampleMs => exact setSampleMs_failsClean_iff
  case pltSetCloud => exact setCloud_failsClean_iff
  case pltProvision => exact provision_failsClean_iff
  all_goals exact iff_of_true (other_failsClean P inp hd.pumpSafe (by decide)) trivial

theorem inhibited_pumpOn_failsClean : FailsClean hostPlatform .agriPumpOn .zero
    ((Op.run hostPlatform .agriInhibit .zero).apply .agriculture
      (appMain hostPlatform .agriculture false none : Device ℚ)) :=
  (reachable_failsClean_iff (.step _ (.boot _ _ _)) hostPlatform .agriPumpOn .zero).mpr trivial

/-- A voltage scale of 50 is answered with an error and stays in force. -/
theorem calibrate_stores_rejected_scale : ¬ FailsClean hostPlatform .energyCalibrate
    (ucInput (txt "\x7b\"uc\":\"energy.calibrate\",\"v_scale\":50\x7d"))
    (appMain hostPlatform .energy false none : Device ℚ) := by
  intro h
  have hsame := congrArg (fun p => p.energy.vScale) (h (by decide +kernel))
  revert hsame
  decide +kernel

end IotPlatform
