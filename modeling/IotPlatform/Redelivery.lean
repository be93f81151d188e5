import IotPlatform.Isolation
import IotPlatform.Simulation

/-!
# Commands that arrive twice

A broker may deliver a command more than once. A use case that only sets what it is told changes
nothing the second time; twelve of them add to what they find.
-/
namespace IotPlatform
open CText CFloat Runs

variable {F : Type} [CFloat F]

/-- The use cases that add to the registers that they find. -/
def accumulating : List IotUcId :=
  [.energyMeasure, .energyAccum, .energyOverPower, .indSample, .indHoursTick, .indPulse,
    .pmFeatures, .waterMeter, .evSession, .autoBusOff, .coldExcursion, .robotHeartbeat]

/-- A second call with the same request leaves what the first one has left. -/
def Handler.Idem {σ : Type} (h : Handler F σ) : Prop :=
  ∀ inp out s, (h inp out (h inp out s).st).st = (h inp out s).st

omit [CFloat F] in
/-- What a file does to its registers, it does to the device that holds them. -/
theorem Handler.Idem.at {σ : Type} {h : Handler F σ} (hh : h.Idem) {get : Device F → σ}
    {put : σ → Device F → Device F} (hget : ∀ s d, get { put s d with ucInit := true } = s)
    (hput : ∀ s s' d, put s' { put s d with ucInit := true } = { put s' d with ucInit := true })
    (hinit : ∀ s d, d.ucInit = true → { put s d with ucInit := true } = put s d)
    (inp : IotUcIn F) (out : IotUcOut F) {d : Device F} (hd : d.ucInit = true) :
    (h.at get put inp out { (h.at get put inp out d).st with ucInit := true }).st =
      (h.at get put inp out d).st := by
  simp only [Handler.at, hget, hput, hh inp out (get d)]
  exact hinit _ d hd

section
variable (inp : IotUcIn F)

@[simp] theorem IotUcIn.f32_again (key : Text) (v : F) :
    inp.f32 key (inp.f32 key v) = inp.f32 key v := by
  rcases inp.f32_cases key with h | ⟨x, h⟩
  · rw [h]
  · rw [h, h]

@[simp] theorem IotUcIn.i32_again (key : Text) (v : Int32) :
    inp.i32 key (inp.i32 key v) = inp.i32 key v := by
  cases hj : inp.json with
  | none => simp [IotUcIn.i32, hj]
  | some json => cases hread : iotUcJsonI32 F json key <;> simp [IotUcIn.i32, hj, hread]

end

@[simp] theorem iotGpioWrite_again (pin : ℕ) (level : Bool) (g : Gpio) :
    (iotGpioWrite pin level (iotGpioWrite pin level g).2).2 = (iotGpioWrite pin level g).2 := by
  cases hg : g.init <;> simp [iotGpioWrite, hg]

@[simp] theorem iotPwmSetDuty_again (duty : UInt32) (p : Pwm) :
    (iotPwmSetDuty duty (iotPwmSetDuty duty p).2).2 = (iotPwmSetDuty duty p).2 := by
  cases hp : p.init <;> simp [iotPwmSetDuty, hp]

theorem energySetLimits_idem : (iotUcEnergySetLimits (F := F)).Idem := by
  rintro inp out ⟨s, g⟩
  simp only [iotUcEnergySetLimits]
  cases inp.json with
  | some json => simp
  | none => 
    simp only
    split_ifs <;> rfl

theorem energyCalibrate_idem : (iotUcEnergyCalibrate (F := F)).Idem := by
  rintro inp out ⟨s, g⟩
  have hscales : ∀ s : EnergySt F, calibrateScales inp { s with
      vScale := (calibrateScales inp s).1, iScale := (calibrateScales inp s).2 } =
        calibrateScales inp s := by
    intro s
    unfold calibrateScales
    cases inp.json with
    | some json => simp
    | none => 
      simp only
      split_ifs <;> rfl
  have hst : ∀ st : EnergySt F × Gpio, (iotUcEnergyCalibrate inp out st).st = ({ st.1 with
      vScale := (calibrateScales inp st.1).1, iScale := (calibrateScales inp st.1).2 }, st.2) := by
    intro st
    simp only [iotUcEnergyCalibrate]
    split_ifs <;> rfl
  rw [hst, hst]
  simp only [hscales]

theorem energyPf_idem : (iotUcEnergyPf (F := F)).Idem := by
  rintro inp out ⟨s, g⟩
  simp only [iotUcEnergyPf]
  split_ifs <;> rfl

theorem energyLedAlarm_idem : (iotUcEnergyLedAlarm (F := F)).Idem := by
  rintro inp out ⟨s, g⟩
  simp [iotUcEnergyLedAlarm]

/-- A step of the state machine whose measurements stay is taken once. -/
theorem indState_idem : (iotUcIndState (F := F)).Idem := by
  intro inp out g
  simp only [iotUcIndState]
  by_cases hover : g.OverLimit
  · have hstep : indStepState g = { g with st := .fault, ackNeeded := 1 } := if_pos hover
    rw [hstep]
    exact if_pos hover
  · by_cases hvib : g.vibLim < g.vib
    · have hstep : indStepState g = { g with st := .warn } := by
        rw [indStepState, if_neg hover, if_pos hvib]
      have hover' : ¬ { g with st := IndState.warn }.OverLimit := hover
      rw [hstep, indStepState, if_neg hover', if_pos hvib]
    · by_cases hfault : g.st = .fault
      · have hstep : indStepState g = g := by
          rw [indStepState, if_neg hover, if_neg hvib, if_pos hfault]
        rw [hstep, hstep]
      · have hstep : indStepState g =
            { g with st := if flit 0.4 < g.current then .run else .idle } := by
          rw [indStepState, if_neg hover, if_neg hvib, if_neg hfault]
        rw [hstep]
        have hover' : ¬ { g with
            st := if flit 0.4 < g.current then IndState.run else .idle }.OverLimit := hover
        rw [indStepState, if_neg hover', if_neg hvib]
        split_ifs <;> simp_all

theorem indSetLimits_idem : (iotUcIndSetLimits (F := F)).Idem := by
  intro inp out g
  simp [iotUcIndSetLimits]

theorem indAck_idem : (iotUcIndAck (F := F)).Idem := by
  intro inp out g
  by_cases h : g.st = .fault <;> simp [iotUcIndAck, h]

theorem waterBurst_idem : (iotUcWaterBurst (F := F)).Idem := by
  rintro inp out ⟨w, g⟩
  by_cases h : w.burstLpm < w.flowLpm <;> simp [iotUcWaterBurst, applyValve, h]

theorem waterValveOpen_idem : (iotUcWaterValveOpen (F := F)).Idem := by
  rintro inp out ⟨w, g⟩
  cases h : w.tamper <;> simp [iotUcWaterValveOpen, applyValve, h]

theorem waterValveClose_idem : (iotUcWaterValveClose (F := F)).Idem := by
  rintro inp out ⟨w, g⟩
  simp [iotUcWaterValveClose, applyValve]

theorem waterTamper_idem : (iotUcWaterTamper (F := F)).Idem := by
  rintro inp out ⟨w, g⟩
  simp [iotUcWaterTamper, applyValve]

theorem waterSetK_idem : (iotUcWaterSetK (F := F)).Idem := by
  rintro inp out ⟨w, g⟩
  simp only [iotUcWaterSetK]
  split_ifs <;> rfl

theorem evStart_idem : (iotUcEvStart (F := F)).Idem := by
  intro inp out ev
  by_cases hm : mentionsContactor inp = true
  · simp [iotUcEvStart, hm, iotUcEvRejectContactor]
  · by_cases h0 : ev.session = 0 <;> simp [iotUcEvStart, hm, h0]

omit [CFloat F] in
theorem trkBeacon_idem : (iotUcTrkBeacon (F := F)).Idem := by
  intro inp out tr
  simp only [iotUcTrkBeacon]
  split_ifs <;> rfl

theorem trkBatt_idem : (iotUcTrkBatt (F := F)).Idem := by
  intro inp out tr
  simp only [iotUcTrkBatt]
  split_ifs <;> rfl

theorem trkSleep_idem : (iotUcTrkSleep (F := F)).Idem := by
  intro inp out tr
  have hasked : ∀ tr : TrkSt, sleepAsked inp { tr with sleepS := (sleepAsked inp tr).toUInt32 } =
      sleepAsked inp tr := by
    intro tr
    unfold sleepAsked
    split_ifs <;> simp
  by_cases h : sleepAsked inp tr < 5 ∨ 3600 < sleepAsked inp tr
  · simp [iotUcTrkSleep, h]
  · simp [iotUcTrkSleep, h, hasked]

@[simp] theorem pumpHw_again (on : Bool) (st : AgriSt × Pwm) :
    pumpHw on (pumpHw on st) = pumpHw on st := by
  simp [pumpHw]

omit [CFloat F] in
theorem agriPumpAuto_idem : (iotUcAgriPumpAuto (F := F)).Idem := fun _ _ st =>
  pumpHw_again (decide (st.1.moist < st.1.thresh)) st

theorem agriSchedule_idem : (iotUcAgriSchedule (F := F)).Idem := by
  rintro inp out ⟨ag, p⟩
  simp only [iotUcAgriSchedule]
  split_ifs <;> simp

theorem agriInhibit_idem : (iotUcAgriInhibit (F := F)).Idem := by
  rintro inp out ⟨ag, p⟩
  cases h : inhibitAsked inp <;> simp [iotUcAgriInhibit, h, pumpHw]

theorem coldSample_idem : (iotUcColdSample (F := F)).Idem := by
  intro inp out cd
  simp only [iotUcColdSample]
  split_ifs
  · rfl
  · simp only [IotUcIn.f32_again]
    rfl

theorem coldDoor_idem : (iotUcColdDoor (F := F)).Idem := by
  intro inp out cd
  simp only [iotUcColdDoor]
  split_ifs <;> rfl

theorem coldAck_idem : (iotUcColdAck (F := F)).Idem := by
  intro inp out cd
  by_cases h : (!cd.door) = true ∧ cd.t ≤ cd.tMax <;> simp [iotUcColdAck, h]

omit [CFloat F] in
theorem robotUart_idem : (iotUcRobotUart (F := F)).Idem := by
  intro inp out rb
  by_cases h : 0 < inp.u 0 <;> simp [iotUcRobotUart, h]

theorem robotBatt_idem : (iotUcRobotBatt (F := F)).Idem := by
  intro inp out rb
  simp only [iotUcRobotBatt]
  split_ifs <;> rfl

section
omit [CFloat F]
variable (P : Platform) (inp : IotUcIn F) (out : IotUcOut F) {d : Device F}

theorem onEnergy_again {h : Handler F (EnergySt F × Gpio)} (hh : h.Idem) (hd : d.ucInit = true) :
    (onEnergy h inp out { (onEnergy h inp out d).st with ucInit := true }).st =
      (onEnergy h inp out d).st :=
  hh.at (fun _ _ => rfl) (fun _ _ _ => rfl) (by rintro s ⟨⟩ ⟨⟩; rfl) inp out hd

theorem onInd_again {h : Handler F (IndSt F)} (hh : h.Idem) (hd : d.ucInit = true) :
    (onInd h inp out { (onInd h inp out d).st with ucInit := true }).st = (onInd h inp out d).st :=
  hh.at (fun _ _ => rfl) (fun _ _ _ => rfl) (by rintro s ⟨⟩ ⟨⟩; rfl) inp out hd

theorem onWater_again {h : Handler F (WaterSt F × Gpio)} (hh : h.Idem) (hd : d.ucInit = true) :
    (onWater h inp out { (onWater h inp out d).st with ucInit := true }).st =
      (onWater h inp out d).st :=
  hh.at (fun _ _ => rfl) (fun _ _ _ => rfl) (by rintro s ⟨⟩ ⟨⟩; rfl) inp out hd

theorem onEv_again {h : Handler F (EvSt F)} (hh : h.Idem) (hd : d.ucInit = true) :
    (onEv h inp out { (onEv h inp out d).st with ucInit := true }).st = (onEv h inp out d).st :=
  hh.at (fun _ _ => rfl) (fun _ _ _ => rfl) (by rintro s ⟨⟩ ⟨⟩; rfl) inp out hd

theorem onTr_again {h : Handler F (TrkSt)} (hh : h.Idem) (hd : d.ucInit = true) :
    (onTr h inp out { (onTr h inp out d).st with ucInit := true }).st = (onTr h inp out d).st :=
  hh.at (fun _ _ => rfl) (fun _ _ _ => rfl) (by rintro s ⟨⟩ ⟨⟩; rfl) inp out hd

theorem onAg_again {h : Handler F (AgriSt × Pwm)} (hh : h.Idem) (hd : d.ucInit = true) :
    (onAg h inp out { (onAg h inp out d).st with ucInit := true }).st = (onAg h inp out d).st :=
  hh.at (fun _ _ => rfl) (fun _ _ _ => rfl) (by rintro s ⟨⟩ ⟨⟩; rfl) inp out hd

theorem onCd_again {h : Handler F (ColdSt F)} (hh : h.Idem) (hd : d.ucInit = true) :
    (onCd h inp out { (onCd h inp out d).st with ucInit := true }).st = (onCd h inp out d).st :=
  hh.at (fun _ _ => rfl) (fun _ _ _ => rfl) (by rintro s ⟨⟩ ⟨⟩; rfl) inp out hd

theorem onRb_again {h : Handler F (RobSt)} (hh : h.Idem) (hd : d.ucInit = true) :
    (onRb h inp out { (onRb h inp out d).st with ucInit := true }).st = (onRb h inp out d).st :=
  hh.at (fun _ _ => rfl) (fun _ _ _ => rfl) (by rintro s ⟨⟩ ⟨⟩; rfl) inp out hd

end

theorem run_again (P : Platform) {id : IotUcId} (hpart : id.part ≠ .platform)
    (hid : id ∉ accumulating) (inp : IotUcIn F) (d : Device F) :
    (iotUcRun P id inp (iotUcRun P id inp d).st).st = (iotUcRun P id inp d).st := by
  cases id
  case energySetLimits => exact onEnergy_again inp .zero energySetLimits_idem rfl
  case energyCalibrate => exact onEnergy_again inp .zero energyCalibrate_idem rfl
  case energyPf => exact onEnergy_again inp .zero energyPf_idem rfl
  case energyLedAlarm => exact onEnergy_again inp .zero energyLedAlarm_idem rfl
  case indStateMachine => exact onInd_again inp .zero indState_idem rfl
  case indSetLimits => exact onInd_again inp .zero indSetLimits_idem rfl
  case indAckAlarm => exact onInd_again inp .zero indAck_idem rfl
  case waterBurst => exact onWater_again inp .zero waterBurst_idem rfl
  case waterValveOpen => exact onWater_again inp .zero waterValveOpen_idem rfl
  case waterValveClose => exact onWater_again inp .zero waterValveClose_idem rfl
  case waterTamper => exact onWater_again inp .zero waterTamper_idem rfl
  case waterSetK => exact onWater_again inp .zero waterSetK_idem rfl
  case evStartReq => exact onEv_again inp .zero evStart_idem rfl
  case trkBeacon => exact onTr_again inp .zero trkBeacon_idem rfl
  case trkBattLow => exact onTr_again inp .zero trkBatt_idem rfl
  case trkSleep => exact onTr_again inp .zero trkSleep_idem rfl
  case agriPumpAuto => exact onAg_again inp .zero agriPumpAuto_idem rfl
  case agriPumpOn => exact onAg_again inp .zero (fun _ _ => pumpHw_again true) rfl
  case agriPumpOff => exact onAg_again inp .zero (fun _ _ => pumpHw_again false) rfl
  case agriSchedule => exact onAg_again inp .zero agriSchedule_idem rfl
  case agriInhibit => exact onAg_again inp .zero agriInhibit_idem rfl
  case coldSample => exact onCd_again inp .zero coldSample_idem rfl
  case coldDoor => exact onCd_again inp .zero coldDoor_idem rfl
  case coldAck => exact onCd_again inp .zero coldAck_idem rfl
  case robotUart => exact onRb_again inp .zero robotUart_idem rfl
  case robotBattery => exact onRb_again inp .zero robotBatt_idem rfl
  all_goals first | rfl | exact absurd rfl hpart | exact absurd (by decide) hid

/-- An operation runs a use case of the set. -/
def Op.RunsIn (profile : Profile) (A : Set IotUcId) (op : Op F) : Prop :=
  ∃ P id inp, op.useCase profile = some (P, id, inp) ∧ id ∈ A

theorem Op.apply_again {profile : Profile} {A : Set IotUcId}
    (hA : ∀ id ∈ A, id.part ≠ .platform ∧ id ∉ accumulating) (d : Device F) {op : Op F}
    (h : op.RunsIn profile A) : op.apply profile (op.apply profile d) = op.apply profile d := by
  obtain ⟨P, id, inp, hop, hid⟩ := h
  rw [Op.apply_useCase hop, Op.apply_useCase hop]
  exact run_again P (hA id hid).1 (hA id hid).2 inp d

/-- A request with its first numbers and its first counter. -/
def request (f0 f1 f2 : ℚ) (u0 : UInt32) : IotUcIn ℚ :=
  let z : IotUcIn ℚ := .zero
  { z with
    f := Function.update (Function.update (Function.update z.f 0 f0) 1 f1) 2 f2
    u := Function.update z.u 0 u0 }

/-- For each of the twelve, what happens before a request whose second delivery is noticed. -/
def noticed : IotUcId → List (Op ℚ) × IotUcIn ℚ
  | .energyMeasure => ([], request 230 1 0 0)
  | .energyAccum => ([.energyAdc 2000], .zero)
  | .energyOverPower =>
    ([.energyAdc 2000, .run hostPlatform .energySetLimits (request 1 0 0 0)], .zero)
  | .indSample => ([], request 25 0 1 0)
  | .indHoursTick => ([.indSample 25 0 1 1 0], .zero)
  | .pmFeatures => ([], request 1 0 0 0)
  | .waterMeter => ([], request 0 0 0 10)
  | .coldExcursion => ([.run hostPlatform .coldSample (request 30 0 0 0)], .zero)
  | _ => ([], .zero)

/-- A booted device that has come to the request. -/
def beforeNoticed (id : IotUcId) : Device ℚ :=
  (appMain hostPlatform .energy false none : Device ℚ).after .energy (noticed id).1

theorem noticed_twice : ∀ id ∈ accumulating,
    let once := (iotUcRun hostPlatform id (noticed id).2 (beforeNoticed id)).st
    (iotUcRun hostPlatform id (noticed id).2 once).st ≠ once := by
  have hreg : ∀ {β : Type} (reg : Device ℚ → β) {d d' : Device ℚ}, reg d' ≠ reg d → d' ≠ d :=
    fun reg _ _ h he => h (congrArg reg he)
  intro id hid
  simp only [accumulating, List.mem_cons, List.not_mem_nil, or_false] at hid
  rcases hid with rfl | rfl | rfl | rfl | rfl | rfl | rfl | rfl | rfl | rfl | rfl | rfl
  · exact hreg (·.energy.kwh) (by decide +kernel)
  · exact hreg (·.energy.kwh) (by decide +kernel)
  · exact hreg (·.energy.trips) (by decide +kernel)
  · exact hreg (·.ind.hours) (by decide +kernel)
  · exact hreg (·.ind.hours) (by decide +kernel)
  · exact hreg (·.ind.pulses) (by decide +kernel)
  · exact hreg (·.pm.rms) (by decide +kernel)
  · exact hreg (·.water.flowLpm) (by decide +kernel)
  · exact hreg (·.ev.session) (by decide +kernel)
  · exact hreg (·.can.busOff) (by decide +kernel)
  · exact hreg (·.cd.minutesHot) (by decide +kernel)
  · exact hreg (·.rb.hbAgeMs) (by decide +kernel)

/-- Repeating commands of a set of product use cases changes no run, on any device that was booted,
exactly when none of them adds to what it finds. -/
theorem redelivery_harmless_iff {A : Set IotUcId} (hA : ∀ id ∈ A, id.part ≠ .platform) :
    (∀ (profile : Profile) (d : Device ℚ), Reachable profile d → ∀ ops ops',
      Repeats (Op.RunsIn profile A) ops ops' → d.after profile ops' = d.after profile ops) ↔
      ∀ id ∈ A, id ∉ accumulating := by
  constructor
  · intro h id hid hacc
    let op : Op ℚ := .run hostPlatform id (noticed id).2
    have hruns : op.RunsIn .energy A := ⟨hostPlatform, id, _, rfl, hid⟩
    have hreach : Reachable .energy (beforeNoticed id) :=
      Device.after_keeps (fun op _ hd => hd.step op) _ (.boot hostPlatform false none)
    exact noticed_twice id hacc
      (h .energy (beforeNoticed id) hreach [op] [op, op] (.again hruns (.cons op .nil)))
  · intro h profile d _ ops ops' hrep
    exact hrep.foldl_eq (fun d _ => Op.apply_again (fun id hid => ⟨hA id hid, h id hid⟩) d) d

/-- A request to open the valve that is executed once more, before one to close it. -/
theorem reopening_harmless :
    let d : Device ℚ := appMain hostPlatform .water false none
    let opens : Op ℚ := .run hostPlatform .waterValveOpen .zero
    let closes : Op ℚ := .run hostPlatform .waterValveClose .zero
    d.after .water [opens, opens, closes] = d.after .water [opens, closes] := by
  intro d opens closes
  have hharmless := (redelivery_harmless_iff (A := {.waterValveOpen})
    (by simp [IotUcId.part])).mpr (by simp [accumulating])
  have hopens : opens.RunsIn .water {.waterValveOpen} :=
    ⟨hostPlatform, .waterValveOpen, _, rfl, rfl⟩
  exact hharmless .water d (.boot hostPlatform false none) _ _
    (.again hopens (.cons opens (.cons closes .nil)))

end IotPlatform
