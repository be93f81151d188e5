import IotPlatform.Executions

/-!
# The parts of a device

Use-case files share no variables, and of the pins the alarm LED belongs to the energy file and the
valve to the water file. Each handler keeps to the part of the device that its file owns.
-/
namespace IotPlatform
open CText CFloat

variable {F : Type} [CFloat F]

/-- The static variables of one use-case file, or of one half of it; `platform` stands for the
modules behind `iot_uc_platform.c`, and `unlisted` for nothing. -/
inductive Part
  | energy | industrial | predictive | water | evCharger | automotive | assetTracker | agriculture
  | coldchain | robotics | platform | unlisted
  deriving DecidableEq, Repr

/-- Whether the pins may be driven, and the level driven on one of them. -/
def Gpio.pin (pin : ℕ) (g : Gpio) : Bool × Bool := (g.init, g.level pin)

def Part.View (F : Type) : Part → Type
  | .energy => EnergySt F × Bool × Bool
  | .industrial => IndSt F
  | .predictive => PmSt F
  | .water => WaterSt F × Bool × Bool
  | .evCharger => EvSt F
  | .automotive => AutoSt
  | .assetTracker => TrkSt
  | .agriculture => AgriSt × Pwm
  | .coldchain => ColdSt F
  | .robotics => RobSt
  | .platform => SysSt
  | .unlisted => Unit

/-- The registers of a part, with the outputs that it drives. -/
def Device.view (d : Device F) : (k : Part) → k.View F
  | .energy => (d.energy, d.gpio.pin iotPinLed)
  | .industrial => d.ind
  | .predictive => d.pm
  | .water => (d.water, d.gpio.pin iotPinPwmOut)
  | .evCharger => d.ev
  | .automotive => d.can
  | .assetTracker => d.tr
  | .agriculture => (d.ag, d.pwm)
  | .coldchain => d.cd
  | .robotics => d.rb
  | .platform => d.sys
  | .unlisted => ()

/-- The part that a use case works on. -/
def IotUcId.part : IotUcId → Part
  | .invalid | .count => .unlisted
  | .pltFactoryReset | .pltSetSampleMs | .pltGetDiag | .pltProvision | .pltOta | .pltIdentity
  | .pltSetCloud | .pltSetLogLevel | .pltExportTopics | .pltWifiBackoffPolicy | .pltCmdSchema
  | .pltMarkOtaValid | .pltShutdown => .platform
  | .energyMeasure | .energyAccum | .energyOverPower | .energyOverVoltage | .energyUnderVoltage
  | .energyOverCurrent | .energySetLimits | .energyCalibrate | .energyResetDaily | .energyPf
  | .energyGetState | .energyLedAlarm => .energy
  | .indSample | .indStateMachine | .indSetLimits | .indAckAlarm | .indHoursTick | .indPulse =>
    .industrial
  | .pmFeatures | .pmHealth | .pmTrend | .pmResetPeak => .predictive
  | .waterMeter | .waterLeak | .waterBurst | .waterValveOpen | .waterValveClose | .waterTamper
  | .waterBillingFreeze | .waterSetK | .waterGetState => .water
  | .evSample | .evStartReq | .evStopReq | .evRejectContactor | .evSession | .evFaultLatch
  | .evGetState => .evCharger
  | .autoFilter | .autoDecode | .autoRejectTx | .autoBusOff | .autoDtc | .autoGetState =>
    .automotive
  | .trkBeacon | .trkMotion | .trkBattLow | .trkGeofence | .trkSleep => .assetTracker
  | .agriSoil | .agriPumpAuto | .agriPumpOn | .agriPumpOff | .agriSchedule | .agriInhibit =>
    .agriculture
  | .coldSample | .coldExcursion | .coldDoor | .coldAck | .coldDatalog => .coldchain
  | .robotUart | .robotHeartbeat | .robotRejectMotion | .robotEstopReport | .robotBattery =>
    .robotics

/-- What a call returns and reports, and what it leaves. -/
abbrev Act (F : Type) := Device F → (IotErr × Option (IotUcOut F)) × Device F

def Handler.act (fn : Handler F (Device F)) (inp : IotUcIn F) (out : IotUcOut F) : Act F := fun d =>
  let r := fn inp out d
  ((r.err, some r.out), r.st)

/-- A call answers and leaves on its part what it finds there, and nothing elsewhere. -/
structure Confined (k : Part) (g : Act F) : Prop where
  reply_eq : ∀ {d d' : Device F}, d.view k = d'.view k → (g d).1 = (g d').1
  view_eq : ∀ {d d' : Device F}, d.view k = d'.view k → (g d).2.view k = (g d').2.view k
  other : ∀ d {j : Part}, j ≠ k → (g d).2.view j = d.view j
  pins : ∀ d, (g d).2.gpio.init = d.gpio.init ∧
    ∀ pin, pin ≠ iotPinLed → pin ≠ iotPinPwmOut → (g d).2.gpio.level pin = d.gpio.level pin
  ready : ∀ {d}, d.ucInit = true → (g d).2.ucInit = true

def KeepsTo (k : Part) (fn : Handler F (Device F)) : Prop := ∀ inp out, Confined k (fn.act inp out)

/-- `iot_gpio_write`, or no call of it. -/
def Gpio.put (pin : ℕ) (level : Option Bool) (g : Gpio) : Gpio :=
  match level with
  | none => g
  | some l => (iotGpioWrite pin l g).2

theorem Gpio.put_init (pin : ℕ) (level : Option Bool) (g : Gpio) :
    (g.put pin level).init = g.init := by
  cases level with
  | none => rfl
  | some l =>
    simp only [Gpio.put, iotGpioWrite]
    split <;> rfl

theorem Gpio.put_other {pin q : ℕ} (h : q ≠ pin) (level : Option Bool) (g : Gpio) :
    (g.put pin level).level q = g.level q := by
  cases level with
  | none => rfl
  | some l =>
    simp only [Gpio.put, iotGpioWrite]
    split
    · rfl
    · exact Function.update_of_ne h _ _

theorem Gpio.put_pin {pin : ℕ} {g g' : Gpio} (h : g.pin pin = g'.pin pin)
    (level : Option Bool) : (g.put pin level).pin pin = (g'.put pin level).pin pin := by
  obtain ⟨hinit, hlevel⟩ := Prod.mk.inj h
  cases level with
  | none => exact h
  | some l =>
    cases hg : g'.init <;> simp [Gpio.put, iotGpioWrite, Gpio.pin, hinit, hg, hlevel]

theorem Gpio.put_pin_other {pin q : ℕ} (h : q ≠ pin) (level : Option Bool) (g : Gpio) :
    (g.put pin level).pin q = g.pin q :=
  Prod.ext (Gpio.put_init pin level g) (Gpio.put_other h level g)

/-- What a handler does to its registers when no pin may be driven. -/
def alone {σ : Type} (h : Handler F (σ × Gpio)) : Handler F σ := fun inp out s =>
  let r := h inp out (s, ⟨false, fun _ => false⟩)
  ⟨r.err, r.out, r.st.1⟩

/-- The handler looks at its registers alone, and at most writes to its pin. -/
def Drives {σ : Type} (pin : ℕ) (h : Handler F (σ × Gpio)) : Prop :=
  ∀ inp out s, ∃ level, ∀ g, h inp out (s, g) =
    ⟨(alone h inp out s).err, (alone h inp out s).out,
      ((alone h inp out s).st, g.put pin level)⟩

omit [CFloat F] in
theorem onEnergy_keepsTo {h : Handler F (EnergySt F × Gpio)} (hh : Drives iotPinLed h) :
    KeepsTo .energy (onEnergy h) := fun inp out =>
  { reply_eq := by
      intro d d' hd
      obtain ⟨hs, -⟩ := Prod.mk.inj hd
      obtain ⟨level, hrun⟩ := hh inp out d'.energy
      simp only [Handler.act, onEnergy, Handler.at, hs, hrun]
    view_eq := by
      intro d d' hd
      obtain ⟨hs, hpin⟩ := Prod.mk.inj hd
      obtain ⟨level, hrun⟩ := hh inp out d'.energy
      simp only [Handler.act, onEnergy, Handler.at, hs, hrun]
      exact congrArg (Prod.mk (alone h inp out _).st) (Gpio.put_pin hpin level)
    other := by
      intro d j hj
      obtain ⟨level, hrun⟩ := hh inp out d.energy
      cases j
      case energy => exact absurd rfl hj
      case water =>
        have hput := Gpio.put_pin_other (show iotPinPwmOut ≠ iotPinLed by decide) level d.gpio
        simp only [Handler.act, onEnergy, Handler.at, hrun]
        exact congrArg (Prod.mk d.water) hput
      all_goals rfl
    pins := by
      intro d
      obtain ⟨level, hrun⟩ := hh inp out d.energy
      simp only [Handler.act, onEnergy, Handler.at, hrun]
      exact ⟨Gpio.put_init _ _ _, fun pin hled hvalve => Gpio.put_other hled _ _⟩
    ready := id }

omit [CFloat F] in
theorem onWater_keepsTo {h : Handler F (WaterSt F × Gpio)} (hh : Drives iotPinPwmOut h) :
    KeepsTo .water (onWater h) := fun inp out =>
  { reply_eq := by
      intro d d' hd
      obtain ⟨hs, -⟩ := Prod.mk.inj hd
      obtain ⟨level, hrun⟩ := hh inp out d'.water
      simp only [Handler.act, onWater, Handler.at, hs, hrun]
    view_eq := by
      intro d d' hd
      obtain ⟨hs, hpin⟩ := Prod.mk.inj hd
      obtain ⟨level, hrun⟩ := hh inp out d'.water
      simp only [Handler.act, onWater, Handler.at, hs, hrun]
      exact congrArg (Prod.mk (alone h inp out _).st) (Gpio.put_pin hpin level)
    other := by
      intro d j hj
      obtain ⟨level, hrun⟩ := hh inp out d.water
      cases j
      case water => exact absurd rfl hj
      case energy =>
        have hput := Gpio.put_pin_other (show iotPinLed ≠ iotPinPwmOut by decide) level d.gpio
        simp only [Handler.act, onWater, Handler.at, hrun]
        exact congrArg (Prod.mk d.energy) hput
      all_goals rfl
    pins := by
      intro d
      obtain ⟨level, hrun⟩ := hh inp out d.water
      simp only [Handler.act, onWater, Handler.at, hrun]
      exact ⟨Gpio.put_init _ _ _, fun pin hled hvalve => Gpio.put_other hvalve _ _⟩
    ready := id }

/-- Storing a part changes that part and no other, and no pin. -/
structure Stores (k : Part) (put : k.View F → Device F → Device F) : Prop where
  view_put : ∀ s d, (put s d).view k = s := by intros; rfl
  other : ∀ s d j, j ≠ k → (put s d).view j = d.view j := by
    intro s d j hj
    cases j <;> first | rfl | exact absurd rfl hj
  gpio : ∀ s d, (put s d).gpio = d.gpio := by intros; rfl
  ready : ∀ s d, (put s d).ucInit = d.ucInit := by intros; rfl

section
omit [CFloat F]

theorem at_keepsTo {k : Part} {put : k.View F → Device F → Device F} (hput : Stores k put)
    (h : Handler F (k.View F)) : KeepsTo k (h.at (fun d => d.view k) put) := fun inp out =>
  { reply_eq := fun hd => by simp only [Handler.act, Handler.at, hd]
    view_eq := fun hd => by simp only [Handler.act, Handler.at, hput.view_put, hd]
    other := fun _ _ hj => hput.other _ _ _ hj
    pins := fun d => by simp [Handler.act, Handler.at, hput.gpio]
    ready := fun hd => (hput.ready _ _).trans hd }

theorem onInd_keepsTo (h : Handler F (IndSt F)) : KeepsTo .industrial (onInd h) :=
  at_keepsTo (k := .industrial) (show Stores .industrial fun s d => { d with ind := s } from {}) h

theorem onPm_keepsTo (h : Handler F (PmSt F)) : KeepsTo .predictive (onPm h) :=
  at_keepsTo (k := .predictive) (show Stores .predictive fun s d => { d with pm := s } from {}) h

theorem onEv_keepsTo (h : Handler F (EvSt F)) : KeepsTo .evCharger (onEv h) :=
  at_keepsTo (k := .evCharger) (show Stores .evCharger fun s d => { d with ev := s } from {}) h

theorem onCan_keepsTo (h : Handler F AutoSt) : KeepsTo .automotive (onCan h) :=
  at_keepsTo (k := .automotive) (show Stores .automotive fun s d => { d with can := s } from {}) h

theorem onTr_keepsTo (h : Handler F TrkSt) : KeepsTo .assetTracker (onTr h) :=
  at_keepsTo (k := .assetTracker)
    (show Stores .assetTracker fun s d => { d with tr := s } from {}) h

theorem onAg_keepsTo (h : Handler F (AgriSt × Pwm)) : KeepsTo .agriculture (onAg h) :=
  at_keepsTo (k := .agriculture)
    (show Stores .agriculture fun s d => { d with ag := s.1, pwm := s.2 } from {}) h

theorem onCd_keepsTo (h : Handler F (ColdSt F)) : KeepsTo .coldchain (onCd h) :=
  at_keepsTo (k := .coldchain) (show Stores .coldchain fun s d => { d with cd := s } from {}) h

theorem onRb_keepsTo (h : Handler F RobSt) : KeepsTo .robotics (onRb h) :=
  at_keepsTo (k := .robotics) (show Stores .robotics fun s d => { d with rb := s } from {}) h

theorem onSys_keepsTo (h : Handler F SysSt) : KeepsTo .platform (onSys h) :=
  at_keepsTo (k := .platform) (show Stores .platform fun s d => { d with sys := s } from {}) h

end

theorem energyMeasure_drives : Drives iotPinLed (iotUcEnergyMeasure (F := F)) := by
  intro inp out s
  refine ⟨some (alone iotUcEnergyMeasure inp out s).st.alarm, fun g => ?_⟩
  unfold alone iotUcEnergyMeasure
  cases inp.has (txt "v") <;> rfl

omit [CFloat F] in
theorem Drives.of_input {σ : Type} {pin : ℕ} {h h' : Handler F (σ × Gpio)} (hh : Drives pin h)
    (input : σ → IotUcIn F) (heq : ∀ inp out s g, h' inp out (s, g) = h (input s) out (s, g)) :
    Drives pin h' := by
  intro inp out s
  obtain ⟨level, hrun⟩ := hh (input s) out s
  generalize alone h (input s) out s = r at hrun
  exact ⟨level, fun g => by simp only [alone, heq, hrun]⟩

theorem energy_drives (P : Platform) {id : IotUcId} (hid : id.part = .energy) :
    ∃ h : Handler F (EnergySt F × Gpio), entryFn P id = some (onEnergy h) ∧
      Drives iotPinLed h := by
  cases id <;> try exact absurd hid (by decide)
  case energyMeasure => exact ⟨_, rfl, energyMeasure_drives⟩
  case energyLedAlarm =>
    exact ⟨_, rfl, fun inp out s => ⟨some s.alarm, fun _ => rfl⟩⟩
  case energyCalibrate =>
    refine ⟨_, rfl, fun inp out s => ⟨none, fun g => ?_⟩⟩
    simp only [alone, iotUcEnergyCalibrate]
    split_ifs <;> rfl
  case energyPf =>
    refine ⟨_, rfl, fun inp out s => ⟨none, fun g => ?_⟩⟩
    simp only [alone, iotUcEnergyPf]
    split_ifs <;> rfl
  all_goals exact ⟨_, rfl, fun inp out s => ⟨none, fun _ => rfl⟩⟩

theorem waterBurst_drives : Drives iotPinPwmOut (iotUcWaterBurst (F := F)) := by
  intro inp out w
  by_cases hb : w.burstLpm < w.flowLpm
  · refine ⟨some false, fun g => ?_⟩
    simp only [alone, iotUcWaterBurst, hb, decide_true, if_true]
    rfl
  · refine ⟨none, fun g => ?_⟩
    simp only [alone, iotUcWaterBurst, hb, decide_false, Bool.false_eq_true, if_false]
    rfl

theorem waterMeter_drives : Drives iotPinPwmOut (iotUcWaterMeter (F := F)) := by
  intro inp out w
  let r := iotUcWaterLeak inp out
    (waterCount (meterPulses inp) (inp.i 0) w, ⟨false, fun _ => false⟩)
  obtain ⟨level, hburst⟩ := waterBurst_drives inp r.out r.st.1
  generalize alone iotUcWaterBurst inp r.out r.st.1 = r' at hburst
  have hmeter : ∀ g, iotUcWaterMeter inp out (w, g) =
      ⟨.ok, waterJson (iotUcWaterBurst inp r.out (r.st.1, g)).out .waterMeter
        (iotUcWaterBurst inp r.out (r.st.1, g)).st.1,
        (iotUcWaterBurst inp r.out (r.st.1, g)).st⟩ := fun _ => rfl
  exact ⟨level, fun g => by simp only [alone, hmeter, hburst]⟩

theorem water_drives (P : Platform) {id : IotUcId} (hid : id.part = .water) :
    ∃ h : Handler F (WaterSt F × Gpio), entryFn P id = some (onWater h) ∧
      Drives iotPinPwmOut h := by
  cases id <;> try exact absurd hid (by decide)
  case waterMeter => exact ⟨_, rfl, waterMeter_drives⟩
  case waterBurst => exact ⟨_, rfl, waterBurst_drives⟩
  case waterValveOpen =>
    refine ⟨_, rfl, fun inp out w => ?_⟩
    cases ht : w.tamper with
    | true =>
      refine ⟨none, fun g => ?_⟩
      simp only [alone, iotUcWaterValveOpen, ht, if_true]
      rfl
    | false =>
      refine ⟨some true, fun g => ?_⟩
      simp only [alone, iotUcWaterValveOpen, ht, Bool.false_eq_true, if_false]
      rfl
  case waterSetK =>
    refine ⟨_, rfl, fun inp out w => ⟨none, fun g => ?_⟩⟩
    simp only [alone, iotUcWaterSetK]
    split_ifs <;> rfl
  case waterValveClose =>
    exact ⟨_, rfl, fun inp out w => ⟨some false, fun _ => rfl⟩⟩
  case waterTamper =>
    exact ⟨_, rfl, fun inp out w => ⟨some false, fun _ => rfl⟩⟩
  all_goals exact ⟨_, rfl, fun inp out w => ⟨none, fun _ => rfl⟩⟩

theorem entryFn_keepsTo (P : Platform) {id : IotUcId} (hid : id.part ≠ .unlisted) :
    ∃ fn : Handler F (Device F), entryFn P id = some fn ∧ KeepsTo id.part fn := by
  by_cases he : id.part = .energy
  · obtain ⟨h, hfn, hd⟩ := energy_drives (F := F) P he
    exact ⟨_, hfn, he ▸ onEnergy_keepsTo hd⟩
  by_cases hw : id.part = .water
  · obtain ⟨h, hfn, hd⟩ := water_drives (F := F) P hw
    exact ⟨_, hfn, hw ▸ onWater_keepsTo hd⟩
  cases id <;> try first | exact absurd rfl hid | exact absurd rfl he | exact absurd rfl hw
  case indSample | indStateMachine | indSetLimits | indAckAlarm | indHoursTick | indPulse =>
    exact ⟨_, rfl, onInd_keepsTo _⟩
  case pmFeatures | pmHealth | pmTrend | pmResetPeak => exact ⟨_, rfl, onPm_keepsTo _⟩
  case evSample | evStartReq | evStopReq | evRejectContactor | evSession | evFaultLatch
      | evGetState =>
    exact ⟨_, rfl, onEv_keepsTo _⟩
  case autoFilter | autoDecode | autoRejectTx | autoBusOff | autoDtc | autoGetState =>
    exact ⟨_, rfl, onCan_keepsTo _⟩
  case trkBeacon | trkMotion | trkBattLow | trkGeofence | trkSleep =>
    exact ⟨_, rfl, onTr_keepsTo _⟩
  case agriSoil | agriPumpAuto | agriPumpOn | agriPumpOff | agriSchedule | agriInhibit =>
    exact ⟨_, rfl, onAg_keepsTo _⟩
  case coldSample | coldExcursion | coldDoor | coldAck | coldDatalog =>
    exact ⟨_, rfl, onCd_keepsTo _⟩
  case robotUart | robotHeartbeat | robotRejectMotion | robotEstopReport | robotBattery =>
    exact ⟨_, rfl, onRb_keepsTo _⟩
  all_goals exact ⟨_, rfl, onSys_keepsTo _⟩

omit [CFloat F] in
theorem Device.view_ucInit (d : Device F) (k : Part) :
    Device.view { d with ucInit := true } k = d.view k := by
  cases k <;> rfl

/-- A use case, called through the dispatcher. -/
def runAct (P : Platform) (id : IotUcId) (inp : IotUcIn F) : Act F := fun d =>
  (((iotUcRun P id inp d).err, some (iotUcRun P id inp d).out), (iotUcRun P id inp d).st)

theorem runAct_confined (P : Platform) (id : IotUcId) (inp : IotUcIn F) :
    Confined id.part (runAct P id inp) := by
  by_cases hid : id.part = .unlisted
  · have hfn : (entryFn P id : Option (Handler F (Device F))) = none := by
      cases id <;> first | rfl | exact absurd hid (by decide)
    have hrun : ∀ d, runAct P id inp d =
        ((.notFound, some (iotUcOutErr .zero id .notFound)), { d with ucInit := true }) := by
      intro d
      simp only [runAct, iotUcRun, hfn]
    exact
      { reply_eq := fun _ => by rw [hrun, hrun]
        view_eq := fun hd => by simp only [hrun, Device.view_ucInit, hd]
        other := fun d j _ => by rw [hrun, Device.view_ucInit]
        pins := fun d => by rw [hrun]; exact ⟨rfl, fun _ _ _ => rfl⟩
        ready := fun _ => by rw [hrun] }
  · obtain ⟨fn, hfn, hkeep⟩ := entryFn_keepsTo (F := F) P hid
    have hkeep := hkeep inp .zero
    have hrun : ∀ d, runAct P id inp d = fn.act inp .zero { d with ucInit := true } := by
      intro d
      simp only [runAct, iotUcRun, hfn, Handler.act]
    have hsame : ∀ {d d' : Device F}, d.view id.part = d'.view id.part →
        Device.view { d with ucInit := true } id.part =
          Device.view { d' with ucInit := true } id.part := by
      intro d d' hd
      rw [Device.view_ucInit, Device.view_ucInit, hd]
    exact
      { reply_eq := fun hd => by rw [hrun, hrun, hkeep.reply_eq (hsame hd)]
        view_eq := fun hd => by rw [hrun, hrun, hkeep.view_eq (hsame hd)]
        other := fun d j hj => by rw [hrun, hkeep.other _ hj, Device.view_ucInit]
        pins := fun d => by rw [hrun]; exact hkeep.pins _
        ready := fun _ => by rw [hrun]; exact hkeep.ready rfl }

end IotPlatform
