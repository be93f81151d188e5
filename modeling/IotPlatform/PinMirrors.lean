import IotPlatform.EnergyAlarm
import IotPlatform.Interlocks

/-!
# Output pins and the registers they show

The alarm LED is driven by `energy.measure` and `energy.led_alarm` only, while each trip check
changes the alarm. The valve pin is driven with every change of the valve register, but the register
starts open and the pin low.
-/
namespace IotPlatform
open CText CFloat Runs

variable {F : Type} [CFloat F]

section
omit [CFloat F]

def LedMirrors (d : Device F) : Prop := d.gpio.level iotPinLed = d.energy.alarm

def ValveMirrors (d : Device F) : Prop := d.gpio.level iotPinPwmOut = d.water.valveOpen

instance (d : Device F) : Decidable (LedMirrors d) := inferInstanceAs (Decidable (_ = _))

theorem iotGpioWrite_other {pin q : ℕ} (h : q ≠ pin) (level : Bool) (g : Gpio) :
    (iotGpioWrite pin level g).2.level q = g.level q := by
  unfold iotGpioWrite
  split
  · rfl
  · exact Function.update_of_ne h _ _

theorem ledAlarm_mirrors {g : Gpio} (h : g.init = true) (s : EnergySt F) :
    (iotGpioWrite iotPinLed s.alarm g).2.level iotPinLed = s.alarm :=
  (iotGpioWrite_level h _ _ _).trans (if_pos rfl)

theorem applyValve_led (isOpen : Bool) (st : WaterSt F × Gpio) :
    (applyValve isOpen st).2.level iotPinLed = st.2.level iotPinLed :=
  iotGpioWrite_other (by decide) _ _

theorem applyValve_mirrors (w : WaterSt F) {g : Gpio} (h : g.init = true) (isOpen : Bool) :
    (applyValve isOpen (w, g)).2.level iotPinPwmOut = (applyValve isOpen (w, g)).1.valveOpen :=
  (iotGpioWrite_level h _ _ _).trans (if_pos rfl)

end

/-- The record that `iot_uc_water_on_sample` hands to `iot_uc_water_meter`. -/
def waterSampleInput (pulses : UInt32) (tankMv : Int32) : IotUcIn F :=
  let z : IotUcIn F := .zero
  { z with u := Function.update z.u 0 pulses, i := Function.update z.i 0 tankMv }

def tripChecks : List IotUcId :=
  [.energyOverPower, .energyOverVoltage, .energyUnderVoltage, .energyOverCurrent]

/-- The alarm register and the level of its LED. -/
def Device.alarmOut (d : Device F) : Bool × Bool := (d.energy.alarm, d.gpio.level iotPinLed)

/-- What a request may do to the alarm and its LED: show the alarm, store what a trip check has
tested with the LED as it was, or leave both alone. -/
def AlarmStep (id : IotUcId) (d d' : Device F) : Prop :=
  (id ∉ tripChecks ∧ (LedMirrors d' ∨ d'.alarmOut = d.alarmOut)) ∨
    (id ∈ tripChecks ∧ (d'.energy.alarm = true ↔ d.energy.Exceeds id) ∧
      d'.gpio.level iotPinLed = d.gpio.level iotPinLed)

theorem iotUcWaterBurst_led (inp : IotUcIn F) (out : IotUcOut F) (st : WaterSt F × Gpio) :
    (iotUcWaterBurst inp out st).st.2.level iotPinLed = st.2.level iotPinLed := by
  rcases iotUcWaterBurst_cases inp out st.1 st.2 with h | h
  · rw [h]
  · rw [h]
    exact applyValve_led false _

theorem iotUcWaterMeter_led (inp : IotUcIn F) (out : IotUcOut F) (st : WaterSt F × Gpio) :
    (iotUcWaterMeter inp out st).st.2.level iotPinLed = st.2.level iotPinLed := by
  let r := iotUcWaterLeak inp out (waterCount (meterPulses inp) (inp.i 0) st.1, st.2)
  exact iotUcWaterBurst_led inp r.out r.st

theorem iotUcRun_alarm (P : Platform) (id : IotUcId) (inp : IotUcIn F) {d : Device F}
    (h : d.gpio.init = true) : AlarmStep id d (iotUcRun P id inp d).st := by
  cases id
  case energyMeasure | energyLedAlarm => exact Or.inl ⟨by decide, Or.inl (ledAlarm_mirrors h _)⟩
  case energyOverPower | energyOverVoltage | energyUnderVoltage | energyOverCurrent =>
    exact Or.inr ⟨by decide, decide_eq_true_iff, rfl⟩
  case energyCalibrate =>
    refine Or.inl ⟨by decide, Or.inr ?_⟩
    simp only [iotUcRun, entryFn, onEnergy, Handler.at, iotUcEnergyCalibrate]
    split <;> rfl
  case energyPf =>
    refine Or.inl ⟨by decide, Or.inr ?_⟩
    simp only [iotUcRun, entryFn, onEnergy, Handler.at, iotUcEnergyPf]
    split <;> rfl
  case energySetLimits =>
    refine Or.inl ⟨by decide, Or.inr ?_⟩
    simp only [iotUcRun, entryFn, onEnergy, Handler.at, iotUcEnergySetLimits, Device.alarmOut]
    split <;> rfl
  case waterMeter =>
    exact Or.inl ⟨by decide, Or.inr (Prod.ext rfl (iotUcWaterMeter_led inp .zero _))⟩
  case waterBurst =>
    exact Or.inl ⟨by decide, Or.inr (Prod.ext rfl (iotUcWaterBurst_led inp .zero _))⟩
  case waterValveOpen =>
    refine Or.inl ⟨by decide, Or.inr (Prod.ext rfl ?_)⟩
    simp only [iotUcRun, entryFn, onWater, Handler.at, iotUcWaterValveOpen, Device.alarmOut]
    split
    · rfl
    · exact applyValve_led true _
  case waterValveClose =>
    exact Or.inl ⟨by decide, Or.inr (Prod.ext rfl (applyValve_led false _))⟩
  case waterTamper =>
    exact Or.inl ⟨by decide, Or.inr (Prod.ext rfl (applyValve_led false _))⟩
  case waterSetK =>
    refine Or.inl ⟨by decide, Or.inr ?_⟩
    simp only [iotUcRun, entryFn, onWater, Handler.at, iotUcWaterSetK]
    split <;> rfl
  all_goals exact Or.inl ⟨by decide, Or.inr rfl⟩

theorem energyAdc_mirrors (profile : Profile) (mv : Int32) {d : Device F}
    (h : d.gpio.init = true) : LedMirrors ((Op.energyAdc mv : Op F).apply profile d) := by
  simp only [LedMirrors, Op.apply, sampled, onEnergy, Handler.at, iotUcEnergyOnAdc,
    iotUcEnergyMeasure, iotUcEnergyLedAlarm]
  exact ledAlarm_mirrors h _

/-- A trip check finds what the alarm says already. -/
def ChecksConfirm (profile : Profile) (d : Device F) (op : Op F) : Prop :=
  ∀ id inp, op.energyRequest profile d.energy = some (id, inp) → id ∈ tripChecks →
    (d.energy.Exceeds id ↔ d.energy.alarm = true)

theorem Op.apply_alarm (profile : Profile) (op : Op F) {d : Device F} (h : d.gpio.init = true) :
    (∃ id inp, op.energyRequest profile d.energy = some (id, inp) ∧
      AlarmStep id d (op.apply profile d)) ∨
    (op.energyRequest profile d.energy = none ∧
      (op.apply profile d).alarmOut = d.alarmOut) := by
  by_cases hs : op.IsSample
  · cases op with
    | energyAdc mv =>
      exact Or.inl ⟨.energyMeasure, adcInput mv d.energy, rfl,
        Or.inl ⟨by decide, Or.inl (energyAdc_mirrors profile mv h)⟩⟩
    | waterSample pulses tankMv =>
      have hled := iotUcWaterMeter_led (waterSampleInput pulses tankMv) .zero (d.water, d.gpio)
      exact Or.inr ⟨rfl, Prod.ext rfl hled⟩
    | command | run | runJson | otaProgress | diag => exact hs.elim
    | _ => exact Or.inr ⟨rfl, rfl⟩
  · have hr : op.energyRequest profile d.energy = (op.useCase profile).map Prod.snd := by
      cases op with
      | energyAdc mv => exact absurd trivial hs
      | _ => rfl
    rcases op.apply_cases profile d with ⟨P, id, inp, hu, heq⟩ | ⟨-, hs'⟩ | ⟨hu, -, s, heq, -⟩
    · refine Or.inl ⟨id, inp, by rw [hr, hu]; rfl, ?_⟩
      rw [heq]
      exact iotUcRun_alarm P id inp h
    · exact absurd hs' hs
    · exact Or.inr ⟨by rw [hr, hu]; rfl, by rw [heq]; rfl⟩

theorem LedMirrors.step_iff {profile : Profile} {op : Op F} {d : Device F}
    (h : d.gpio.init = true) (hm : LedMirrors d) :
    ChecksConfirm profile d op ↔ LedMirrors (op.apply profile d) := by
  rcases op.apply_alarm profile h with ⟨id, inp, hreq, hstep⟩ | ⟨hreq, hout⟩
  · rw [ChecksConfirm, forall_request hreq]
    rcases hstep with ⟨hid, hshown | hout⟩ | ⟨hid, halarm, hled⟩
    · exact iff_of_true (fun h => absurd h hid) hshown
    · obtain ⟨ha, hl⟩ := Prod.ext_iff.mp hout
      exact iff_of_true (fun h => absurd h hid) (hl.trans (hm.trans ha.symm))
    · have hm' : d.gpio.level iotPinLed = d.energy.alarm := hm
      have hmirrors : LedMirrors (op.apply profile d) ↔
          (d.energy.alarm = true ↔ (op.apply profile d).energy.alarm = true) := by
        rw [LedMirrors, hled, hm', Bool.eq_iff_iff]
      rw [hmirrors, halarm]
      exact ⟨fun h => (h hid).symm, fun h _ => h.symm⟩
  · obtain ⟨ha, hl⟩ := Prod.ext_iff.mp hout
    exact iff_of_true (fun _ _ h => by simp [hreq] at h) (hl.trans (hm.trans ha.symm))

/-- The use case whose handler an operation executes, a sample of the hook counted as
`water.meter`. -/
def Op.waterRequest (profile : Profile) (op : Op F) : Option (IotUcId × IotUcIn F) :=
  match op with
  | .waterSample pulses tankMv => some (.waterMeter, waterSampleInput pulses tankMv)
  | op => (op.useCase profile).map Prod.snd

/-- The handler of the request calls `apply_valve`. -/
def DrivesValve (w : WaterSt F) (id : IotUcId) (inp : IotUcIn F) : Prop :=
  match id with
  | .waterValveClose | .waterTamper => True
  | .waterValveOpen => w.tamper = false
  | .waterBurst => w.burstLpm < w.flowLpm
  | .waterMeter => w.burstLpm < (waterCount (meterPulses inp) (inp.i 0) w).flowLpm
  | _ => False

def Op.DrivesValve (profile : Profile) (op : Op F) (d : Device F) : Prop :=
  ∃ id inp, op.waterRequest profile = some (id, inp) ∧ IotPlatform.DrivesValve d.water id inp

/-- The valve register and the level of its pin. -/
def Device.valveOut (d : Device F) : Bool × Bool :=
  (d.water.valveOpen, d.gpio.level iotPinPwmOut)

/-- A call of `apply_valve` makes register and pin agree; without one both stay. -/
def ValveOut (drives : Prop) (d d' : Device F) : Prop :=
  (drives ∧ ValveMirrors d') ∨ (¬ drives ∧ d'.valveOut = d.valveOut)

theorem iotUcWaterBurst_out {w : WaterSt F} {g : Gpio} (h : g.init = true) (inp : IotUcIn F)
    (out : IotUcOut F) :
    let st := (iotUcWaterBurst inp out (w, g)).st
    (w.burstLpm < w.flowLpm ∧ st.2.level iotPinPwmOut = st.1.valveOpen) ∨
      (¬ w.burstLpm < w.flowLpm ∧ st.1.valveOpen = w.valveOpen ∧ st.2 = g) := by
  by_cases hb : w.burstLpm < w.flowLpm
  · have hst : (iotUcWaterBurst inp out (w, g)).st =
        applyValve false ({ w with burst := true }, g) := by simp [iotUcWaterBurst, hb]
    refine Or.inl ⟨hb, ?_⟩
    rw [hst]
    exact applyValve_mirrors { w with burst := true } h false
  · have hst : (iotUcWaterBurst inp out (w, g)).st = ({ w with burst := false }, g) := by
      simp [iotUcWaterBurst, hb]
    exact Or.inr ⟨hb, by rw [hst], by rw [hst]⟩

theorem waterCount_burstLpm (pulses : UInt32) (tankMv : Int32) (w : WaterSt F) :
    (waterCount pulses tankMv w).burstLpm = w.burstLpm := by
  unfold waterCount
  dsimp only
  split <;> rfl

theorem valveOut_of_meter {d d' : Device F} (h : d.gpio.init = true) (inp : IotUcIn F)
    (out : IotUcOut F) (hd : (d'.water, d'.gpio) = (iotUcWaterMeter inp out (d.water, d.gpio)).st) :
    ValveOut (DrivesValve d.water .waterMeter inp) d d' := by
  obtain ⟨hw, hg⟩ := Prod.mk.inj hd
  let w := waterCount (meterPulses inp) (inp.i 0) d.water
  let r := iotUcWaterLeak inp out (w, d.gpio)
  have hvalve : r.st.1.valveOpen = d.water.valveOpen :=
    (waterCount_valve (meterPulses inp) (inp.i 0) d.water).1
  have hlpm : r.st.1.burstLpm = d.water.burstLpm :=
    waterCount_burstLpm (meterPulses inp) (inp.i 0) d.water
  have hburst := iotUcWaterBurst_out (w := r.st.1) h inp r.out
  rw [hlpm] at hburst
  rcases hburst with ⟨hb, hm⟩ | ⟨hb, hv, hl⟩
  · refine Or.inl ⟨hb, ?_⟩
    rw [ValveMirrors, hw, hg]
    exact hm
  · refine Or.inr ⟨hb, Prod.ext ?_ ?_⟩
    · exact (congrArg WaterSt.valveOpen hw).trans (hv.trans hvalve)
    · exact congrArg (fun g : Gpio => g.level iotPinPwmOut) (hg.trans hl)

theorem iotUcRun_valveOut (P : Platform) (id : IotUcId) (inp : IotUcIn F) {d : Device F}
    (h : d.gpio.init = true) :
    ValveOut (DrivesValve d.water id inp) d (iotUcRun P id inp d).st := by
  cases id
  case energyMeasure | energyLedAlarm =>
    exact Or.inr ⟨not_false, Prod.ext rfl (iotGpioWrite_other (by decide) _ _)⟩
  case energyCalibrate =>
    refine Or.inr ⟨not_false, ?_⟩
    simp only [iotUcRun, entryFn, onEnergy, Handler.at, iotUcEnergyCalibrate]
    split <;> rfl
  case energyPf =>
    refine Or.inr ⟨not_false, ?_⟩
    simp only [iotUcRun, entryFn, onEnergy, Handler.at, iotUcEnergyPf]
    split <;> rfl
  case waterMeter => exact valveOut_of_meter h inp .zero rfl
  case waterBurst =>
    rcases iotUcWaterBurst_out (w := d.water) h inp .zero with ⟨hb, hm⟩ | ⟨hb, hv, hg⟩
    · exact Or.inl ⟨hb, hm⟩
    · exact Or.inr ⟨hb, Prod.ext hv (congrArg (fun g : Gpio => g.level iotPinPwmOut) hg)⟩
  case waterValveOpen =>
    simp only [iotUcRun, entryFn, onWater, Handler.at, iotUcWaterValveOpen]
    cases ht : d.water.tamper with
    | true => exact Or.inr ⟨by simp [DrivesValve, ht], rfl⟩
    | false => exact Or.inl ⟨ht, applyValve_mirrors d.water h true⟩
  case waterValveClose =>
    exact Or.inl ⟨trivial, applyValve_mirrors d.water h false⟩
  case waterTamper =>
    exact Or.inl ⟨trivial,
      applyValve_mirrors { d.water with tamper := true } h false⟩
  case waterSetK =>
    refine Or.inr ⟨not_false, ?_⟩
    simp only [iotUcRun, entryFn, onWater, Handler.at, iotUcWaterSetK]
    split <;> rfl
  all_goals exact Or.inr ⟨not_false, rfl⟩

theorem Op.drivesValve_iff {profile : Profile} {op : Op F} {id : IotUcId} {inp : IotUcIn F}
    (h : op.waterRequest profile = some (id, inp)) (d : Device F) :
    op.DrivesValve profile d ↔ IotPlatform.DrivesValve d.water id inp := by
  constructor
  · rintro ⟨id', inp', h', hd⟩
    obtain ⟨rfl, rfl⟩ : id = id' ∧ inp = inp' := by simpa using h.symm.trans h'
    exact hd
  · exact fun hd => ⟨id, inp, h, hd⟩

theorem Op.apply_valveOut (profile : Profile) (op : Op F) {d : Device F}
    (h : d.gpio.init = true) :
    ValveOut (op.DrivesValve profile d) d (op.apply profile d) := by
  have hnone : op.waterRequest profile = none → ¬ op.DrivesValve profile d := by
    rintro hr ⟨id, inp, hr', -⟩
    simp [hr] at hr'
  by_cases hs : op.IsSample
  · cases op with
    | energyAdc mv =>
      exact Or.inr ⟨hnone rfl, Prod.ext rfl (iotGpioWrite_other (by decide) _ _)⟩
    | waterSample pulses tankMv =>
      rw [Op.drivesValve_iff rfl]
      exact valveOut_of_meter h (waterSampleInput pulses tankMv) .zero rfl
    | command | run | runJson | otaProgress | diag => exact hs.elim
    | _ => exact Or.inr ⟨hnone rfl, rfl⟩
  · have hr : op.waterRequest profile = (op.useCase profile).map Prod.snd := by
      cases op with
      | waterSample => exact absurd trivial hs
      | _ => rfl
    rcases op.apply_cases profile d with ⟨P, id, inp, hu, heq⟩ | ⟨-, hs'⟩ | ⟨hu, -, s, heq, -⟩
    · rw [Op.drivesValve_iff (by rw [hr, hu]; rfl), heq]
      exact iotUcRun_valveOut P id inp h
    · exact absurd hs' hs
    · exact Or.inr ⟨hnone (by rw [hr, hu]; rfl), by rw [heq]; rfl⟩

section
variable {profile : Profile} {d : Device F}

/-- Once register and pin agree they stay so. -/
theorem ValveMirrors.after (h : d.gpio.init = true) (hm : ValveMirrors d) (ops : List (Op F)) :
    ValveMirrors (d.after profile ops) := by
  refine (Device.after_keeps (Q := fun d => d.gpio.init = true ∧ ValveMirrors d)
    (fun op d hd => ⟨(op.apply_valve profile hd.1).driver, ?_⟩) ops ⟨h, hm⟩).2
  rcases op.apply_valveOut profile hd.1 with ⟨-, hm'⟩ | ⟨-, hout⟩
  · exact hm'
  · obtain ⟨hv, hl⟩ := Prod.ext_iff.mp hout
    exact hl.trans (hd.2.trans hv.symm)

/-- Until the valve is driven they do not agree, if they did not at first. -/
theorem valveMirrors_after_iff (h : d.gpio.init = true) (hm : ¬ ValveMirrors d)
    (ops : List (Op F)) : ValveMirrors (d.after profile ops) ↔
      ∃ e ∈ trace (Op.apply profile) d ops, e.2.1.DrivesValve profile e.1 := by
  induction ops generalizing d with
  | nil => simpa [trace, Device.after] using hm
  | cons op ops ih =>
    have hi := (op.apply_valve profile h).driver
    have hafter : d.after profile (op :: ops) = (op.apply profile d).after profile ops := rfl
    simp only [hafter, trace, List.mem_cons, exists_eq_or_imp]
    rcases op.apply_valveOut profile h with ⟨hd, hm'⟩ | ⟨hd, hout⟩
    · exact iff_of_true (hm'.after hi ops) (Or.inl hd)
    · obtain ⟨hv, hl⟩ := Prod.ext_iff.mp hout
      have hm' : ¬ ValveMirrors (op.apply profile d) := fun hm' => hm (hl.symm.trans (hm'.trans hv))
      rw [ih hi hm', or_iff_right hd]

end

/-- Along a run the LED shows the alarm in every state exactly when every trip check finds what the
alarm says already; the valve pin shows the register exactly when the valve has been driven since
boot. -/
theorem output_pins_mirror_iff (P : Platform) (profile : Profile) (wdtReset : Bool)
    (nvs : Option NvsImage) (ops : List (Op F)) :
    let d : Device F := appMain P profile wdtReset nvs
    let tr := trace (Op.apply profile) d ops
    ((∀ e ∈ tr, ChecksConfirm profile e.1 e.2.1) ↔ ∀ e ∈ tr, LedMirrors e.1 ∧ LedMirrors e.2.2) ∧
    (ValveMirrors (d.after profile ops) ↔ ∃ e ∈ tr, e.2.1.DrivesValve profile e.1) := by
  intro d tr
  have hboot : ¬ ValveMirrors d := fun h => Bool.false_ne_true h
  refine ⟨?_, valveMirrors_after_iff rfl hboot ops⟩
  refine (run_trace _ _ ops).forall_iff (I := fun d => d.gpio.init = true ∧ LedMirrors d)
    (C := fun d op _ => ChecksConfirm profile d op)
    (G := fun d _ d' => LedMirrors d ∧ LedMirrors d') ?_ ?_ ⟨rfl, rfl⟩
  · rintro d op d' ⟨hi, hm⟩ rfl
    rw [hm.step_iff hi]
    exact (and_iff_right hm).symm
  · rintro d op d' ⟨hi, hm⟩ rfl hc
    exact ⟨(op.apply_valve profile hi).driver, (hm.step_iff hi).mp hc⟩

/-- With the lower voltage limit raised to 240 V, checking it raises the alarm with the LED dark. -/
theorem trip_check_leaves_led_dark : ¬ ∀ ops : List (Op ℚ),
    ∀ e ∈ trace (Op.apply .energy) (appMain hostPlatform .energy false none) ops,
      LedMirrors e.2.2 := by
  intro h
  have hall := h [.runJson hostPlatform
      (txt "\x7b\"uc\":\"energy.set_limits\",\"under_v\":240\x7d") 41,
    .runJson hostPlatform (txt "\x7b\"uc\":\"energy.under_voltage\"\x7d") 29]
  have hlast := hall _ (List.mem_cons_of_mem _ List.mem_cons_self)
  revert hlast
  decide +kernel

end IotPlatform
