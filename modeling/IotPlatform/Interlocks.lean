import IotPlatform.Executions

/-!
# Actuator interlocks

The water valve and the irrigation pump are each reached from several handlers. What one operation
can do to them is said once; the interlocks follow for every order of operations.
-/
namespace IotPlatform
open CText CFloat Runs

variable {F : Type} [CFloat F]

section
omit [CFloat F]

/-- The valve, its pin and the tamper flag are as they were. -/
def ValveKept (d d' : Device F) : Prop :=
  d'.water.valveOpen = d.water.valveOpen ∧ d'.water.tamper = d.water.tamper ∧
    d'.gpio.level iotPinPwmOut = d.gpio.level iotPinPwmOut

/-- The valve has been told to close, by a handler that does not withdraw the tamper flag. -/
def ValveClosed (d d' : Device F) : Prop :=
  d'.water.valveOpen = false ∧ d'.gpio.level iotPinPwmOut = false ∧
    (d.water.tamper = true → d'.water.tamper = true)

theorem iotGpioWrite_init (pin : ℕ) (level : Bool) (g : Gpio) :
    (iotGpioWrite pin level g).2.init = g.init := by
  unfold iotGpioWrite
  split <;> rfl

theorem iotGpioWrite_level {g : Gpio} (h : g.init = true) (pin : ℕ) (level : Bool) (q : ℕ) :
    (iotGpioWrite pin level g).2.level q = if q = pin then level else g.level q := by
  simp [iotGpioWrite, h, Function.update_apply]

theorem applyValve_init (isOpen : Bool) (st : WaterSt F × Gpio) :
    (applyValve isOpen st).2.init = st.2.init := iotGpioWrite_init _ _ _

end

theorem iotUcWaterBurst_cases (inp : IotUcIn F) (out : IotUcOut F) (w : WaterSt F) (g : Gpio) :
    (iotUcWaterBurst inp out (w, g)).st = ({ w with burst := w.burstLpm < w.flowLpm }, g) ∨
      (iotUcWaterBurst inp out (w, g)).st =
        applyValve false ({ w with burst := w.burstLpm < w.flowLpm }, g) := by
  unfold iotUcWaterBurst
  dsimp only
  split
  · exact Or.inr rfl
  · exact Or.inl rfl

theorem waterCount_valve (pulses : UInt32) (tankMv : Int32) (w : WaterSt F) :
    (waterCount pulses tankMv w).valveOpen = w.valveOpen ∧
      (waterCount pulses tankMv w).tamper = w.tamper := by
  unfold waterCount
  dsimp only
  split <;> exact ⟨rfl, rfl⟩

/-- What an operation may do to the valve: leave it, close it, or, when `opens` holds and the
tamper flag is not set, open it. -/
structure ValveStep (opens : Prop) (d d' : Device F) : Prop where
  driver : d'.gpio.init = true
  moved : ValveKept d d' ∨ ValveClosed d d' ∨
    (opens ∧ d.water.tamper = false ∧ d'.water.tamper = false)

section
variable {opens : Prop} {d d' : Device F}

omit [CFloat F] in
theorem ValveStep.of_kept (h : d.gpio.init = true) (hw : d'.water.valveOpen = d.water.valveOpen)
    (ht : d'.water.tamper = d.water.tamper) (hg : d'.gpio = d.gpio) : ValveStep opens d d' :=
  ⟨by rw [hg, h], Or.inl ⟨hw, ht, by rw [hg]⟩⟩

omit [CFloat F] in
theorem ValveStep.of_led (h : d.gpio.init = true) (hw : d'.water = d.water) {level : Bool}
    (hg : d'.gpio = (iotGpioWrite iotPinLed level d.gpio).2) : ValveStep opens d d' := by
  refine ⟨by rw [hg, iotGpioWrite_init, h], Or.inl ⟨by rw [hw], by rw [hw], ?_⟩⟩
  rw [hg, iotGpioWrite_level h, if_neg (by decide)]

omit [CFloat F] in
theorem ValveStep.of_closed (h : d.gpio.init = true) {w : WaterSt F}
    (ht : d.water.tamper = true → w.tamper = true)
    (hd : (d'.water, d'.gpio) = applyValve false (w, d.gpio)) : ValveStep opens d d' := by
  obtain ⟨hw, hg⟩ := Prod.mk.inj hd
  refine ⟨by rw [hg]; exact (iotGpioWrite_init _ _ _).trans h, Or.inr (Or.inl ⟨?_, ?_, ?_⟩)⟩
  · rw [hw]
  · rw [hg]
    exact (iotGpioWrite_level h _ _ _).trans (if_pos rfl)
  · rw [hw]
    exact ht

theorem ValveStep.of_burst (h : d.gpio.init = true) {w : WaterSt F} (inp : IotUcIn F)
    (out : IotUcOut F) (hv : w.valveOpen = d.water.valveOpen) (ht : w.tamper = d.water.tamper)
    (hd : (d'.water, d'.gpio) = (iotUcWaterBurst inp out (w, d.gpio)).st) :
    ValveStep opens d d' := by
  rcases iotUcWaterBurst_cases inp out w d.gpio with hb | hb <;> rw [hb] at hd
  · obtain ⟨hw, hg⟩ := Prod.mk.inj hd
    exact .of_kept h (by rw [hw]; exact hv) (by rw [hw]; exact ht) hg
  · exact .of_closed (w := { w with burst := w.burstLpm < w.flowLpm }) h
      (fun ht' => ht.trans ht') hd

theorem ValveStep.of_meter (h : d.gpio.init = true) (inp : IotUcIn F) (out : IotUcOut F)
    (hd : (d'.water, d'.gpio) = (iotUcWaterMeter inp out (d.water, d.gpio)).st) :
    ValveStep opens d d' := by
  obtain ⟨hv, ht⟩ := waterCount_valve (meterPulses inp) (inp.i 0) d.water
  let r := iotUcWaterLeak inp out (waterCount (meterPulses inp) (inp.i 0) d.water, d.gpio)
  exact .of_burst (w := r.st.1) h inp r.out hv ht hd

theorem iotUcRun_valve (P : Platform) (id : IotUcId) (inp : IotUcIn F) (h : d.gpio.init = true) :
    ValveStep (id = .waterValveOpen) d (iotUcRun P id inp d).st := by
  cases id
  case energyMeasure | energyLedAlarm => exact .of_led h rfl rfl
  case energyCalibrate =>
    simp only [iotUcRun, entryFn, onEnergy, Handler.at, iotUcEnergyCalibrate]
    split <;> exact .of_kept h rfl rfl rfl
  case energyPf =>
    simp only [iotUcRun, entryFn, onEnergy, Handler.at, iotUcEnergyPf]
    split <;> exact .of_kept h rfl rfl rfl
  case waterMeter => exact .of_meter h inp .zero rfl
  case waterBurst => exact .of_burst h inp .zero rfl rfl rfl
  case waterValveOpen =>
    simp only [iotUcRun, entryFn, onWater, Handler.at, iotUcWaterValveOpen]
    split
    · exact .of_kept h rfl rfl rfl
    · next ht =>
      have ht' : d.water.tamper = false := by simpa using ht
      exact ⟨(applyValve_init true _).trans h, Or.inr (Or.inr ⟨trivial, ht', ht'⟩)⟩
  case waterValveClose => exact .of_closed h (fun ht => ht) rfl
  case waterTamper => exact .of_closed h (fun _ => rfl) rfl
  case waterSetK =>
    simp only [iotUcRun, entryFn, onWater, Handler.at, iotUcWaterSetK]
    split <;> exact .of_kept h rfl rfl rfl
  all_goals exact .of_kept h rfl rfl rfl

theorem sample_valve (profile : Profile) {op : Op F} (hs : op.IsSample) (h : d.gpio.init = true) :
    ValveStep opens d (op.apply profile d) := by
  cases op with
  | energyAdc mv => exact .of_led h rfl rfl
  | waterSample pulses tankMv => exact .of_meter h _ .zero rfl
  | command | run | runJson | otaProgress | diag => exact hs.elim
  | _ => exact .of_kept h rfl rfl rfl

end

/-- The handler of `water.valve_open` runs. -/
def Op.OpensValve (profile : Profile) (op : Op F) : Prop :=
  ∃ P inp, op.useCase profile = some (P, .waterValveOpen, inp)

theorem Op.apply_valve (profile : Profile) (op : Op F) {d : Device F} (h : d.gpio.init = true) :
    ValveStep (op.OpensValve profile) d (op.apply profile d) := by
  rcases op.apply_cases profile d with ⟨P, id, inp, hu, heq⟩ | ⟨-, hs⟩ | ⟨-, -, s, heq, -⟩
  · rw [heq]
    obtain ⟨hi, hk | hc | ⟨rfl, ht⟩⟩ := iotUcRun_valve P id inp h
    · exact ⟨hi, Or.inl hk⟩
    · exact ⟨hi, Or.inr (Or.inl hc)⟩
    · exact ⟨hi, Or.inr (Or.inr ⟨⟨P, inp, hu⟩, ht⟩)⟩
  · exact sample_valve profile hs h
  · rw [heq]
    exact .of_kept h rfl rfl rfl

omit [CFloat F] in
/-- While the tamper flag is set the valve is closed, and its pin was last driven low. -/
def TamperClosed (d : Device F) : Prop :=
  d.gpio.init = true ∧
    (d.water.tamper = true → d.water.valveOpen = false ∧ d.gpio.level iotPinPwmOut = false)

omit [CFloat F] in
theorem ValveStep.tamperClosed {opens : Prop} {d d' : Device F} (hs : ValveStep opens d d')
    (h : TamperClosed d) : TamperClosed d' := by
  refine ⟨hs.driver, fun ht' => ?_⟩
  rcases hs.moved with ⟨hv, ht, hl⟩ | ⟨hv, hl, -⟩ | ⟨-, -, ht⟩
  · rw [hv, hl]
    exact h.2 (ht ▸ ht')
  · exact ⟨hv, hl⟩
  · simp [ht] at ht'

omit [CFloat F] in
theorem ValveStep.tamper {opens : Prop} {d d' : Device F} (hs : ValveStep opens d d')
    (ht : d.water.tamper = true) : d'.water.tamper = true := by
  rcases hs.moved with ⟨-, htk, -⟩ | ⟨-, -, htk⟩ | ⟨-, htf, -⟩
  · rw [htk, ht]
  · exact htk ht
  · simp [htf] at ht

theorem appMain_tamperClosed (P : Platform) (profile : Profile) (wdtReset : Bool)
    (nvs : Option NvsImage) : TamperClosed (appMain P profile wdtReset nvs : Device F) :=
  ⟨rfl, fun ht => by simp [appMain, Device.static] at ht⟩

theorem after_tamperClosed {profile : Profile} (ops : List (Op F)) {d : Device F}
    (h : TamperClosed d) : TamperClosed (d.after profile ops) :=
  Device.after_keeps (fun op _ hd => (op.apply_valve profile hd.1).tamperClosed hd) ops h

theorem after_tamper {profile : Profile} (ops : List (Op F)) {d : Device F}
    (h : TamperClosed d) (ht : d.water.tamper = true) :
    (d.after profile ops).water.tamper = true :=
  (Device.after_keeps (Q := fun d => TamperClosed d ∧ d.water.tamper = true)
    (fun op _ hd => ⟨(op.apply_valve profile hd.1.1).tamperClosed hd.1,
      (op.apply_valve profile hd.1.1).tamper hd.2⟩) ops ⟨h, ht⟩).2

/-- From the moment the tamper flag is set the valve stays closed, and at any time only
`water.valve_open` opens it, with the flag not set. -/
theorem waterRun_interlock (P : Platform) (profile : Profile) (wdtReset : Bool)
    (nvs : Option NvsImage) (ops : List (Op F)) :
    let d := (appMain P profile wdtReset nvs : Device F).after profile ops
    (d.water.tamper = true → ∀ later : List (Op F),
      (d.after profile later).water.valveOpen = false ∧
        (d.after profile later).gpio.level iotPinPwmOut = false) ∧
    ∀ op : Op F, d.water.valveOpen = false → (op.apply profile d).water.valveOpen = true →
      op.OpensValve profile ∧ d.water.tamper = false := by
  intro d
  have hd : TamperClosed d := after_tamperClosed ops (appMain_tamperClosed P profile wdtReset nvs)
  constructor
  · intro ht later
    exact (after_tamperClosed later hd).2 (after_tamper later hd ht)
  · intro op hclosed hopen
    rcases (op.apply_valve profile hd.1).moved with ⟨hv, -, -⟩ | ⟨hv, -, -⟩ | ⟨ho, ht, -⟩
    · simp [hv, hclosed] at hopen
    · simp [hv] at hopen
    · exact ⟨ho, ht⟩

/-- The requests whose handlers call `pump_hw`. -/
def DrivesPump (inp : IotUcIn F) : IotUcId → Prop
  | .agriPumpAuto | .agriPumpOn | .agriPumpOff => True
  | .agriInhibit => inhibitAsked inp = true
  | _ => False

/-- The operation executes a handler that calls `pump_hw`. -/
def Op.DrivesPump (profile : Profile) (op : Op F) : Prop :=
  (∃ moistPct, op = .agriSample moistPct) ∨
    ∃ P id inp, op.useCase profile = some (P, id, inp) ∧ IotPlatform.DrivesPump inp id

/-- What an operation may do to the pump: nothing, or one call of `pump_hw` that respects an
inhibit set before it. -/
def PumpStep (drives : Prop) (st st' : AgriSt × Pwm) : Prop :=
  (¬ drives ∧ st'.1.pump = st.1.pump ∧ st'.2 = st.2 ∧
      (st'.1.inhibit = true → st.1.inhibit = true)) ∨
    (drives ∧ ∃ on ag, st' = pumpHw on (ag, st.2) ∧ (st.1.inhibit = true → ag.inhibit = true))

/-- The pump flag and the duty last asked for agree, and an inhibited pump is off. -/
structure PumpLinked (st : AgriSt × Pwm) : Prop where
  inhibited : st.1.inhibit = true → st.1.pump = 0
  level : st.1.pump = 0 ∨ st.1.pump = 1
  asked : ∀ n, st.2.requested = some n → n = if st.1.pump = 1 then 512 else 0

theorem iotPwmSetDuty_requested (duty : UInt32) (p : Pwm) :
    (iotPwmSetDuty duty p).2.requested = some duty := by
  unfold iotPwmSetDuty
  cases p.init <;> rfl

theorem pumpHw_linked (on : Bool) (st : AgriSt × Pwm) : PumpLinked (pumpHw on st) := by
  have hreq := iotPwmSetDuty_requested
    (if (if st.1.inhibit then false else on) = true then 512 else 0) st.2
  refine ⟨fun hi => ?_, ?_, fun n hn => ?_⟩
  · have hi' : st.1.inhibit = true := hi
    simp [pumpHw, hi']
  · cases hon : (if st.1.inhibit then false else on) <;> simp [pumpHw, hon]
  · obtain rfl := Option.some.inj (hreq.symm.trans hn)
    cases hon : (if st.1.inhibit then false else on) <;> simp [pumpHw, hon]

theorem PumpStep.linked {drives : Prop} {st st' : AgriSt × Pwm} (hs : PumpStep drives st st')
    (h : PumpLinked st) : PumpLinked st' := by
  rcases hs with ⟨-, hp, hw, hi⟩ | ⟨-, on, ag, rfl, -⟩
  · refine ⟨fun hi' => by rw [hp, h.inhibited (hi hi')], by rw [hp]; exact h.level, ?_⟩
    rw [hp, hw]
    exact h.asked
  · exact pumpHw_linked on (ag, st.2)

theorem PumpStep.off {drives : Prop} {st st' : AgriSt × Pwm} (hs : PumpStep drives st st')
    (h : PumpLinked st) (hi : st.1.inhibit = true) : st'.1.pump = 0 := by
  rcases hs with ⟨-, hp, -, -⟩ | ⟨-, on, ag, rfl, hag⟩
  · rw [hp, h.inhibited hi]
  · exact (pumpHw_linked on (ag, st.2)).inhibited (hag hi)

theorem PumpStep.requested {drives : Prop} {st st' : AgriSt × Pwm} (hs : PumpStep drives st st')
    (h : drives ∨ st.2.requested.isSome) : st'.2.requested.isSome := by
  rcases hs with ⟨hd, -, hw, -⟩ | ⟨-, on, ag, rfl, -⟩
  · rw [hw]
    exact h.resolve_left hd
  · simp [pumpHw, iotPwmSetDuty_requested]

theorem iotUcRun_pump (P : Platform) (id : IotUcId) (inp : IotUcIn F) (d : Device F) :
    PumpStep (DrivesPump inp id) (d.ag, d.pwm)
      ((iotUcRun P id inp d).st.ag, (iotUcRun P id inp d).st.pwm) := by
  cases id
  case agriPumpAuto => exact Or.inr ⟨trivial, _, d.ag, rfl, fun hi => hi⟩
  case agriPumpOn => exact Or.inr ⟨trivial, _, d.ag, rfl, fun hi => hi⟩
  case agriPumpOff => exact Or.inr ⟨trivial, _, d.ag, rfl, fun hi => hi⟩
  case agriInhibit =>
    simp only [iotUcRun, entryFn, onAg, Handler.at, iotUcAgriInhibit, DrivesPump]
    cases hasked : inhibitAsked inp with
    | true => exact Or.inr ⟨rfl, false, { d.ag with inhibit := true }, rfl, fun _ => rfl⟩
    | false => exact Or.inl ⟨by simp, rfl, rfl, fun hi => by simp at hi⟩
  all_goals exact Or.inl ⟨not_false, rfl, rfl, fun hi => hi⟩

theorem Op.apply_pump (profile : Profile) (op : Op F) (d : Device F) :
    PumpStep (op.DrivesPump profile) (d.ag, d.pwm)
      ((op.apply profile d).ag, (op.apply profile d).pwm) := by
  have hnone : op.useCase profile = none → op.DrivesPump profile → ∃ m, op = .agriSample m := by
    rintro hu (hm | ⟨P, id, inp, hu', -⟩)
    · exact hm
    · simp [hu] at hu'
  rcases op.apply_cases profile d with ⟨P, id, inp, hu, heq⟩ | ⟨hu, hs⟩ | ⟨hu, hs, s, heq, -⟩
  · have hd : op.DrivesPump profile ↔ IotPlatform.DrivesPump inp id := by
      constructor
      · rintro (⟨m, rfl⟩ | ⟨P', id', inp', hu', hd⟩)
        · simp [Op.useCase] at hu
        · obtain ⟨rfl, rfl, rfl⟩ : P' = P ∧ id' = id ∧ inp' = inp := by simpa [hu'] using hu
          exact hd
      · exact fun hd => Or.inr ⟨P, id, inp, hu, hd⟩
    rw [heq, hd]
    exact iotUcRun_pump P id inp d
  · cases op with
    | agriSample m => exact Or.inr ⟨Or.inl ⟨m, rfl⟩, _, { d.ag with moist := m }, rfl, fun hi => hi⟩
    | command | run | runJson | otaProgress | diag => exact hs.elim
    | _ => exact Or.inl ⟨fun h => by simpa using hnone hu h, rfl, rfl, fun hi => hi⟩
  · rw [heq]
    refine Or.inl ⟨fun h => ?_, rfl, rfl, fun hi => hi⟩
    obtain ⟨m, rfl⟩ := hnone hu h
    exact hs trivial

theorem appMain_pumpLinked (P : Platform) (profile : Profile) (wdtReset : Bool)
    (nvs : Option NvsImage) :
    PumpLinked ((appMain P profile wdtReset nvs : Device F).ag,
      (appMain P profile wdtReset nvs : Device F).pwm) := by
  refine ⟨fun _ => rfl, Or.inl rfl, fun n hn => ?_⟩
  simp only [appMain] at hn
  split at hn <;> cases hn

theorem after_pumpLinked {profile : Profile} (ops : List (Op F)) {d : Device F}
    (h : PumpLinked (d.ag, d.pwm)) :
    PumpLinked ((d.after profile ops).ag, (d.after profile ops).pwm) :=
  Device.after_keeps (Q := fun d => PumpLinked (d.ag, d.pwm))
    (fun op d hd => (op.apply_pump profile d).linked hd) ops h

theorem after_requested {profile : Profile} {ops : List (Op F)} {d : Device F}
    (h : (∃ op ∈ ops, op.DrivesPump profile) ∨ d.pwm.requested.isSome) :
    (d.after profile ops).pwm.requested.isSome := by
  induction ops generalizing d with
  | nil => simpa [Device.after] using h
  | cons op ops ih =>
    rcases h with ⟨op', hmem, hd⟩ | hr
    · rcases List.mem_cons.mp hmem with rfl | hmem
      · exact ih (Or.inr ((op'.apply_pump profile d).requested (Or.inl hd)))
      · exact ih (Or.inl ⟨op', hmem, hd⟩)
    · exact ih (Or.inr ((op.apply_pump profile d).requested (Or.inr hr)))

/-- In every reachable state an inhibited pump is off, stays off through the next operation and
refuses `agri.pump_on`; once the pump has been driven, the duty last asked for shows its flag. -/
theorem agriRun_interlock (P : Platform) (profile : Profile) (wdtReset : Bool)
    (nvs : Option NvsImage) (ops : List (Op F)) :
    let d := (appMain P profile wdtReset nvs : Device F).after profile ops
    (d.ag.inhibit = true → d.ag.pump = 0) ∧
    ((∃ op ∈ ops, op.DrivesPump profile) →
      d.pwm.requested = some (if d.ag.pump = 1 then 512 else 0)) ∧
    (d.ag.inhibit = true → (∀ P inp, (iotUcRun P .agriPumpOn inp d).err = .denied) ∧
      ∀ op : Op F, (op.apply profile d).ag.pump = 0) := by
  intro d
  have hd : PumpLinked (d.ag, d.pwm) :=
    after_pumpLinked ops (appMain_pumpLinked P profile wdtReset nvs)
  refine ⟨hd.inhibited, fun hdrives => ?_, fun hi => ⟨fun P inp => if_pos hi, fun op => ?_⟩⟩
  · obtain ⟨n, hn⟩ := Option.isSome_iff_exists.mp (after_requested (Or.inl hdrives))
    rw [hn, hd.asked n hn]
  · exact (op.apply_pump profile d).off hd hi

end IotPlatform
