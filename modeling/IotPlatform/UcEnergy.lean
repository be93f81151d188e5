import IotPlatform.UcJson

/-!
# `iot_uc_energy.c`

Handlers work on the register block and on the GPIO driver, which drives the alarm LED.
-/
namespace IotPlatform
open CText CFloat

variable {F : Type} [CFloat F]

def energyJson (out : IotUcOut F) (id : IotUcId) (s : EnergySt F) : IotUcOut F :=
  let js := snprintf 320 (ucHead id ++ txt ",\"v\":" ++ fmt 2 s.vrms ++ txt ",\"i\":" ++
    fmt 3 s.irms ++ txt ",\"p\":" ++ fmt 1 s.p ++ txt ",\"pf\":" ++ fmt 3 s.pf ++
    txt ",\"e_kwh\":" ++ fmt 5 s.kwh ++ txt ",\"e_day\":" ++ fmt 5 s.kwhDay ++
    txt ",\"alarm\":" ++ decBool s.alarm ++ txt ",\"trips\":" ++ decU32 s.trips ++ txt "\x7d")
  let out := iotUcOutOk out id js
  { out with
    f := Function.update (Function.update (Function.update (Function.update out.f 0 s.vrms)
      1 s.irms) 2 s.p) 3 s.kwh
    alarm := s.alarm
    u := Function.update out.u 0 s.trips }

def evalAlarms (s : EnergySt F) : EnergySt F :=
  let alarm := s.overW < s.p ∨ s.overV < s.vrms ∨ s.vrms < s.underV ∨ s.overI < s.irms
  { s with alarm := alarm, trips := if alarm then s.trips + 1 else s.trips }

def iotUcEnergyAlarm (s : EnergySt F) : Bool := s.alarm

def iotUcEnergyLedAlarm : Handler F (EnergySt F × Gpio) := fun _ out (s, g) =>
  let g := (iotGpioWrite iotPinLed s.alarm g).2
  ⟨.ok, energyJson out .energyLedAlarm s, (s, g)⟩

def iotUcEnergyMeasure : Handler F (EnergySt F × Gpio) := fun inp out (s, g) =>
  let (v, i) :=
    if inp.has (txt "v") then (inp.f32 (txt "v") (inp.f 0), inp.f32 (txt "i") (inp.f 1))
    else (inp.f 0, inp.f 1)
  let s := { s with
    vrms := if flit 0 < v then v * s.vScale else s.vrms
    irms := if flit 0 ≤ i then i * s.iScale else s.irms }
  let p := s.vrms * s.irms * s.pf
  let s := { s with
    p := p
    kwh := s.kwh + p / flit 3600000
    kwhDay := s.kwhDay + p / flit 3600000 }
  let s := evalAlarms s
  let r := iotUcEnergyLedAlarm inp out (s, g)
  ⟨.ok, energyJson r.out .energyMeasure r.st.1, r.st⟩

def iotUcEnergyOnAdc (mv : Int32) (out : IotUcOut F) (st : EnergySt F × Gpio) :
    Ret F (EnergySt F × Gpio) :=
  let f0 := (flit 80 + flit mv.toInt * flit 0.05) * st.1.vScale
  let f1 := (flit 0.15 + flit (mv % 800).toInt / flit 2000) * st.1.iScale
  let z : IotUcIn F := .zero
  let f := Function.update (Function.update (Function.update z.f 0 f0) 1 f1) 2 (flit 1000)
  iotUcEnergyMeasure { z with f := f } out st

def iotUcEnergyAccum : Handler F (EnergySt F × Gpio) := fun inp out (s, g) =>
  let dtMs := if flit 0 < inp.f 0 then inp.f 0 else flit 1000
  let dtMs := if inp.has (txt "dt_ms") then inp.f32 (txt "dt_ms") dtMs else dtMs
  let s := { s with kwh := s.kwh + s.p * (dtMs / flit 3600000000) * flit 1000 }
  ⟨.ok, energyJson out .energyAccum s, (s, g)⟩

def iotUcEnergyOverPower : Handler F (EnergySt F × Gpio) := fun _ out (s, g) =>
  let alarm := s.overW < s.p
  let s := { s with alarm := alarm, trips := if alarm then s.trips + 1 else s.trips }
  ⟨.ok, energyJson out .energyOverPower s, (s, g)⟩

def iotUcEnergyOverVoltage : Handler F (EnergySt F × Gpio) := fun _ out (s, g) =>
  let s := { s with alarm := s.overV < s.vrms }
  ⟨.ok, energyJson out .energyOverVoltage s, (s, g)⟩

def iotUcEnergyUnderVoltage : Handler F (EnergySt F × Gpio) := fun _ out (s, g) =>
  let s := { s with alarm := s.vrms < s.underV }
  ⟨.ok, energyJson out .energyUnderVoltage s, (s, g)⟩

def iotUcEnergyOverCurrent : Handler F (EnergySt F × Gpio) := fun _ out (s, g) =>
  let s := { s with alarm := s.overI < s.irms }
  ⟨.ok, energyJson out .energyOverCurrent s, (s, g)⟩

def iotUcEnergySetLimits : Handler F (EnergySt F × Gpio) := fun inp out (s, g) =>
  let s := match inp.json with
    | some _ => { s with
        overW := inp.f32 (txt "over_w") s.overW
        overV := inp.f32 (txt "over_v") s.overV
        underV := inp.f32 (txt "under_v") s.underV
        overI := inp.f32 (txt "over_i") s.overI }
    | none => { s with
        overW := if flit 0 < inp.f 0 then inp.f 0 else s.overW
        overV := if flit 0 < inp.f 1 then inp.f 1 else s.overV
        underV := if flit 0 < inp.f 2 then inp.f 2 else s.underV
        overI := if flit 0 < inp.f 3 then inp.f 3 else s.overI }
  ⟨.ok, energyJson out .energySetLimits s, (s, g)⟩

def calibrateScales (inp : IotUcIn F) (s : EnergySt F) : F × F :=
  match inp.json with
  | some _ => (inp.f32 (txt "v_scale") s.vScale, inp.f32 (txt "i_scale") s.iScale)
  | none => (if flit 0 < inp.f 0 then inp.f 0 else s.vScale,
      if flit 0 < inp.f 1 then inp.f 1 else s.iScale)

/-- The range test of `iot_uc_energy_calibrate`. -/
def ScalesOutOfRange (v i : F) : Prop :=
  v < flit 0.1 ∨ flit 10 < v ∨ i < flit 0.1 ∨ flit 10 < i

instance (v i : F) : Decidable (ScalesOutOfRange v i) :=
  inferInstanceAs (Decidable (_ ∨ _ ∨ _ ∨ _))

/-- The registers are stored before they are tested, and stay stored when the test fails. -/
def iotUcEnergyCalibrate : Handler F (EnergySt F × Gpio) := fun inp out (s, g) =>
  let (v, i) := calibrateScales inp s
  let s := { s with vScale := v, iScale := i }
  if ScalesOutOfRange s.vScale s.iScale then
    ⟨.invalidArg, iotUcOutErr out .energyCalibrate .invalidArg, (s, g)⟩
  else
    ⟨.ok, energyJson out .energyCalibrate s, (s, g)⟩

def iotUcEnergyResetDaily : Handler F (EnergySt F × Gpio) := fun _ out (s, g) =>
  let s := { s with kwhDay := flit 0 }
  ⟨.ok, energyJson out .energyResetDaily s, (s, g)⟩

def pfAsked (inp : IotUcIn F) : F :=
  if inp.has (txt "pf") then inp.f32 (txt "pf") (inp.f 0) else inp.f 0

def iotUcEnergyPf : Handler F (EnergySt F × Gpio) := fun inp out (s, g) =>
  let pf := pfAsked inp
  if pf < flit 0.5 ∨ flit 1 < pf then
    ⟨.invalidArg, iotUcOutErr out .energyPf .invalidArg, (s, g)⟩
  else
    let s := { s with pf := pf, p := s.vrms * s.irms * pf }
    ⟨.ok, energyJson out .energyPf s, (s, g)⟩

def iotUcEnergyGetState : Handler F (EnergySt F × Gpio) := fun _ out (s, g) =>
  ⟨.ok, energyJson out .energyGetState s, (s, g)⟩

end IotPlatform
