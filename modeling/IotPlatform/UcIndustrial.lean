import IotPlatform.UcJson

/-!
# `iot_uc_industrial.c`

The machine state with its limits, and the predictive-maintenance features.
-/
namespace IotPlatform
open CText CFloat

variable {F : Type} [CFloat F]

def stName : IndState → Text
  | .stop => txt "STOP"
  | .idle => txt "IDLE"
  | .run => txt "RUN"
  | .warn => txt "WARN"
  | .fault => txt "FAULT"

def indJson (out : IotUcOut F) (id : IotUcId) (g : IndSt F) : IotUcOut F :=
  let js := snprintf 360 (ucHead id ++ txt ",\"t\":" ++ fmt 2 g.temp ++ txt ",\"vib\":" ++
    fmt 1 g.vib ++ txt ",\"i\":" ++ fmt 2 g.current ++ txt ",\"p_bar\":" ++ fmt 2 g.pressure ++
    txt ",\"state\":\"" ++ stName g.st ++ txt "\",\"hours\":" ++ fmt 2 g.hours ++
    txt ",\"pulse\":" ++ decU32 g.pulses ++ txt "\x7d")
  let out := iotUcOutOk out id js
  { out with
    alarm := g.st = .fault ∨ g.st = .warn
    f := Function.update (Function.update out.f 0 g.temp) 1 g.vib }

/-- The test that makes `ind_step_state` enter FAULT. -/
def IndSt.OverLimit (g : IndSt F) : Prop :=
  g.tLim < g.temp ∨ g.iLim < g.current ∨ g.pLim < g.pressure

instance (g : IndSt F) : Decidable g.OverLimit := inferInstanceAs (Decidable (_ ∨ _ ∨ _))

/-- The vibration branch comes before the one that keeps FAULT. -/
def indStepState (g : IndSt F) : IndSt F :=
  if g.OverLimit then { g with st := .fault, ackNeeded := 1 }
  else if g.vibLim < g.vib then { g with st := .warn }
  else if g.st = .fault then g
  else { g with st := if flit 0.4 < g.current then .run else .idle }

/-- The measurements `iot_uc_ind_sample` stores before it steps the state machine. -/
def indMeasure (inp : IotUcIn F) (g : IndSt F) : IndSt F :=
  { g with
    temp := inp.f32 (txt "t") (inp.f 0)
    vib := inp.f32 (txt "vib") (inp.f 1)
    current := inp.f32 (txt "i") (inp.f 2)
    pressure := inp.f32 (txt "p_bar") (inp.f 3)
    pulses := if 0 < inp.u 0 then inp.u 0 else g.pulses }

def iotUcIndSample : Handler F (IndSt F) := fun inp out g =>
  let g := indStepState (indMeasure inp g)
  let g := if g.st = .run then { g with hours := g.hours + flit 1 / flit 3600 } else g
  ⟨.ok, indJson out .indSample g, g⟩

def iotUcIndOnSample (temp vib current pressure : F) (pulses : UInt32) (out : IotUcOut F)
    (g : IndSt F) : Ret F (IndSt F) :=
  let z : IotUcIn F := .zero
  let f := Function.update (Function.update (Function.update (Function.update z.f 0 temp)
    1 vib) 2 current) 3 pressure
  iotUcIndSample { z with f := f, u := Function.update z.u 0 pulses } out g

def iotUcIndState : Handler F (IndSt F) := fun _ out g =>
  let g := indStepState g
  ⟨.ok, indJson out .indStateMachine g, g⟩

def iotUcIndSetLimits : Handler F (IndSt F) := fun inp out g =>
  let g := { g with
    tLim := inp.f32 (txt "t_lim") g.tLim
    vibLim := inp.f32 (txt "vib_lim") g.vibLim
    iLim := inp.f32 (txt "i_lim") g.iLim
    pLim := inp.f32 (txt "p_lim") g.pLim }
  ⟨.ok, indJson out .indSetLimits g, g⟩

def iotUcIndAck : Handler F (IndSt F) := fun _ out g =>
  let g := if g.st = .fault then { g with st := .idle, ackNeeded := 0 } else g
  ⟨.ok, indJson out .indAckAlarm g, g⟩

def iotUcIndHours : Handler F (IndSt F) := fun inp out g =>
  let dtS := if flit 0 < inp.f 0 then inp.f 0 else flit 1
  let g := if g.st = .run then { g with hours := g.hours + dtS / flit 3600 } else g
  ⟨.ok, indJson out .indHoursTick g, g⟩

def iotUcIndPulse : Handler F (IndSt F) := fun inp out g =>
  let add := if inp.u 0 ≠ 0 then inp.u 0 else 1
  let g := { g with pulses := g.pulses + add }
  ⟨.ok, indJson out .indPulse g, g⟩

def pmJson (out : IotUcOut F) (id : IotUcId) (pm : PmSt F) : IotUcOut F :=
  let js := snprintf 220 (ucHead id ++ txt ",\"rms\":" ++ fmt 3 pm.rms ++ txt ",\"peak\":" ++
    fmt 3 pm.peak ++ txt ",\"crest\":" ++ fmt 3 pm.crest ++ txt ",\"health\":" ++
    decI32 pm.health ++ txt ",\"ema\":" ++ fmt 3 pm.ema ++ txt "\x7d")
  let out := iotUcOutOk out id js
  { out with
    f := Function.update out.f 0 pm.rms
    i := Function.update out.i 0 pm.health
    alarm := pm.health < 50 }

def iotUcPmHealth : Handler F (PmSt F) := fun _ out pm =>
  let health : Int32 :=
    if pm.rms < flit 2 then 100 else if pm.rms < flit 5 then 70
    else if pm.rms < flit 8 then 40 else 15
  let pm := { pm with health := health }
  ⟨.ok, { pmJson out .pmHealth pm with id := .pmFeatures }, pm⟩

def iotUcPmFeatures : Handler F (PmSt F) := fun inp out pm =>
  let x := if inp.has (txt "accel") then inp.f32 (txt "accel") (inp.f 0) else inp.f 0
  let ax := fabs x
  let rms := pm.rms * flit 0.9 + ax * flit 0.1
  let peak := if pm.peak < ax then ax else pm.peak
  let pm := { pm with
    rms := rms
    peak := peak
    crest := if flit 0.01 < rms then peak / rms else flit 0
    ema := pm.ema * flit 0.98 + rms * flit 0.02 }
  iotUcPmHealth inp out pm

def iotUcPmOnSample (accel : F) (out : IotUcOut F) (pm : PmSt F) : Ret F (PmSt F) :=
  let z : IotUcIn F := .zero
  iotUcPmFeatures { z with f := Function.update z.f 0 accel } out pm

def iotUcPmTrend : Handler F (PmSt F) := fun _ out pm =>
  ⟨.ok, { pmJson out .pmTrend pm with alarm := pm.ema * flit 1.5 + flit 0.5 < pm.rms }, pm⟩

def iotUcPmResetPeak : Handler F (PmSt F) := fun _ out pm =>
  let pm := { pm with peak := flit 0 }
  ⟨.ok, pmJson out .pmResetPeak pm, pm⟩

end IotPlatform
