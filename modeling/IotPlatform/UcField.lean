import IotPlatform.UcJson

/-!
# `iot_uc_field.c`

Asset tracker, agriculture, cold chain and robotics gateway. The agriculture handlers also work
on the PWM driver, which drives the pump.
-/
namespace IotPlatform
open CText CFloat

variable {F : Type} [CFloat F]

/-! ## Asset tracker -/

def trJson (out : IotUcOut F) (id : IotUcId) (tr : TrkSt) : IotUcOut F :=
  let js := snprintf 240 (ucHead id ++ txt ",\"rssi_proxy\":" ++ decI32 tr.rssi ++
    txt ",\"moving\":" ++ decBool tr.moving ++ txt ",\"batt_mv\":" ++ decI32 tr.battMv ++
    txt ",\"geo_inside\":" ++ decI32 tr.geoInside ++ txt ",\"sleep_s\":" ++ decU32 tr.sleepS ++
    txt "\x7d")
  { iotUcOutOk out id js with alarm := tr.battMv < 3300 ∨ tr.geoInside = 0 }

def iotUcTrkBeacon : Handler F TrkSt := fun inp out tr =>
  let tr := { tr with rssi := if inp.i 0 ≠ 0 then inp.i 0 else tr.rssi }
  ⟨.ok, trJson out .trkBeacon tr, tr⟩

def iotUcTrkMotion : Handler F TrkSt := fun inp out tr =>
  let moving :=
    if inp.has (txt "moving") then decide (inp.i32 (txt "moving") 0 ≠ 0) else inp.b 0
  let tr := { tr with moving := moving }
  ⟨.ok, trJson out .trkMotion tr, tr⟩

def iotUcTrkBatt : Handler F TrkSt := fun inp out tr =>
  let tr := { tr with battMv := if 0 < inp.i 1 then inp.i 1 else tr.battMv }
  let tr := { tr with
    battMv := if inp.has (txt "batt_mv") then inp.i32 (txt "batt_mv") 0 else tr.battMv }
  ⟨.ok, { trJson out .trkBattLow tr with alarm := tr.battMv < 3300 }, tr⟩

def iotUcTrkGeo : Handler F TrkSt := fun inp out tr =>
  let lim := if inp.has (txt "rssi_lim") then inp.i32 (txt "rssi_lim") 0 else -90
  let tr := { tr with geoInside := if lim ≤ tr.rssi then 1 else 0 }
  ⟨.ok, trJson out .trkGeofence tr, tr⟩

def sleepAsked (inp : IotUcIn F) (tr : TrkSt) : Int32 :=
  let s := tr.sleepS.toInt32
  if inp.has (txt "sleep_s") then inp.i32 (txt "sleep_s") s
  else if 0 < inp.i 0 then inp.i 0 else s

def iotUcTrkSleep : Handler F TrkSt := fun inp out tr =>
  let s := sleepAsked inp tr
  if s < 5 ∨ 3600 < s then ⟨.invalidArg, iotUcOutErr out .trkSleep .invalidArg, tr⟩
  else
    let tr := { tr with sleepS := s.toUInt32 }
    ⟨.ok, trJson out .trkSleep tr, tr⟩

def iotUcTrkOnSample (rssi battMv : Int32) (moving : Bool) (out : IotUcOut F) (tr : TrkSt) :
    Ret F TrkSt :=
  let z : IotUcIn F := .zero
  let inp := { z with
    i := Function.update (Function.update z.i 0 rssi) 1 battMv
    b := Function.update z.b 0 moving }
  let r := iotUcTrkBeacon inp out tr
  let r := iotUcTrkMotion inp r.out r.st
  iotUcTrkBatt inp r.out r.st

/-! ## Agriculture -/

def agJson (out : IotUcOut F) (id : IotUcId) (ag : AgriSt) : IotUcOut F :=
  let js := snprintf 220 (ucHead id ++ txt ",\"moist_pct\":" ++ decI32 ag.moist ++
    txt ",\"pump\":" ++ decI32 ag.pump ++ txt ",\"thresh\":" ++ decI32 ag.thresh ++
    txt ",\"inhibit\":" ++ decBool ag.inhibit ++ txt "\x7d")
  let out := iotUcOutOk out id js
  { out with i := Function.update (Function.update out.i 0 ag.moist) 1 ag.pump }

def pumpHw (on : Bool) (st : AgriSt × Pwm) : AgriSt × Pwm :=
  let on := if st.1.inhibit then false else on
  ({ st.1 with pump := if on then 1 else 0 }, (iotPwmSetDuty (if on then 512 else 0) st.2).2)

def iotUcAgriSoil : Handler F (AgriSt × Pwm) := fun inp out (ag, p) =>
  let ag := { ag with
    moist := if inp.has (txt "moist") then inp.i32 (txt "moist") 0 else inp.i 0 }
  ⟨.ok, agJson out .agriSoil ag, (ag, p)⟩

def iotUcAgriPumpAuto : Handler F (AgriSt × Pwm) := fun _ out (ag, p) =>
  let st := pumpHw (ag.moist < ag.thresh) (ag, p)
  ⟨.ok, agJson out .agriPumpAuto st.1, st⟩

def iotUcAgriPumpOn : Handler F (AgriSt × Pwm) := fun _ out (ag, p) =>
  let st := pumpHw true (ag, p)
  ⟨if st.1.inhibit then .denied else .ok, agJson out .agriPumpOn st.1, st⟩

def iotUcAgriPumpOff : Handler F (AgriSt × Pwm) := fun _ out (ag, p) =>
  let st := pumpHw false (ag, p)
  ⟨.ok, agJson out .agriPumpOff st.1, st⟩

def iotUcAgriSchedule : Handler F (AgriSt × Pwm) := fun inp out (ag, p) =>
  let w :=
    if inp.has (txt "window_min") then inp.i32 (txt "window_min") ag.windowMin else ag.windowMin
  let ag := { ag with windowMin := w }
  ⟨.ok, agJson out .agriSchedule ag, (ag, p)⟩

/-- The flag an inhibit request asks for; without the member it is set. -/
def inhibitAsked (inp : IotUcIn F) : Bool :=
  let inh := if inp.has (txt "inhibit") then inp.i32 (txt "inhibit") 1 else 1
  inh ≠ 0

def iotUcAgriInhibit : Handler F (AgriSt × Pwm) := fun inp out (ag, p) =>
  let ag := { ag with inhibit := inhibitAsked inp }
  let st := if ag.inhibit then pumpHw false (ag, p) else (ag, p)
  ⟨.ok, agJson out .agriInhibit st.1, st⟩

def iotUcAgriOnSample (moistPct : Int32) (out : IotUcOut F) (st : AgriSt × Pwm) :
    Ret F (AgriSt × Pwm) :=
  let z : IotUcIn F := .zero
  let inp := { z with i := Function.update z.i 0 moistPct }
  let r := iotUcAgriSoil inp out st
  iotUcAgriPumpAuto inp r.out r.st

/-! ## Cold chain -/

def cdJson (out : IotUcOut F) (id : IotUcId) (cd : ColdSt F) : IotUcOut F :=
  let js := snprintf 260 (ucHead id ++ txt ",\"t_c\":" ++ fmt 2 cd.t ++ txt ",\"rh\":" ++
    fmt 1 cd.rh ++ txt ",\"door\":" ++ decBool cd.door ++ txt ",\"alarm\":" ++
    decBool cd.alarm ++ txt ",\"exc_min\":" ++ fmt 1 cd.minutesHot ++ txt ",\"acked\":" ++
    decBool cd.acked ++ txt "\x7d")
  let out := iotUcOutOk out id js
  { out with alarm := cd.alarm, f := Function.update out.f 0 cd.t }

def iotUcColdSample : Handler F (ColdSt F) := fun inp out cd =>
  let cd := { cd with
    t := inp.f32 (txt "t_c") (inp.f 0)
    rh := inp.f32 (txt "rh") (if flit 0 < inp.f 1 then inp.f 1 else cd.rh) }
  let cd := { cd with alarm := cd.tMax < cd.t ∨ cd.door }
  ⟨.ok, cdJson out .coldSample cd, cd⟩

def iotUcColdExcursion : Handler F (ColdSt F) := fun _ out cd =>
  let cd := if cd.tMax < cd.t then
      { cd with minutesHot := cd.minutesHot + flit 1 / flit 60, alarm := true, acked := false }
    else cd
  ⟨.ok, cdJson out .coldExcursion cd, cd⟩

def iotUcColdDoor : Handler F (ColdSt F) := fun inp out cd =>
  let door := if inp.has (txt "door") then decide (inp.i32 (txt "door") 0 ≠ 0) else inp.b 0
  let cd := { cd with door := door, alarm := if door then true else cd.alarm }
  ⟨.ok, cdJson out .coldDoor cd, cd⟩

def iotUcColdAck : Handler F (ColdSt F) := fun _ out cd =>
  let cd := { cd with
    acked := true
    alarm := if !cd.door ∧ cd.t ≤ cd.tMax then false else cd.alarm }
  ⟨.ok, cdJson out .coldAck cd, cd⟩

def iotUcColdDatalog : Handler F (ColdSt F) := fun _ out cd => ⟨.ok, cdJson out .coldDatalog cd, cd⟩

def iotUcColdOnSample (tC rh : F) (doorOpen : Bool) (out : IotUcOut F) (cd : ColdSt F) :
    Ret F (ColdSt F) :=
  let z : IotUcIn F := .zero
  let inp := { z with
    f := Function.update (Function.update z.f 0 tC) 1 rh
    b := Function.update z.b 0 doorOpen }
  let r := iotUcColdSample inp out cd
  let r := iotUcColdDoor inp r.out r.st
  iotUcColdExcursion inp r.out r.st

/-! ## Robotics gateway -/

def rbJson (out : IotUcOut F) (id : IotUcId) (rb : RobSt) : IotUcOut F :=
  let js := snprintf 240 (ucHead id ++ txt ",\"uart_bytes\":" ++ decU32 rb.uartN ++
    txt ",\"hb_ms\":" ++ decU32 rb.hbAgeMs ++ txt ",\"estop\":" ++ decI32 rb.estop ++
    txt ",\"batt_mv\":" ++ decI32 rb.battMv ++ txt "\x7d")
  { iotUcOutOk out id js with alarm := rb.estop ≠ 0 }

def iotUcRobotUart : Handler F RobSt := fun inp out rb =>
  let rb := { rb with uartN := inp.u 0, hbAgeMs := if 0 < inp.u 0 then 0 else rb.hbAgeMs }
  ⟨.ok, rbJson out .robotUart rb, rb⟩

def iotUcRobotHb : Handler F RobSt := fun _ out rb =>
  let rb := if rb.uartN = 0 then { rb with hbAgeMs := rb.hbAgeMs + 200 } else rb
  ⟨.ok, { rbJson out .robotHeartbeat rb with alarm := 5000 < rb.hbAgeMs }, rb⟩

def iotUcRobotReject : Handler F RobSt := fun _ out rb =>
  let out := iotUcOutErr out .robotRejectMotion .denied
  ⟨.denied, { out with
    json := snprintf 768
      (txt "\x7b\"uc\":\"robot.reject_motion\",\"err\":\"motion_on_robot_mcu_only\"\x7d")
    err := .denied }, rb⟩

def iotUcRobotEstop : Handler F RobSt := fun inp out rb =>
  let e := if inp.has (txt "estop") then inp.i32 (txt "estop") 1 else 1
  let rb := { rb with estop := e }
  ⟨.ok, rbJson out .robotEstopReport rb, rb⟩

def iotUcRobotBatt : Handler F RobSt := fun inp out rb =>
  let rb := { rb with battMv := if 0 < inp.i 0 then inp.i 0 else rb.battMv }
  let rb := { rb with
    battMv := if inp.has (txt "batt_mv") then inp.i32 (txt "batt_mv") 0 else rb.battMv }
  ⟨.ok, { rbJson out .robotBattery rb with alarm := rb.battMv < 18000 }, rb⟩

def iotUcRobotOnUart (n : ℕ) (out : IotUcOut F) (rb : RobSt) : Ret F RobSt :=
  let z : IotUcIn F := .zero
  let inp := { z with u := Function.update z.u 0 (UInt32.ofNat n) }
  let r := iotUcRobotUart inp out rb
  iotUcRobotHb inp r.out r.st

/-- While the pump is inhibited it is off, and off is what the driver was last told. -/
def PumpSafe (st : AgriSt × Pwm) : Prop :=
  (st.2.init = false → st.2.duty = 0) ∧
    (st.1.inhibit = true → st.1.pump = 0 ∧ st.2.duty = 0 ∧ st.2.requested = some 0)

theorem iotPwmSetDuty_init (duty : UInt32) (p : Pwm) :
    (iotPwmSetDuty duty p).2.init = p.init := by
  unfold iotPwmSetDuty
  cases p.init <;> simp

theorem iotPwmSetDuty_off {duty : UInt32} {p : Pwm} (h : p.init = false → p.duty = 0) :
    (iotPwmSetDuty duty p).2.init = false → (iotPwmSetDuty duty p).2.duty = 0 := by
  intro hi
  rw [iotPwmSetDuty_init] at hi
  simp [iotPwmSetDuty, hi, h hi]

@[simp] theorem pumpHw_inhibit (on : Bool) (st : AgriSt × Pwm) :
    (pumpHw on st).1.inhibit = st.1.inhibit := rfl

theorem pumpHw_safe {on : Bool} {st : AgriSt × Pwm} (h : st.2.init = false → st.2.duty = 0) :
    PumpSafe (pumpHw on st) := by
  refine ⟨iotPwmSetDuty_off h, fun hi => ?_⟩
  have hi' : st.1.inhibit = true := hi
  simpa [pumpHw, hi'] using iotPwmSetDuty_zero h

theorem pumpHw_inhibited {on : Bool} {st : AgriSt × Pwm} (h : PumpSafe st)
    (hi : st.1.inhibit = true) : pumpHw on st = st := by
  obtain ⟨ag, p⟩ := st
  obtain ⟨hoff, hsafe⟩ := h
  obtain ⟨hpump, hduty, hreq⟩ := hsafe hi
  have hd := iotPwmSetDuty_zero hoff
  have hinit := iotPwmSetDuty_init 0 p
  have hmax : (iotPwmSetDuty 0 p).2.dutyMax = p.dutyMax := by
    unfold iotPwmSetDuty
    cases p.init <;> rfl
  have hp : (iotPwmSetDuty 0 p).2 = p := by
    cases p
    cases hq : (iotPwmSetDuty 0 _).2
    simp_all
  cases ag
  simp_all [pumpHw]

theorem agriSoil_safe (inp : IotUcIn F) (out : IotUcOut F) {st : AgriSt × Pwm}
    (h : PumpSafe st) : PumpSafe (iotUcAgriSoil inp out st).st := h

omit [CFloat F] in
theorem agriPumpAuto_safe (inp : IotUcIn F) (out : IotUcOut F) {st : AgriSt × Pwm}
    (h : PumpSafe st) : PumpSafe (iotUcAgriPumpAuto inp out st).st := pumpHw_safe h.1

omit [CFloat F] in
theorem agriPumpOn_safe (inp : IotUcIn F) (out : IotUcOut F) {st : AgriSt × Pwm}
    (h : PumpSafe st) : PumpSafe (iotUcAgriPumpOn inp out st).st := pumpHw_safe h.1

omit [CFloat F] in
theorem agriPumpOff_safe (inp : IotUcIn F) (out : IotUcOut F) {st : AgriSt × Pwm}
    (h : PumpSafe st) : PumpSafe (iotUcAgriPumpOff inp out st).st := pumpHw_safe h.1

theorem agriSchedule_safe (inp : IotUcIn F) (out : IotUcOut F) {st : AgriSt × Pwm}
    (h : PumpSafe st) : PumpSafe (iotUcAgriSchedule inp out st).st := h

theorem agriInhibit_safe (inp : IotUcIn F) (out : IotUcOut F) {st : AgriSt × Pwm}
    (h : PumpSafe st) : PumpSafe (iotUcAgriInhibit inp out st).st := by
  unfold iotUcAgriInhibit
  dsimp only
  cases inhibitAsked inp with
  | true => exact pumpHw_safe h.1
  | false => exact ⟨h.1, fun hi => by simp at hi⟩

theorem agriOnSample_safe (moistPct : Int32) (out : IotUcOut F) {st : AgriSt × Pwm}
    (h : PumpSafe st) : PumpSafe (iotUcAgriOnSample moistPct out st).st := by
  unfold iotUcAgriOnSample
  exact agriPumpAuto_safe _ _ (agriSoil_safe _ out h)

end IotPlatform
