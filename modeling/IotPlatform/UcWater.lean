import IotPlatform.UcJson

/-!
# `iot_uc_water.c`

Handlers work on the meter registers and on the GPIO driver, which drives the valve.
-/
namespace IotPlatform
open CText CFloat

variable {F : Type} [CFloat F]

def iotUcWaterValveIsOpen (w : WaterSt F) : Bool := w.valveOpen

def waterJson (out : IotUcOut F) (id : IotUcId) (w : WaterSt F) : IotUcOut F :=
  let js := snprintf 360 (ucHead id ++ txt ",\"flow_lpm\":" ++ fmt 2 w.flowLpm ++
    txt ",\"liters\":" ++ fmt 3 w.liters ++ txt ",\"billing\":" ++ fmt 3 w.billing ++
    txt ",\"tank_pct\":" ++ fmt 1 w.tankPct ++ txt ",\"valve\":" ++ decBool w.valveOpen ++
    txt ",\"leak\":" ++ decBool w.leak ++ txt ",\"burst\":" ++ decBool w.burst ++
    txt ",\"tamper\":" ++ decBool w.tamper ++ txt ",\"frozen\":" ++ decBool w.frozen ++
    txt "\x7d")
  let out := iotUcOutOk out id js
  { out with
    f := Function.update (Function.update out.f 0 w.flowLpm) 1 w.liters
    alarm := w.leak || w.burst || w.tamper }

def applyValve (isOpen : Bool) (st : WaterSt F × Gpio) : WaterSt F × Gpio :=
  ({ st.1 with valveOpen := isOpen }, (iotGpioWrite iotPinPwmOut isOpen st.2).2)

def iotUcWaterLeak : Handler F (WaterSt F × Gpio) := fun _ out (w, g) =>
  let w := { w with leak := flit 0.1 < w.flowLpm ∧ !w.valveOpen }
  ⟨.ok, waterJson out .waterLeak w, (w, g)⟩

def iotUcWaterBurst : Handler F (WaterSt F × Gpio) := fun _ out (w, g) =>
  let w := { w with burst := w.burstLpm < w.flowLpm }
  let st := if w.burst then applyValve false (w, g) else (w, g)
  ⟨.ok, waterJson out .waterBurst st.1, st⟩

/-- The pulse counter a metering request carries; a request without the member reads `u[0]`. -/
def meterPulses (inp : IotUcIn F) : UInt32 :=
  if inp.has (txt "pulses") then (inp.i32 (txt "pulses") 0).toUInt32 else inp.u 0

/-- Pulses since the last reading; a counter below the stored one counts as none. -/
def meterDelta (pulses last : UInt32) : UInt32 := if last ≤ pulses then pulses - last else 0

/-- The registers after `iot_uc_water_meter` has counted and before it checks leak and burst. -/
def waterCount (pulses : UInt32) (tankMv : Int32) (w : WaterSt F) : WaterSt F :=
  let d := meterDelta pulses w.lastPulses
  let litresDelta := if flit 0.01 < w.kPpl then flit d.toNat / w.kPpl else flit 0
  let w := { w with
    lastPulses := pulses
    flowLpm := litresDelta * flit 60
    liters := if !w.frozen then w.liters + litresDelta else w.liters
    billing := if !w.frozen then w.billing + litresDelta else w.billing }
  if 0 < tankMv then
    let pct := flit tankMv.toInt / flit 3300 * flit 100
    { w with tankPct := if flit 100 < pct then flit 100 else pct }
  else w

def iotUcWaterMeter : Handler F (WaterSt F × Gpio) := fun inp out (w, g) =>
  let w := waterCount (meterPulses inp) (inp.i 0) w
  let r := iotUcWaterLeak inp out (w, g)
  let r := iotUcWaterBurst inp r.out r.st
  ⟨.ok, waterJson r.out .waterMeter r.st.1, r.st⟩

def iotUcWaterOnSample (pulses : UInt32) (tankMv : Int32) (out : IotUcOut F)
    (st : WaterSt F × Gpio) : Ret F (WaterSt F × Gpio) :=
  let z : IotUcIn F := .zero
  iotUcWaterMeter
    { z with u := Function.update z.u 0 pulses, i := Function.update z.i 0 tankMv } out st

def iotUcWaterValveOpen : Handler F (WaterSt F × Gpio) := fun _ out (w, g) =>
  if w.tamper then ⟨.denied, iotUcOutErr out .waterValveOpen .denied, (w, g)⟩
  else
    let st := applyValve true (w, g)
    ⟨.ok, waterJson out .waterValveOpen st.1, st⟩

def iotUcWaterValveClose : Handler F (WaterSt F × Gpio) := fun _ out (w, g) =>
  let st := applyValve false (w, g)
  ⟨.ok, waterJson out .waterValveClose st.1, st⟩

def iotUcWaterTamper : Handler F (WaterSt F × Gpio) := fun _ out (w, g) =>
  let st := applyValve false ({ w with tamper := true }, g)
  ⟨.ok, { waterJson out .waterTamper st.1 with alarm := true }, st⟩

def iotUcWaterBilling : Handler F (WaterSt F × Gpio) := fun inp out (w, g) =>
  let freeze := if inp.has (txt "freeze") then inp.i32 (txt "freeze") 1 else 1
  let w := { w with frozen := freeze ≠ 0 }
  ⟨.ok, waterJson out .waterBillingFreeze w, (w, g)⟩

def kAsked (inp : IotUcIn F) : F :=
  if inp.has (txt "k") then inp.f32 (txt "k") (inp.f 0) else inp.f 0

def iotUcWaterSetK : Handler F (WaterSt F × Gpio) := fun inp out (w, g) =>
  let k := kAsked inp
  if k < flit 0.1 ∨ flit 1000 < k then
    ⟨.invalidArg, iotUcOutErr out .waterSetK .invalidArg, (w, g)⟩
  else
    let w := { w with kPpl := k }
    ⟨.ok, waterJson out .waterSetK w, (w, g)⟩

def iotUcWaterGetState : Handler F (WaterSt F × Gpio) := fun _ out (w, g) =>
  ⟨.ok, waterJson out .waterGetState w, (w, g)⟩

/-- The registers that billing reads and writes. -/
def WaterSt.totals (w : WaterSt F) : F × F × UInt32 × Bool × F :=
  (w.liters, w.billing, w.lastPulses, w.frozen, w.kPpl)

theorem waterBurst_totals (inp : IotUcIn F) (out : IotUcOut F) (st : WaterSt F × Gpio) :
    (iotUcWaterBurst inp out st).st.1.totals = st.1.totals := by
  unfold iotUcWaterBurst
  dsimp only
  split <;> rfl

theorem waterMeter_totals (inp : IotUcIn F) (out : IotUcOut F) (st : WaterSt F × Gpio) :
    (iotUcWaterMeter inp out st).st.1.totals =
      (waterCount (meterPulses inp) (inp.i 0) st.1).totals := by
  obtain ⟨w, g⟩ := st
  let r := iotUcWaterLeak inp out (waterCount (meterPulses inp) (inp.i 0) w, g)
  exact (waterBurst_totals inp r.out r.st).trans rfl

theorem waterCount_totals {w : WaterSt F} (hfrozen : w.frozen = false)
    (hk : flit 0.01 < w.kPpl) (pulses : UInt32) (tankMv : Int32) :
    (waterCount pulses tankMv w).totals =
      (w.liters + flit (meterDelta pulses w.lastPulses).toNat / w.kPpl,
        w.billing + flit (meterDelta pulses w.lastPulses).toNat / w.kPpl,
        pulses, w.frozen, w.kPpl) := by
  unfold waterCount
  simp only [if_pos hk]
  split <;> simp [WaterSt.totals, hfrozen]

theorem waterValveOpen_totals (inp : IotUcIn F) (out : IotUcOut F) (st : WaterSt F × Gpio) :
    (iotUcWaterValveOpen inp out st).st.1.totals = st.1.totals := by
  unfold iotUcWaterValveOpen
  dsimp only
  split <;> rfl

theorem meterDelta_self (last : UInt32) : meterDelta last last = 0 := by
  simp [meterDelta]

theorem meterDelta_exact {total n : ℕ} {last : UInt32} (hlast : last.toNat = total % 2 ^ 32)
    (hn : total % 2 ^ 32 + n < 2 ^ 32) :
    (meterDelta (UInt32.ofNat (total + n)) last).toNat = n := by
  have hnow : (UInt32.ofNat (total + n)).toNat = total % 2 ^ 32 + n := by
    rw [UInt32.toNat_ofNat', Nat.add_mod, Nat.mod_eq_of_lt (show n < 2 ^ 32 by omega)]
    exact Nat.mod_eq_of_lt hn
  have hle : last ≤ UInt32.ofNat (total + n) := by
    rw [UInt32.le_iff_toNat_le, hnow, hlast]
    omega
  rw [meterDelta, if_pos hle, UInt32.toNat_sub_of_le _ _ hle, hnow, hlast]
  omega

end IotPlatform
