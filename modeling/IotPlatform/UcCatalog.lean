import IotPlatform.UcEnergy
import IotPlatform.UcIndustrial
import IotPlatform.UcWater
import IotPlatform.UcEvAuto
import IotPlatform.UcField
import IotPlatform.UcPlatform

/-!
# The catalog and dispatcher of `iot_uc.c`

Each handler runs on the part of the device that its file owns.
-/
namespace IotPlatform
open CText CFloat

variable {F : Type} [CFloat F]

section
omit [CFloat F]

def onEnergy (h : Handler F (EnergySt F × Gpio)) : Handler F (Device F) :=
  h.at (fun d => (d.energy, d.gpio)) fun s d => { d with energy := s.1, gpio := s.2 }

def onInd (h : Handler F (IndSt F)) : Handler F (Device F) :=
  h.at Device.ind fun s d => { d with ind := s }

def onPm (h : Handler F (PmSt F)) : Handler F (Device F) :=
  h.at Device.pm fun s d => { d with pm := s }

def onWater (h : Handler F (WaterSt F × Gpio)) : Handler F (Device F) :=
  h.at (fun d => (d.water, d.gpio)) fun s d => { d with water := s.1, gpio := s.2 }

def onEv (h : Handler F (EvSt F)) : Handler F (Device F) :=
  h.at Device.ev fun s d => { d with ev := s }

def onCan (h : Handler F AutoSt) : Handler F (Device F) :=
  h.at Device.can fun s d => { d with can := s }

def onTr (h : Handler F TrkSt) : Handler F (Device F) :=
  h.at Device.tr fun s d => { d with tr := s }

def onAg (h : Handler F (AgriSt × Pwm)) : Handler F (Device F) :=
  h.at (fun d => (d.ag, d.pwm)) fun s d => { d with ag := s.1, pwm := s.2 }

def onCd (h : Handler F (ColdSt F)) : Handler F (Device F) :=
  h.at Device.cd fun s d => { d with cd := s }

def onRb (h : Handler F RobSt) : Handler F (Device F) :=
  h.at Device.rb fun s d => { d with rb := s }

def onSys (h : Handler F SysSt) : Handler F (Device F) :=
  h.at Device.sys fun s d => { d with sys := s }

end

/-- The `fn` column of `s_tab`; none where `find_id` returns NULL. -/
def entryFn (P : Platform) : IotUcId → Option (Handler F (Device F))
  | .invalid => none
  | .pltFactoryReset => some (onSys (iotUcPltFactoryReset P))
  | .pltSetSampleMs => some (onSys (iotUcPltSetSampleMs P))
  | .pltGetDiag => some (onSys (iotUcPltGetDiag P))
  | .pltProvision => some (onSys (iotUcPltProvision P))
  | .pltOta => some (onSys (iotUcPltOta P))
  | .pltIdentity => some (onSys iotUcPltIdentity)
  | .pltSetCloud => some (onSys (iotUcPltSetCloud P))
  | .pltSetLogLevel => some (onSys iotUcPltSetLogLevel)
  | .pltExportTopics => some (onSys (iotUcPltExportTopics P))
  | .pltWifiBackoffPolicy => some (onSys iotUcPltWifiBackoff)
  | .pltCmdSchema => some (onSys iotUcPltCmdSchema)
  | .pltMarkOtaValid => some (onSys (iotUcPltMarkOta P))
  | .pltShutdown => some (onSys iotUcPltShutdown)
  | .energyMeasure => some (onEnergy iotUcEnergyMeasure)
  | .energyAccum => some (onEnergy iotUcEnergyAccum)
  | .energyOverPower => some (onEnergy iotUcEnergyOverPower)
  | .energyOverVoltage => some (onEnergy iotUcEnergyOverVoltage)
  | .energyUnderVoltage => some (onEnergy iotUcEnergyUnderVoltage)
  | .energyOverCurrent => some (onEnergy iotUcEnergyOverCurrent)
  | .energySetLimits => some (onEnergy iotUcEnergySetLimits)
  | .energyCalibrate => some (onEnergy iotUcEnergyCalibrate)
  | .energyResetDaily => some (onEnergy iotUcEnergyResetDaily)
  | .energyPf => some (onEnergy iotUcEnergyPf)
  | .energyGetState => some (onEnergy iotUcEnergyGetState)
  | .energyLedAlarm => some (onEnergy iotUcEnergyLedAlarm)
  | .indSample => some (onInd iotUcIndSample)
  | .indStateMachine => some (onInd iotUcIndState)
  | .indSetLimits => some (onInd iotUcIndSetLimits)
  | .indAckAlarm => some (onInd iotUcIndAck)
  | .indHoursTick => some (onInd iotUcIndHours)
  | .indPulse => some (onInd iotUcIndPulse)
  | .pmFeatures => some (onPm iotUcPmFeatures)
  | .pmHealth => some (onPm iotUcPmHealth)
  | .pmTrend => some (onPm iotUcPmTrend)
  | .pmResetPeak => some (onPm iotUcPmResetPeak)
  | .waterMeter => some (onWater iotUcWaterMeter)
  | .waterLeak => some (onWater iotUcWaterLeak)
  | .waterBurst => some (onWater iotUcWaterBurst)
  | .waterValveOpen => some (onWater iotUcWaterValveOpen)
  | .waterValveClose => some (onWater iotUcWaterValveClose)
  | .waterTamper => some (onWater iotUcWaterTamper)
  | .waterBillingFreeze => some (onWater iotUcWaterBilling)
  | .waterSetK => some (onWater iotUcWaterSetK)
  | .waterGetState => some (onWater iotUcWaterGetState)
  | .evSample => some (onEv iotUcEvSample)
  | .evStartReq => some (onEv iotUcEvStart)
  | .evStopReq => some (onEv iotUcEvStop)
  | .evRejectContactor => some (onEv iotUcEvRejectContactor)
  | .evSession => some (onEv iotUcEvSession)
  | .evFaultLatch => some (onEv iotUcEvFault)
  | .evGetState => some (onEv iotUcEvGetState)
  | .autoFilter => some (onCan iotUcAutoFilter)
  | .autoDecode => some (onCan iotUcAutoDecode)
  | .autoRejectTx => some (onCan iotUcAutoRejectTx)
  | .autoBusOff => some (onCan iotUcAutoBusOff)
  | .autoDtc => some (onCan iotUcAutoDtc)
  | .autoGetState => some (onCan iotUcAutoGetState)
  | .trkBeacon => some (onTr iotUcTrkBeacon)
  | .trkMotion => some (onTr iotUcTrkMotion)
  | .trkBattLow => some (onTr iotUcTrkBatt)
  | .trkGeofence => some (onTr iotUcTrkGeo)
  | .trkSleep => some (onTr iotUcTrkSleep)
  | .agriSoil => some (onAg iotUcAgriSoil)
  | .agriPumpAuto => some (onAg iotUcAgriPumpAuto)
  | .agriPumpOn => some (onAg iotUcAgriPumpOn)
  | .agriPumpOff => some (onAg iotUcAgriPumpOff)
  | .agriSchedule => some (onAg iotUcAgriSchedule)
  | .agriInhibit => some (onAg iotUcAgriInhibit)
  | .coldSample => some (onCd iotUcColdSample)
  | .coldExcursion => some (onCd iotUcColdExcursion)
  | .coldDoor => some (onCd iotUcColdDoor)
  | .coldAck => some (onCd iotUcColdAck)
  | .coldDatalog => some (onCd iotUcColdDatalog)
  | .robotUart => some (onRb iotUcRobotUart)
  | .robotHeartbeat => some (onRb iotUcRobotHb)
  | .robotRejectMotion => some (onRb iotUcRobotReject)
  | .robotEstopReport => some (onRb iotUcRobotEstop)
  | .robotBattery => some (onRb iotUcRobotBatt)
  | .count => none

theorem entryFn_isSome_iff (P : Platform) (id : IotUcId) :
    (entryFn P id : Option (Handler F (Device F))).isSome ↔ id ≠ .invalid ∧ id ≠ .count := by
  cases id <;> simp [entryFn]

def iotUcRun (P : Platform) (id : IotUcId) (inp : IotUcIn F) (d : Device F) :
    Ret F (Device F) :=
  let d := { d with ucInit := true }
  match entryFn P id with
  | none => ⟨.notFound, iotUcOutErr .zero id .notFound, d⟩
  | some fn => fn inp .zero d

/-- The record that `iot_uc_run_json` fills in. -/
def ucInput (json : Text) : IotUcIn F :=
  let z : IotUcIn F := .zero
  let f := Function.update z.f 0 ((iotUcJsonF32 json (txt "f0")).getD (z.f 0))
  let f := Function.update f 1 ((iotUcJsonF32 json (txt "f1")).getD (f 1))
  let f := Function.update f 2 ((iotUcJsonF32 json (txt "f2")).getD (f 2))
  { z with
    json := some json
    f := f
    i := Function.update z.i 0 ((iotUcJsonI32 F json (txt "i0")).getD (z.i 0))
    s0 := ((iotUcJsonStr json (txt "s0") 64).map (CBuf.store 64)).getD z.s0
    s1 := ((iotUcJsonStr json (txt "ota_url") 160).map (CBuf.store 160)).getD z.s1 }

/-- The `uc` member, when `iot_uc_json_str` returns true for it. -/
def ucNameOf (json : Text) : Option Text :=
  match iotUcJsonStr json (txt "uc") 48 with
  | some name => if name = [] then none else some name
  | none => none

def iotUcRunJson (P : Platform) (json : Text) (len : ℕ) (out : IotUcOut F) (d : Device F) :
    Ret F (Device F) :=
  if len = 0 then ⟨.invalidArg, out, d⟩
  else match ucNameOf json with
    | none => ⟨.protocol, iotUcOutErr out .invalid .protocol, d⟩
    | some name => iotUcRun P (iotUcIdFromName name) (ucInput json) d

/-- The C string in the payload of a message that `past` follows in memory. -/
def IotCommandMsg.text {cap : ℕ} (cmd : IotCommandMsg cap) (past : List UInt8) : Text :=
  cstr (cmd.payload ++ past)

def iotUcDispatchCommand {cap : ℕ} (P : Platform) (cmd : IotCommandMsg cap) (past : List UInt8)
    (out : IotUcOut F) (d : Device F) : Ret F (Device F) :=
  if cmd.payloadLen = 0 then ⟨.invalidArg, out, d⟩
  else iotUcRunJson P (cmd.text past) cmd.payloadLen out d

theorem iotUcRun_notFound {P : Platform} {id : IotUcId} (h : id = .invalid ∨ id = .count)
    (inp : IotUcIn F) (d : Device F) :
    (iotUcRun P id inp d).err = .notFound ∧
      (iotUcRun P id inp d).st = { d with ucInit := true } := by
  rcases h with rfl | rfl <;> exact ⟨rfl, rfl⟩

theorem iotUcRunJson_of_name {P : Platform} {json name : Text} {len : ℕ} (hlen : len ≠ 0)
    (hname : ucNameOf json = some name) (out : IotUcOut F) (d : Device F) :
    iotUcRunJson P json len out d = iotUcRun P (iotUcIdFromName name) (ucInput json) d := by
  simp [iotUcRunJson, hlen, hname]

end IotPlatform
