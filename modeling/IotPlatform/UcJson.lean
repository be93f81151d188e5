import IotPlatform.Device
import IotPlatform.KeySearch

/-!
# JSON helpers, names and result records of `iot_uc.c`
-/
namespace IotPlatform
open CText CFloat KeySearch

/-- The `id` and `name` columns of `s_tab`. -/
def sTab : List (IotUcId × Text) :=
  [(.pltFactoryReset, txt "plt.factory_reset"), (.pltSetSampleMs, txt "plt.set_sample_ms"),
    (.pltGetDiag, txt "plt.get_diag"), (.pltProvision, txt "plt.provision"),
    (.pltOta, txt "plt.ota"), (.pltIdentity, txt "plt.identity"),
    (.pltSetCloud, txt "plt.set_cloud"), (.pltSetLogLevel, txt "plt.set_log_level"),
    (.pltExportTopics, txt "plt.export_topics"),
    (.pltWifiBackoffPolicy, txt "plt.wifi_backoff"), (.pltCmdSchema, txt "plt.cmd_schema"),
    (.pltMarkOtaValid, txt "plt.mark_ota_valid"), (.pltShutdown, txt "plt.shutdown"),
    (.energyMeasure, txt "energy.measure"), (.energyAccum, txt "energy.accum"),
    (.energyOverPower, txt "energy.over_power"), (.energyOverVoltage, txt "energy.over_voltage"),
    (.energyUnderVoltage, txt "energy.under_voltage"),
    (.energyOverCurrent, txt "energy.over_current"),
    (.energySetLimits, txt "energy.set_limits"), (.energyCalibrate, txt "energy.calibrate"),
    (.energyResetDaily, txt "energy.reset_daily"), (.energyPf, txt "energy.pf"),
    (.energyGetState, txt "energy.get_state"), (.energyLedAlarm, txt "energy.led_alarm"),
    (.indSample, txt "industrial.sample"), (.indStateMachine, txt "industrial.state"),
    (.indSetLimits, txt "industrial.set_limits"), (.indAckAlarm, txt "industrial.ack"),
    (.indHoursTick, txt "industrial.hours"), (.indPulse, txt "industrial.pulse"),
    (.pmFeatures, txt "predictive.features"), (.pmHealth, txt "predictive.health"),
    (.pmTrend, txt "predictive.trend"), (.pmResetPeak, txt "predictive.reset_peak"),
    (.waterMeter, txt "water.meter"), (.waterLeak, txt "water.leak"),
    (.waterBurst, txt "water.burst"), (.waterValveOpen, txt "water.valve_open"),
    (.waterValveClose, txt "water.valve_close"), (.waterTamper, txt "water.tamper"),
    (.waterBillingFreeze, txt "water.billing_freeze"), (.waterSetK, txt "water.set_k"),
    (.waterGetState, txt "water.get_state"),
    (.evSample, txt "ev.sample"), (.evStartReq, txt "ev.start"), (.evStopReq, txt "ev.stop"),
    (.evRejectContactor, txt "ev.reject_contactor"), (.evSession, txt "ev.session"),
    (.evFaultLatch, txt "ev.fault"), (.evGetState, txt "ev.get_state"),
    (.autoFilter, txt "auto.filter"), (.autoDecode, txt "auto.decode"),
    (.autoRejectTx, txt "auto.reject_tx"), (.autoBusOff, txt "auto.bus_off"),
    (.autoDtc, txt "auto.dtc"), (.autoGetState, txt "auto.get_state"),
    (.trkBeacon, txt "tracker.beacon"), (.trkMotion, txt "tracker.motion"),
    (.trkBattLow, txt "tracker.batt_low"), (.trkGeofence, txt "tracker.geofence"),
    (.trkSleep, txt "tracker.sleep"),
    (.agriSoil, txt "agri.soil"), (.agriPumpAuto, txt "agri.pump_auto"),
    (.agriPumpOn, txt "agri.pump_on"), (.agriPumpOff, txt "agri.pump_off"),
    (.agriSchedule, txt "agri.schedule"), (.agriInhibit, txt "agri.inhibit"),
    (.coldSample, txt "cold.sample"), (.coldExcursion, txt "cold.excursion"),
    (.coldDoor, txt "cold.door"), (.coldAck, txt "cold.ack"),
    (.coldDatalog, txt "cold.datalog"),
    (.robotUart, txt "robot.uart"), (.robotHeartbeat, txt "robot.heartbeat"),
    (.robotRejectMotion, txt "robot.reject_motion"),
    (.robotEstopReport, txt "robot.estop_report"), (.robotBattery, txt "robot.battery")]

def iotUcName (id : IotUcId) : Text :=
  match sTab.find? (fun e => e.1 = id) with
  | some e => e.2
  | none => txt "invalid"

def iotUcIdFromName (name : Text) : IotUcId :=
  match sTab.find? (fun e => e.2 = name) with
  | some e => e.1
  | none => .invalid

def iotUcJsonHasKey (json key : Text) : Bool :=
  (strstr json (snprintf 48 (quoted key))).isSome

/-- The bytes `iot_uc_json_str` skips between the colon and the opening quote. -/
def ucBlank (b : UInt8) : Bool := b == 32 || b == 9

/-- `iot_uc_json_str`: the text written to `out`, or none when `out` is left alone. The C
function returns true exactly when a nonempty text was written. -/
def iotUcJsonStr (json key : Text) (outLen : ℕ) : Option Text :=
  fieldText 48 ucBlank outLen json key

/-- The numeral that `iot_uc_json_f32` hands to `atof`. -/
def iotUcJsonNum (json key : Text) : Option Numeral :=
  (fieldAfter 48 json key).map Numeral.strtod

section
variable {F : Type} [CFloat F]

/-- `iot_uc_json_f32`: the value stored through `out`, or none when the call returns false. -/
def iotUcJsonF32 (json key : Text) : Option F := (iotUcJsonNum json key).map ofNumeral

def iotUcJsonI32 (F : Type) [CFloat F] (json key : Text) : Option Int32 :=
  (iotUcJsonF32 json key : Option F).map toInt32

/-- `(in->json != NULL) && iot_uc_json_has_key(in->json, key)`. -/
def IotUcIn.has (inp : IotUcIn F) (key : Text) : Bool :=
  match inp.json with
  | none => false
  | some json => iotUcJsonHasKey json key

/-- The variable holding `v` after `if (in->json != NULL) iot_uc_json_f32(in->json, key, &v)`. -/
def IotUcIn.f32 (inp : IotUcIn F) (key : Text) (v : F) : F :=
  match inp.json with
  | none => v
  | some json => (iotUcJsonF32 json key).getD v

/-- A request either leaves the variable alone or stores a value of its own. -/
theorem IotUcIn.f32_cases (inp : IotUcIn F) (key : Text) :
    (∀ v, inp.f32 key v = v) ∨ ∃ x, ∀ v, inp.f32 key v = x := by
  unfold IotUcIn.f32
  cases inp.json with
  | none => exact Or.inl fun _ => rfl
  | some json =>
    cases h : (iotUcJsonF32 json key : Option F) with
    | none => exact Or.inl fun v => by simp [h]
    | some x => exact Or.inr ⟨x, fun v => by simp [h]⟩

/-- The variable holding `v` after `if (in->json != NULL) iot_uc_json_i32(in->json, key, &v)`. -/
def IotUcIn.i32 (inp : IotUcIn F) (key : Text) (v : Int32) : Int32 :=
  match inp.json with
  | none => v
  | some json => (iotUcJsonI32 F json key).getD v

end

section
variable {F : Type}

def iotUcOutOk (out : IotUcOut F) (id : IotUcId) (json : Text) : IotUcOut F :=
  { out with err := .ok, id := id, json := snprintf 768 json }

def iotUcOutErr (out : IotUcOut F) (id : IotUcId) (err : IotErr) : IotUcOut F :=
  { out with
    err := err
    id := id
    json := snprintf 768 (txt "\x7b\"uc\":" ++ decInt id.code ++ txt ",\"err\":" ++
      decInt err.code ++ txt "\x7d") }

end

def decBool (b : Bool) : Text := if b then txt "1" else txt "0"

def decU32 (n : UInt32) : Text := decNat n.toNat

def decI32 (n : Int32) : Text := decInt n.toInt

/-- The head `{"uc":"<name>` of the texts that the handlers build. -/
def ucHead (id : IotUcId) : Text := txt "\x7b\"uc\":\"" ++ iotUcName id ++ txt "\""

theorem ucBlank_quote : ucBlank quote = false := by decide

/-- Names and ids of the catalog determine each other. -/
theorem iotUcIdFromName_name :
    ∀ e ∈ sTab, iotUcIdFromName e.2 = e.1 ∧ iotUcName e.1 = e.2 := by
  decide +kernel

/-- A name of the catalog needs no escape, contains a point and fits the buffer it is read to. -/
theorem sTab_bytes : ∀ e ∈ sTab, (e.2.all (32 ≤ ·) = true ∧ quote ∉ e.2 ∧ backslash ∉ e.2) ∧
    46 ∈ e.2 ∧ e.2.length < 48 := by
  decide +kernel

end IotPlatform
