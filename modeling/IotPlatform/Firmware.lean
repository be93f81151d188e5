import IotPlatform.Profiles

/-!
# Boot, ingress and the operations of the running firmware
-/
namespace IotPlatform
open CText CFloat

variable {F : Type} [CFloat F]

/-- The message that both producers put on the command queue: `memset`, then at most 256 bytes. -/
def enqueued (opcode : UInt16) (body : List UInt8) : IotCommandMsg iotJsonSmallLen where
  opcode := opcode
  payloadLen := min body.length iotJsonSmallLen
  payload := padTo iotJsonSmallLen body
  sized := length_padTo _ _

/-- `mqtt_event` on `MQTT_EVENT_DATA`. -/
def mqttEvent (data : List UInt8) : IotCommandMsg iotJsonSmallLen := enqueued 0x4D51 data

/-- `gatt_access` on a write to the characteristic `uuid16`. -/
def gattAccess (uuid16 : UInt16) (om : List UInt8) : IotCommandMsg iotJsonSmallLen :=
  enqueued uuid16 om

def iotFwVersionString : Text := txt "1.0.0"

def iotSecurityInit (P : Platform) (profile : Profile) : Identity where
  deviceId := iotSecurityDefaultDeviceId P (CBuf.store 32 [])
  fwVersion := iotFwVersionString
  profile := profile.ctorIdx

/-- `iot_diag_init`; `wdtReset` says whether a watchdog caused the reset. -/
def iotDiagInit (P : Platform) (wdtReset : Bool) (s : DiagSt) : DiagSt :=
  let s := { s with bootMs := P.millis }
  if wdtReset ∧ P.build = .target then iotDiagEvent diagWatchdogReset s else s

/-- The step of `app_main` that gives an unprovisioned device its default id. -/
def adoptDeviceId (P : Platform) (st : CfgStore) : CfgStore :=
  let (_, cfg, st) := iotConfigLoad P zeroCfg st
  if cfg.deviceId.text = [] ∨ (strstr cfg.deviceId.text (txt "unprovisioned")).isSome then
    (iotConfigSave P { cfg with deviceId := iotSecurityDefaultDeviceId P cfg.deviceId } st).2
  else st

/-- `app_main` up to the point where commands are accepted, with the compiled-in `profile`. Only
the agriculture profile's init touches state that is kept here. -/
def appMain (P : Platform) (profile : Profile) (wdtReset : Bool) (nvs : Option NvsImage) :
    Device F :=
  let d : Device F := .static F nvs
  { d with
    gpio := { d.gpio with init := true }
    pwm := if profile = .agriculture then (iotPwmInit 10 d.pwm).2 else d.pwm
    sys := { d.sys with
      cfg := adoptDeviceId P (iotConfigInit d.sys.cfg).2
      identity := iotSecurityInit P profile
      diag := iotDiagInit P wdtReset d.sys.diag
      systemEvt := some 0 }
    ucInit := true }

/-- What may happen to a running device: a queued command, a use case run directly or from text,
a sensor hook's sample, progress of the OTA task, and a diagnostic event of another task. -/
inductive Op (F : Type)
  | command (P : Platform) (past : List UInt8) (cmd : IotCommandMsg iotJsonSmallLen)
  | run (P : Platform) (id : IotUcId) (inp : IotUcIn F)
  | runJson (P : Platform) (json : Text) (len : ℕ)
  | energyAdc (mv : Int32)
  | indSample (temp vib current pressure : F) (pulses : UInt32)
  | pmSample (accel : F)
  | waterSample (pulses : UInt32) (tankMv : Int32)
  | evSample (mv : Int32)
  | autoFrame (canId speed rpm coolant : UInt32)
  | trkSample (rssi battMv : Int32) (moving : Bool)
  | agriSample (moistPct : Int32)
  | coldSample (tC rh : F) (doorOpen : Bool)
  | robotUart (n : ℕ)
  | otaProgress (state : OtaState)
  | diag (id : UInt32)

def sampled (h : Handler F (Device F)) (d : Device F) : Device F := (h .zero .zero d).st

def Op.apply (profile : Profile) (d : Device F) : Op F → Device F
  | .command P past cmd => (profile.cmdHook P past cmd d).2
  | .run P id inp => (iotUcRun P id inp d).st
  | .runJson P json len => (iotUcRunJson P json len .zero d).st
  | .energyAdc mv => sampled (onEnergy fun _ => iotUcEnergyOnAdc mv) d
  | .indSample temp vib current pressure pulses =>
    sampled (onInd fun _ => iotUcIndOnSample temp vib current pressure pulses) d
  | .pmSample accel => sampled (onPm fun _ => iotUcPmOnSample accel) d
  | .waterSample pulses tankMv => sampled (onWater fun _ => iotUcWaterOnSample pulses tankMv) d
  | .evSample mv => sampled (onEv fun _ => iotUcEvOnSample mv) d
  | .autoFrame canId speed rpm coolant =>
    sampled (onCan fun _ => iotUcAutoOnFrame canId speed rpm coolant) d
  | .trkSample rssi battMv moving => sampled (onTr fun _ => iotUcTrkOnSample rssi battMv moving) d
  | .agriSample moistPct => sampled (onAg fun _ => iotUcAgriOnSample moistPct) d
  | .coldSample tC rh doorOpen => sampled (onCd fun _ => iotUcColdOnSample tC rh doorOpen) d
  | .robotUart n => sampled (onRb fun _ => iotUcRobotOnUart n) d
  | .otaProgress state => { d with sys := { d.sys with ota := { d.sys.ota with state := state } } }
  | .diag id => d.diagEvent id

/-- The states of a device with the compiled-in `profile`. -/
inductive Reachable (profile : Profile) : Device F → Prop
  | boot (P : Platform) (wdtReset : Bool) (nvs : Option NvsImage) :
      Reachable profile (appMain P profile wdtReset nvs)
  | step {d : Device F} (op : Op F) : Reachable profile d → Reachable profile (op.apply profile d)

end IotPlatform
