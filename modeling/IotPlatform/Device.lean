import IotPlatform.Types

/-!
# Device state

The static variables of the use-case files, of the GPIO and PWM drivers, of the configuration,
OTA, diagnostics and identity modules, with the values C initialises them to.
-/
namespace IotPlatform
open CText CFloat

/-! ## Use-case registers -/

section
variable (F : Type)

structure EnergySt where
  vScale : F
  iScale : F
  vrms : F
  irms : F
  p : F
  pf : F
  kwh : F
  kwhDay : F
  overW : F
  overV : F
  underV : F
  overI : F
  trips : UInt32
  alarm : Bool

/-- `ind_st_t`, with the states of `ind_state_t`. -/
inductive IndState
  | stop | idle | run | warn | fault
  deriving DecidableEq, Repr

structure IndSt where
  temp : F
  vib : F
  current : F
  pressure : F
  tLim : F
  vibLim : F
  iLim : F
  pLim : F
  hours : F
  pulses : UInt32
  ackNeeded : UInt32
  st : IndState

structure PmSt where
  rms : F
  peak : F
  crest : F
  ema : F
  health : Int32

structure WaterSt where
  kPpl : F
  flowLpm : F
  liters : F
  billing : F
  tankPct : F
  burstLpm : F
  lastPulses : UInt32
  valveOpen : Bool
  leak : Bool
  burst : Bool
  tamper : Bool
  frozen : Bool

structure EvSt where
  state : CBuf 16
  eKwh : F
  temp : F
  session : UInt32
  fault : Int32

structure ColdSt where
  t : F
  rh : F
  tMax : F
  minutesHot : F
  door : Bool
  alarm : Bool
  acked : Bool

end

structure AutoSt where
  allowMin : UInt32
  allowMax : UInt32
  lastId : UInt32
  speed : UInt32
  rpm : UInt32
  coolant : UInt32
  busOff : UInt32
  dtc : UInt32
  accepted : Int32
  deriving DecidableEq

structure TrkSt where
  rssi : Int32
  battMv : Int32
  moving : Bool
  geoInside : Int32
  sleepS : UInt32
  deriving DecidableEq

structure AgriSt where
  moist : Int32
  pump : Int32
  thresh : Int32
  windowMin : Int32
  inhibit : Bool
  deriving DecidableEq

structure RobSt where
  uartN : UInt32
  hbAgeMs : UInt32
  estop : Int32
  battMv : Int32
  deriving DecidableEq

/-! ## Drivers -/

/-- `iot_gpio.c`: the lock flag and the level last driven on each pin. -/
structure Gpio where
  init : Bool
  level : ℕ → Bool

def iotPinLed : ℕ := 8
def iotPinPwmOut : ℕ := 18

/-- `iot_gpio_write`; `gpio_set_level` on a pin of the board map always succeeds. -/
def iotGpioWrite (pin : ℕ) (level : Bool) (g : Gpio) : IotErr × Gpio :=
  if !g.init then (.invalidArg, g)
  else (.ok, { g with level := Function.update g.level pin level })

/-- `iot_pwm.c`: the duty in force, and the duty last asked of `iot_pwm_set_duty`. -/
structure Pwm where
  init : Bool
  dutyMax : UInt32
  duty : UInt32
  requested : Option UInt32
  deriving DecidableEq

def iotPwmInit (resolutionBits : UInt32) (p : Pwm) : IotErr × Pwm :=
  if p.init then (.alreadyInit, p)
  else
    let bits := if resolutionBits < 8 then 10 else resolutionBits
    (.ok, { p with init := true, dutyMax := (1 <<< bits) - 1, duty := 0 })

def iotPwmSetDuty (duty : UInt32) (p : Pwm) : IotErr × Pwm :=
  let p := { p with requested := some duty }
  if !p.init then (.notInit, p)
  else (.ok, { p with duty := if p.dutyMax < duty then p.dutyMax else duty })

/-! ## Platform modules -/

structure RuntimeCfg where
  deviceId : CBuf 32
  wifiSsid : CBuf 33
  wifiPass : CBuf 65
  mqttUri : CBuf 128
  mqttUser : CBuf 64
  mqttPass : CBuf 64
  samplePeriodMs : UInt32
  cloud : UInt32
  provisioned : Bool
  deriving DecidableEq

/-- The NVS namespace `iot`; none where a key was never written. -/
structure NvsImage where
  deviceId : Option (CBuf 32)
  wifiSsid : Option (CBuf 33)
  wifiPass : Option (CBuf 65)
  mqttUri : Option (CBuf 128)
  mqttUser : Option (CBuf 64)
  mqttPass : Option (CBuf 64)
  sampleMs : Option UInt32
  provisioned : Option UInt8
  cloud : Option UInt8
  deriving DecidableEq

/-- `iot_config.c`, and the NVS namespace if it exists. -/
structure CfgStore where
  ready : Bool
  cfg : RuntimeCfg
  nvs : Option NvsImage
  deriving DecidableEq

inductive OtaState
  | idle | downloading | verify | reboot | fail | rollback
  deriving DecidableEq, Repr

/-- `iot_ota.c`. -/
structure OtaSt where
  state : OtaState
  url : CBuf 256
  deriving DecidableEq

/-- `iot_diag.c`. -/
structure DiagSt where
  wifiFails : UInt32
  mqttDisc : UInt32
  sensorTo : UInt32
  wdt : UInt32
  last : UInt32
  bootMs : UInt32
  deriving DecidableEq

/-- `iot_identity_t`, as far as it is used. -/
structure Identity where
  deviceId : CBuf 32
  fwVersion : Text
  profile : ℕ
  deriving DecidableEq

/-- The platform modules that commands reach. `otaCalls` records the argument of every call of
`iot_ota_start`; `systemEvt` is none until the event group exists. -/
structure SysSt where
  cfg : CfgStore
  ota : OtaSt
  otaCalls : List Text
  diag : DiagSt
  identity : Identity
  systemEvt : Option UInt32
  logLevel : Int32
  shutdown : Bool
  deriving DecidableEq

structure Device (F : Type) where
  energy : EnergySt F
  ind : IndSt F
  pm : PmSt F
  water : WaterSt F
  ev : EvSt F
  can : AutoSt
  tr : TrkSt
  ag : AgriSt
  cd : ColdSt F
  rb : RobSt
  gpio : Gpio
  pwm : Pwm
  sys : SysSt
  ucInit : Bool

def zeroCfg : RuntimeCfg where
  deviceId := CBuf.store 32 []
  wifiSsid := CBuf.store 33 []
  wifiPass := CBuf.store 65 []
  mqttUri := CBuf.store 128 []
  mqttUser := CBuf.store 64 []
  mqttPass := CBuf.store 64 []
  samplePeriodMs := 0
  cloud := 0
  provisioned := false

/-- Every static variable as C initialises it, before `app_main`. -/
def Device.static (F : Type) [CFloat F] (nvs : Option NvsImage) : Device F where
  energy :=
    { vScale := flit 1, iScale := flit 1, vrms := flit 230, irms := flit 0.4, p := flit 0
      pf := flit 0.95, kwh := flit 0, kwhDay := flit 0, overW := flit 4000, overV := flit 253
      underV := flit 207, overI := flit 16, trips := 0, alarm := false }
  ind :=
    { temp := flit 0, vib := flit 0, current := flit 0, pressure := flit 0, tLim := flit 80
      vibLim := flit 40, iLim := flit 12, pLim := flit 8, hours := flit 0, pulses := 0
      ackNeeded := 0, st := .idle }
  pm := { rms := flit 0, peak := flit 0, crest := flit 0, ema := flit 0, health := 0 }
  water :=
    { kPpl := flit 2, flowLpm := flit 0, liters := flit 0, billing := flit 0, tankPct := flit 0
      burstLpm := flit 40, lastPulses := 0, valveOpen := true, leak := false, burst := false
      tamper := false, frozen := false }
  ev :=
    { state := CBuf.store 16 (txt "Idle"), eKwh := flit 0, temp := flit 0
      session := 0, fault := 0 }
  can :=
    { allowMin := 0x100, allowMax := 0x7FF, lastId := 0, speed := 0, rpm := 0, coolant := 0
      busOff := 0, dtc := 0, accepted := 0 }
  tr := { rssi := -62, battMv := 3900, moving := false, geoInside := 1, sleepS := 30 }
  ag := { moist := 0, pump := 0, thresh := 30, windowMin := 15, inhibit := false }
  cd :=
    { t := flit 0, rh := flit 55, tMax := flit 8, minutesHot := flit 0, door := false
      alarm := false, acked := false }
  rb := { uartN := 0, hbAgeMs := 0, estop := 0, battMv := 22200 }
  gpio := { init := false, level := fun _ => false }
  pwm := { init := false, dutyMax := 1023, duty := 0, requested := none }
  sys :=
    { cfg := { ready := false, cfg := zeroCfg, nvs := nvs }
      ota := { state := .idle, url := CBuf.store 256 [] }
      otaCalls := []
      diag := { wifiFails := 0, mqttDisc := 0, sensorTo := 0, wdt := 0, last := 0, bootMs := 0 }
      identity := { deviceId := CBuf.store 32 [], fwVersion := [], profile := 0 }
      systemEvt := none
      logLevel := 3
      shutdown := false }
  ucInit := false

theorem iotPwmSetDuty_zero {p : Pwm} (h : p.init = false → p.duty = 0) :
    (iotPwmSetDuty 0 p).2.duty = 0 ∧ (iotPwmSetDuty 0 p).2.requested = some 0 := by
  unfold iotPwmSetDuty
  cases hp : p.init with
  | false => simp [h hp]
  | true => simp

end IotPlatform
