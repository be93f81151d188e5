import IotPlatform.Firmware

/-!
# Sensor hooks and `sensor_task`

The sensor hook of each profile reads its drivers, hands a sample to its use cases and fills in
the telemetry message. `sensor_task` calls the hook whenever its semaphore is given, and every
200 ms without that.
-/
namespace IotPlatform
open CText CFloat

variable {F : Type} [CFloat F]

/-- `iot_telemetry_msg_t`. -/
structure IotTelemetryMsg where
  seq : UInt32
  unixMs : ℤ
  flags : UInt16
  payloadLen : UInt16
  payload : CBuf 768
  deriving DecidableEq

/-- The message of `sensor_task` before its hook: `memset`, then number and time. -/
def IotTelemetryMsg.stamped (seq : UInt32) (unixMs : ℤ) : IotTelemetryMsg where
  seq := seq
  unixMs := unixMs
  flags := 0
  payloadLen := 0
  payload := CBuf.store 768 []

/-- What the drivers leave in a hook's variables. The hooks set these to zero beforehand and look
at no return code but the one of `iot_i2c_read` on the industrial profile. -/
structure SensorReads where
  mv : Int32
  i2cOk : Bool
  raw0 : UInt8
  raw1 : UInt8
  pulses : UInt32
  rx : Fin 8 → UInt8
  uartN : ℕ

def iotServicesFillTelemetry (json : Text) (msg : IotTelemetryMsg) : IotErr × IotTelemetryMsg :=
  (.ok, { msg with
    payload := CBuf.store 768 json
    payloadLen := UInt16.ofNat (min json.length 767) })

abbrev SensorHook (F : Type) := IotTelemetryMsg → Device F → IotErr × IotTelemetryMsg × Device F

/-- A hook that has its use cases take a sample and sends what they report. -/
def sensorHook (h : Handler F (Device F)) : SensorHook F := fun msg d =>
  let r := h .zero .zero d
  let (e, msg) := iotServicesFillTelemetry r.out.json msg
  (e, msg, r.st)

section
variable (r : SensorReads)

/-- The one hook that looks at what its use case returns. -/
def iotProfileEnergySensor : SensorHook F := fun msg d =>
  let h : Handler F (Device F) := onEnergy fun _ => iotUcEnergyOnAdc r.mv
  let e := (h .zero .zero d).err
  if e ≠ .ok then (e, msg, (h .zero .zero d).st) else sensorHook h msg d

/-- The temperature of the industrial hook, from the TMP117 register. -/
def industrialTemp : F :=
  if r.i2cOk then
    flit ((r.raw0.toUInt16 <<< 8) ||| r.raw1.toUInt16).toInt16.toInt * flit 0.0078125
  else flit 25

def industrialVib : F := flit (r.mv % 500).toInt / flit 10

def industrialCurrent : F := flit 1 + flit (r.mv % 200).toInt / flit 100

def industrialPressure : F := flit 1 + flit (r.mv % 400).toInt / flit 200

def iotProfileIndustrialSensor : SensorHook F :=
  sensorHook (onInd fun _ => iotUcIndOnSample (industrialTemp r) (industrialVib r)
    (industrialCurrent r) (industrialPressure r) r.pulses)

def iotProfilePredictiveSensor : SensorHook F :=
  sensorHook (onPm fun _ => iotUcPmOnSample ((flit r.mv.toInt - flit 1650) / flit 100))

def iotProfileWaterSensor : SensorHook F :=
  sensorHook (onWater fun _ => iotUcWaterOnSample r.pulses r.mv)

def iotProfileEvSensor : SensorHook F := sensorHook (onEv fun _ => iotUcEvOnSample r.mv)

def decodeU16Be (hi lo : UInt8) : UInt32 := (hi.toUInt32 <<< 8) ||| lo.toUInt32

def iotProfileAutomotiveSensor : SensorHook F :=
  sensorHook (onCan fun _ => iotUcAutoOnFrame (r.rx 1).toUInt32
    (decodeU16Be (r.rx 2) (r.rx 3) % 250) (800 + decodeU16Be (r.rx 4) (r.rx 5) % 4000)
    (r.rx 6).toUInt32)

def iotProfileTrackerSensor : SensorHook F :=
  sensorHook (onTr fun _ => iotUcTrkOnSample (-62) 3900 false)

def iotProfileAgriSensor : SensorHook F :=
  sensorHook (onAg fun _ => iotUcAgriOnSample ((3300 - r.mv) * 100 / 3300))

def coldchainTemp : F := flit 4 + flit r.raw0.toNat / flit 50

def iotProfileColdchainSensor : SensorHook F :=
  sensorHook (onCd fun _ => iotUcColdOnSample (coldchainTemp r) (flit 55) false)

def iotProfileRoboticsSensor : SensorHook F :=
  sensorHook (onRb fun _ => iotUcRobotOnUart r.uartN)

/-- `iot_profile_sensor_hook`: the sensor hook of the compiled-in profile. -/
def Profile.sensorHook : Profile → SensorHook F
  | .energy => iotProfileEnergySensor r
  | .industrial => iotProfileIndustrialSensor r
  | .predictive => iotProfilePredictiveSensor r
  | .water => iotProfileWaterSensor r
  | .evCharger => iotProfileEvSensor r
  | .automotive => iotProfileAutomotiveSensor r
  | .assetTracker => iotProfileTrackerSensor
  | .agriculture => iotProfileAgriSensor r
  | .coldchain => iotProfileColdchainSensor r
  | .robotics => iotProfileRoboticsSensor r

/-- The sample that the sensor hook of a profile takes. -/
def Profile.sample : Profile → Op F
  | .energy => .energyAdc r.mv
  | .industrial => .indSample (industrialTemp r) (industrialVib r) (industrialCurrent r)
      (industrialPressure r) r.pulses
  | .predictive => .pmSample ((flit r.mv.toInt - flit 1650) / flit 100)
  | .water => .waterSample r.pulses r.mv
  | .evCharger => .evSample r.mv
  | .automotive => .autoFrame (r.rx 1).toUInt32 (decodeU16Be (r.rx 2) (r.rx 3) % 250)
      (800 + decodeU16Be (r.rx 4) (r.rx 5) % 4000) (r.rx 6).toUInt32
  | .assetTracker => .trkSample (-62) 3900 false
  | .agriculture => .agriSample ((3300 - r.mv) * 100 / 3300)
  | .coldchain => .coldSample (coldchainTemp r) (flit 55) false
  | .robotics => .robotUart r.uartN

end

/-- A hook does to the device what its sample does, leaves number and time of the message alone,
and succeeds. -/
theorem sensorHook_spec (profile : Profile) (r : SensorReads) (msg : IotTelemetryMsg)
    (d : Device F) : ∃ payload len, profile.sensorHook r msg d =
      (.ok, { msg with payload := payload, payloadLen := len },
        (profile.sample r).apply profile d) := by
  cases profile
  case energy =>
    have hok : ¬ (onEnergy (fun _ => iotUcEnergyOnAdc r.mv) .zero .zero d : Ret F _).err ≠ .ok :=
      not_not_intro rfl
    simp only [Profile.sensorHook, iotProfileEnergySensor, if_neg hok]
    exact ⟨_, _, rfl⟩
  all_goals exact ⟨_, _, rfl⟩

/-- The device with the task's message counter, and the time in the message it built last. -/
structure SensorTask (F : Type) where
  dev : Device F
  seq : UInt32
  unixMs : ℤ

/-- One pass through the loop once the hook is set, with `iot_millis` reading `ms`, whether the
semaphore was given or the wait timed out: the message it sends, and what it leaves. After a
shutdown the task is gone. -/
def sensorTask (profile : Profile) (ms : UInt32) (r : SensorReads) (t : SensorTask F) :
    Option IotTelemetryMsg × SensorTask F :=
  if t.dev.sys.shutdown then (none, t)
  else
    let (e, msg, d) := profile.sensorHook r (.stamped (t.seq + 1) ms.toNat) t.dev
    (if e = .ok then some msg else none, { dev := d, seq := msg.seq, unixMs := msg.unixMs })

theorem sensorTask_shutdown (profile : Profile) (ms : UInt32) (r : SensorReads)
    {t : SensorTask F} (h : t.dev.sys.shutdown = true) : (sensorTask profile ms r t).2 = t := by
  rw [sensorTask, if_pos h]

theorem sensorTask_running (profile : Profile) (ms : UInt32) (r : SensorReads)
    {t : SensorTask F} (h : t.dev.sys.shutdown = false) :
    (sensorTask profile ms r t).2 =
      { dev := (profile.sample r).apply profile t.dev, seq := t.seq + 1, unixMs := ms.toNat } := by
  obtain ⟨payload, len, hhook⟩ := sensorHook_spec profile r (.stamped (t.seq + 1) ms.toNat) t.dev
  simp only [sensorTask, h, Bool.false_eq_true, if_false, hhook]
  rfl

end IotPlatform
