import IotPlatform.CFloat

/-!
# Shared types

Error codes, use-case identifiers, use-case input and output records, command messages, and the
answers of ESP-IDF that the firmware depends on.
-/
namespace IotPlatform
open CText

/-- `iot_err_t`, in the order of the codes `0, -1, ..., -24`. -/
inductive IotErr
  | ok | fail | invalidArg | noMem | timeout | busy | notFound | notSupported | invalidState
  | io | crc | auth | denied | overflow | again | hw | notInit | alreadyInit | queueFull
  | queueEmpty | protocol | tls | ota | watchdog | isr
  deriving DecidableEq, Repr

def IotErr.code (e : IotErr) : ℤ := -(e.ctorIdx : ℤ)

/-- `iot_uc_id_t`, in the order of the C enumeration. -/
inductive IotUcId
  | invalid
  | pltFactoryReset | pltSetSampleMs | pltGetDiag | pltProvision | pltOta | pltIdentity
  | pltSetCloud | pltSetLogLevel | pltExportTopics | pltWifiBackoffPolicy | pltCmdSchema
  | pltMarkOtaValid | pltShutdown
  | energyMeasure | energyAccum | energyOverPower | energyOverVoltage | energyUnderVoltage
  | energyOverCurrent | energySetLimits | energyCalibrate | energyResetDaily | energyPf
  | energyGetState | energyLedAlarm
  | indSample | indStateMachine | indSetLimits | indAckAlarm | indHoursTick | indPulse
  | pmFeatures | pmHealth | pmTrend | pmResetPeak
  | waterMeter | waterLeak | waterBurst | waterValveOpen | waterValveClose | waterTamper
  | waterBillingFreeze | waterSetK | waterGetState
  | evSample | evStartReq | evStopReq | evRejectContactor | evSession | evFaultLatch | evGetState
  | autoFilter | autoDecode | autoRejectTx | autoBusOff | autoDtc | autoGetState
  | trkBeacon | trkMotion | trkBattLow | trkGeofence | trkSleep
  | agriSoil | agriPumpAuto | agriPumpOn | agriPumpOff | agriSchedule | agriInhibit
  | coldSample | coldExcursion | coldDoor | coldAck | coldDatalog
  | robotUart | robotHeartbeat | robotRejectMotion | robotEstopReport | robotBattery
  | count
  deriving DecidableEq, Repr

def IotUcId.code (id : IotUcId) : ℤ := id.ctorIdx

/-- The arrays of the two records have eight elements. -/
instance slotsNeZero : NeZero 8 := ⟨by decide⟩

/-- `iot_uc_in_t`; `json` is none for a NULL pointer. -/
structure IotUcIn (F : Type) where
  json : Option Text
  f : Fin 8 → F
  i : Fin 8 → Int32
  u : Fin 8 → UInt32
  b : Fin 8 → Bool
  s0 : CBuf 64
  s1 : CBuf 160

structure IotUcOut (F : Type) where
  err : IotErr
  id : IotUcId
  alarm : Bool
  f : Fin 8 → F
  i : Fin 8 → Int32
  u : Fin 8 → UInt32
  json : Text

section
variable {F : Type} [CFloat F]

/-- The record after `memset(&in, 0, sizeof(in))`. -/
def IotUcIn.zero : IotUcIn F where
  json := none
  f _ := CFloat.flit 0
  i _ := 0
  u _ := 0
  b _ := false
  s0 := CBuf.store 64 []
  s1 := CBuf.store 160 []

def IotUcOut.zero : IotUcOut F where
  err := .ok
  id := .invalid
  alarm := false
  f _ := CFloat.flit 0
  i _ := 0
  u _ := 0
  json := []

end

/-- What a call leaves: the returned code, the output record and the state it works on. -/
structure Ret (F σ : Type) where
  err : IotErr
  out : IotUcOut F
  st : σ

/-- A use-case handler over the static state `σ` of its file. -/
abbrev Handler (F σ : Type) := IotUcIn F → IotUcOut F → σ → Ret F σ

/-- Run a handler on one part of a larger state. -/
def Handler.at {F σ τ : Type} (get : τ → σ) (put : σ → τ → τ) (h : Handler F σ) : Handler F τ :=
  fun inp out s =>
    let r := h inp out (get s)
    ⟨r.err, r.out, put r.st s⟩

/-- `iot_command_msg_t` with a payload array of `cap` bytes; the firmware has `cap = 256`. -/
structure IotCommandMsg (cap : ℕ) where
  opcode : UInt16
  payloadLen : ℕ
  payload : List UInt8
  sized : payload.length = cap

def iotJsonSmallLen : ℕ := 256

/-- A zeroed array of `cap` bytes after `memcpy` of at most `cap` bytes of `t` to its start. -/
def padTo (cap : ℕ) (t : List UInt8) : List UInt8 := (t ++ List.replicate cap 0).take cap

@[simp] theorem length_padTo (cap : ℕ) (t : List UInt8) : (padTo cap t).length = cap := by
  simp [padTo]

theorem headD_padTo {cap : ℕ} (hcap : 0 < cap) (t : List UInt8) :
    (padTo cap t).headD 0 = t.headD 0 := by
  obtain ⟨n, rfl⟩ : ∃ n, cap = n + 1 := ⟨cap - 1, by omega⟩
  cases t <;> simp [padTo, List.replicate_succ]

theorem cstr_padTo {cap : ℕ} {t : List UInt8} (h : t.length < cap) (past : List UInt8) :
    cstr (padTo cap t ++ past) = cstr t := by
  obtain ⟨n, hn⟩ : ∃ n, cap - t.length = n + 1 := ⟨cap - t.length - 1, by omega⟩
  have hpad : padTo cap t = t ++ 0 :: List.replicate n 0 := by
    rw [padTo, List.take_append, List.take_of_length_le h.le, List.take_replicate,
      min_eq_left (Nat.sub_le _ _), hn, List.replicate_succ]
  have hnul : (0 : UInt8) ∈ t ++ [0] := by simp
  have hsplit : t ++ 0 :: List.replicate n 0 ++ past =
      t ++ [0] ++ (List.replicate n 0 ++ past) := by
    simp
  rw [hpad, hsplit, cstr_append hnul]
  by_cases h0 : (0 : UInt8) ∈ t
  · exact cstr_append h0 _
  · rw [cstr_append_nul h0, cstr_of_notMem h0]

theorem getElem?_padTo {cap : ℕ} {t : List UInt8} (h : t.length ≤ cap) {b : UInt8} (hb : b ≠ 0)
    {i : ℕ} : (padTo cap t)[i]? = some b ↔ t[i]? = some b := by
  rw [padTo, List.getElem?_take, List.getElem?_append, List.getElem?_replicate]
  by_cases hi : i < t.length
  · rw [if_pos (by omega), if_pos hi]
  · have hz : (0 : UInt8) ≠ b := hb.symm
    rw [if_neg hi, List.getElem?_eq_none (Nat.not_lt.mp hi)]
    split_ifs <;> simp [hz]

/-- The NVS keys of `iot_config.h`, one for each stored field. -/
inductive NvsKey
  | deviceId | wifiSsid | wifiPass | mqttUri | mqttUser | mqttPass | cloud | sampleMs | provisioned
  deriving DecidableEq, Repr

inductive Build
  | host | target
  deriving DecidableEq, Repr

/-- What stands outside the repository: which build runs, and how ESP-IDF answers during a call.
ESP codes are the integers of `esp_err.h`, zero for success. -/
structure Platform where
  build : Build
  /-- `esp_read_mac`. -/
  mac : Option (Fin 6 → UInt8)
  nvsOpenRead : ℤ
  nvsOpenWrite : ℤ
  /-- Whether `nvs_set_*` of a key succeeds. -/
  nvsSet : NvsKey → Bool
  nvsCommit : Bool
  /-- Whether `xTaskCreate` succeeds. -/
  taskCreate : Bool
  markValid : ℤ
  millis : UInt32
  freeHeap : UInt32
  minHeap : UInt32

def iotErrFromEsp (b : Build) (code : ℤ) : IotErr :=
  if code = 0 then .ok
  else match b with
    | .host => .fail
    | .target =>
      if code = 0x101 then .noMem
      else if code = 0x102 then .invalidArg
      else if code = 0x103 then .invalidState
      else if code = 0x105 then .notFound
      else if code = 0x106 then .notSupported
      else if code = 0x107 then .timeout
      else if code = 0x109 then .crc
      else .fail

theorem iotErrFromEsp_eq_ok {b : Build} {code : ℤ} : iotErrFromEsp b code = .ok ↔ code = 0 := by
  constructor
  · intro h
    by_contra hc
    cases b
    · simp [iotErrFromEsp, hc] at h
    · simp only [iotErrFromEsp, if_neg hc] at h
      split_ifs at h
  · rintro rfl
    simp [iotErrFromEsp]

/-- The host build, with the constants its branches use. -/
def hostPlatform : Platform where
  build := .host
  mac := none
  nvsOpenRead := 0
  nvsOpenWrite := 0
  nvsSet _ := true
  nvsCommit := true
  taskCreate := true
  markValid := 0
  millis := 0
  freeHeap := 256000
  minHeap := 200000

end IotPlatform
