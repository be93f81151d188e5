import IotPlatform.UcPlatform

/-!
# `iot_wifi.c`, `iot_mqtt.c` and `iot_ble.c`: the state of the three links

Each module keeps a state of its own and mirrors it in the bits of the event group. These are the
functions of the target build, on an event group that exists.
-/
namespace IotPlatform
open CText

def iotEventSet (evt bits : UInt32) : UInt32 := evt ||| bits

def iotEventClear (evt bits : UInt32) : UInt32 := evt &&& ~~~bits

/-- One of the bits of `mask` is set. -/
def EvtHas (evt mask : UInt32) : Prop := evt &&& mask ≠ 0

instance (evt mask : UInt32) : Decidable (EvtHas evt mask) := inferInstanceAs (Decidable (_ ≠ _))

def iotEvtWifiIp : UInt32 := 0x1

def iotEvtMqttUp : UInt32 := 0x2

def iotEvtBleConn : UInt32 := 0x4

theorem and_or_distrib (a b c : UInt32) : (a ||| b) &&& c = a &&& c ||| b &&& c := by
  rw [← UInt32.toBitVec_inj]
  ext i
  simp [Bool.and_or_distrib_right]

section
variable {evt bits mask : UInt32}

theorem evtHas_set (h : bits &&& mask ≠ 0) : EvtHas (iotEventSet evt bits) mask := by
  rw [EvtHas, iotEventSet, and_or_distrib]
  exact fun hz => h (UInt32.or_eq_zero_iff.mp hz).2

theorem evtHas_set_other (h : bits &&& mask = 0) :
    EvtHas (iotEventSet evt bits) mask ↔ EvtHas evt mask := by
  rw [EvtHas, iotEventSet, and_or_distrib, h, UInt32.or_zero]
  rfl

theorem not_evtHas_clear (h : ~~~bits &&& mask = 0) : ¬ EvtHas (iotEventClear evt bits) mask := by
  rw [EvtHas, iotEventClear, UInt32.and_assoc, h, UInt32.and_zero]
  exact fun hne => hne rfl

theorem evtHas_clear_other (h : ~~~bits &&& mask = mask) :
    EvtHas (iotEventClear evt bits) mask ↔ EvtHas evt mask := by
  rw [EvtHas, iotEventClear, UInt32.and_assoc, h]
  rfl

end

inductive WifiState
  | disconnected | connecting | connected | ipReady | error | reconnecting
  deriving DecidableEq, Repr

/-- `s_state`, `s_status` without the signal strength, `s_backoff_ms`, `s_ssid` and `s_pass`. The
pauses are the arguments of `vTaskDelay` in milliseconds, oldest first. -/
structure WifiSt where
  state : WifiState
  statusState : WifiState
  ip : CBuf 16
  retryCount : UInt32
  backoffMs : UInt32
  ssid : CBuf 33
  pass : CBuf 65
  pauses : List UInt32

/-- The station and IP events that the handler is registered for. -/
inductive WifiEvent
  | staStart
  | staConnected
  | staDisconnected
  | gotIp (ip : Fin 4 → UInt8)
  | other

/-- `set_state` of `iot_wifi.c`. -/
def wifiSetState (st : WifiState) (r : WifiSt × UInt32) : WifiSt × UInt32 :=
  ({ r.1 with state := st, statusState := st },
    if st = .ipReady then iotEventSet r.2 iotEvtWifiIp
    else iotEventClear r.2 (iotEvtWifiIp ||| iotEvtMqttUp))

/-- `IPSTR` with its four numbers. -/
def ipText (ip : Fin 4 → UInt8) : Text :=
  decNat (ip 0).toNat ++ txt "." ++ decNat (ip 1).toNat ++ txt "." ++ decNat (ip 2).toNat ++
    txt "." ++ decNat (ip 3).toNat

def wifiEvent (e : WifiEvent) (r : WifiSt × UInt32) : WifiSt × UInt32 :=
  match e with
  | .staStart => wifiSetState .connecting r
  | .staConnected =>
    let r := wifiSetState .connected r
    ({ r.1 with backoffMs := 1000 }, r.2)
  | .staDisconnected =>
    let r := wifiSetState .reconnecting ({ r.1 with retryCount := r.1.retryCount + 1 }, r.2)
    let delay := r.1.backoffMs
    let w := { r.1 with
      backoffMs := if r.1.backoffMs < 30000 then r.1.backoffMs * 2 else r.1.backoffMs
      pauses := r.1.pauses ++ [if 50 < delay then 50 else delay] }
    wifiSetState .connecting (w, r.2)
  | .gotIp ip =>
    wifiSetState .ipReady ({ r.1 with ip := CBuf.store 16 (ipText ip) }, r.2)
  | .other => r

/-- `iot_wifi_start`, with what `esp_wifi_set_config` and `esp_wifi_start` return. -/
def iotWifiStart (ssid pass : Option Text) (setConfig start : ℤ) (r : WifiSt × UInt32) :
    IotErr × WifiSt × UInt32 :=
  match ssid with
  | none => (.invalidArg, r)
  | some ssid =>
    if ssid = [] then (.invalidArg, r)
    else
      let w := { r.1 with
        ssid := CBuf.store 33 ssid
        pass := CBuf.store 65 (pass.getD []) }
      if setConfig ≠ 0 then (iotErrFromEsp .target setConfig, wifiSetState .error (w, r.2))
      else (iotErrFromEsp .target start, wifiSetState .connecting (w, r.2))

def iotWifiStop (r : WifiSt × UInt32) : WifiSt × UInt32 := wifiSetState .disconnected r

/-- The module after `iot_wifi_init`. -/
def WifiSt.init : WifiSt where
  state := .disconnected
  statusState := .disconnected
  ip := CBuf.store 16 []
  retryCount := 0
  backoffMs := 1000
  ssid := CBuf.store 33 []
  pass := CBuf.store 65 []
  pauses := []

inductive MqttState
  | down | connecting | up | error
  deriving DecidableEq, Repr

/-- `s_state`, `s_dev`, `s_run`, whether `s_client` is set, and the topics subscribed to. -/
structure MqttSt where
  state : MqttState
  dev : CBuf 32
  run : Bool
  client : Bool
  topics : List Text

/-- The client events; the data of a message goes to `command_q` and changes nothing here. -/
inductive MqttEvent
  | connected
  | disconnected
  | data
  | error
  | other

/-- A topic of `IOT_TOPIC_LEN` bytes. -/
def mqttTopic (m : MqttSt) (suffix : Text) : Text := iotMqttBuildTopic 96 m.dev.text suffix

/-- `mqtt_event`, as far as it changes the link. -/
def mqttLinkEvent (e : MqttEvent) (r : MqttSt × UInt32) : MqttSt × UInt32 :=
  match e with
  | .connected =>
    ({ r.1 with
        state := .up
        topics := r.1.topics ++ [txt "command", txt "config", txt "ota"].map (mqttTopic r.1) },
      iotEventSet r.2 iotEvtMqttUp)
  | .disconnected => ({ r.1 with state := .connecting }, iotEventClear r.2 iotEvtMqttUp)
  | .data => r
  | .error => ({ r.1 with state := .error }, r.2)
  | .other => r

/-- What `iot_mqtt_start` gets from outside: whether `esp_mqtt_client_init` returns a client, the
code of `esp_mqtt_client_start`, and whether the pump task is created. -/
structure MqttAnswers where
  client : Bool
  start : ℤ
  pump : Bool

def iotMqttStart (deviceId : CBuf 32) (a : MqttAnswers) (m : MqttSt) : IotErr × MqttSt :=
  let m := { m with dev := deviceId, client := a.client }
  if !a.client then (.noMem, m)
  else
    let m := { m with state := .connecting }
    if a.start ≠ 0 then (iotErrFromEsp .target a.start, m)
    else (if a.pump then .ok else .noMem, { m with run := true })

def iotMqttStop (m : MqttSt) : MqttSt := { m with run := false, client := false, state := .down }

/-- The module after `iot_mqtt_init`. -/
def MqttSt.init : MqttSt where
  state := .down
  dev := CBuf.store 32 []
  run := false
  client := false
  topics := []

inductive BleState
  | idle | advertising | connected | paired
  deriving DecidableEq, Repr

/-- `s_state`, `s_connected` and `s_conn`. -/
structure BleSt where
  state : BleState
  connected : Bool
  conn : UInt16

/-- `BLE_HS_EALREADY`. -/
def bleHsEalready : ℤ := 2

/-- `iot_ble_start_advertising`, with what `ble_gap_adv_start` returns. -/
def iotBleStartAdvertising (rc : ℤ) (b : BleSt) : IotErr × BleSt :=
  if rc ≠ 0 ∧ rc ≠ bleHsEalready then (.fail, b) else (.ok, { b with state := .advertising })

def iotBleStopAdvertising (b : BleSt) : BleSt := { b with state := .idle }

/-- The events of `gap_event`, with what `ble_gap_adv_start` returns where it is called. -/
inductive GapEvent
  | connect (status : ℤ) (handle : UInt16) (rc : ℤ)
  | disconnect (rc : ℤ)
  | other

def gapEvent (e : GapEvent) (r : BleSt × UInt32) : BleSt × UInt32 :=
  match e with
  | .connect status handle rc =>
    if status = 0 then
      ({ state := .connected, connected := true, conn := handle },
        iotEventSet r.2 iotEvtBleConn)
    else ((iotBleStartAdvertising rc { r.1 with state := .advertising }).2, r.2)
  | .disconnect rc =>
    ((iotBleStartAdvertising rc { r.1 with connected := false, state := .advertising }).2, r.2)
  | .other => r

/-- The module after `iot_ble_init`. -/
def BleSt.init : BleSt where
  state := .advertising
  connected := false
  conn := 0

end IotPlatform
