import IotPlatform.Config

/-!
# `iot_ota.c`, `iot_security.c` and `iot_diag.c`, as commands reach them
-/
namespace IotPlatform
open CText

def httpsPrefix : Text := txt "https://"

/-- `strncmp(url, "https://", 8) == 0`. -/
def IsHttps (url : Text) : Prop := httpsPrefix <+: url

instance (url : Text) : Decidable (IsHttps url) := inferInstanceAs (Decidable (_ <+: _))

/-- The body of `iot_ota_start` on a URL. On the target the state changes only once the created
task runs. -/
def otaStart (P : Platform) (url : Text) (o : OtaSt) : IotErr × OtaSt :=
  if ¬ IsHttps url then (.denied, o)
  else if o.state = .downloading then (.busy, o)
  else
    let o := { o with url := CBuf.store 256 url }
    match P.build with
    | .target => (if P.taskCreate then .ok else .noMem, o)
    | .host => (.ok, { o with state := .verify })

/-- `iot_ota_start`, with the call recorded. -/
def iotOtaStart (P : Platform) (url : Text) (s : SysSt) : IotErr × SysSt :=
  let r := otaStart P url s.ota
  (r.1, { s with ota := r.2, otaCalls := s.otaCalls ++ [url] })

def iotOtaMarkValid (P : Platform) : IotErr :=
  match P.build with
  | .target => iotErrFromEsp .target P.markValid
  | .host => .ok

theorem isHttps_take {u : Text} {n : ℕ} (hn : 8 ≤ n) : IsHttps (u.take n) ↔ IsHttps u := by
  refine ⟨fun h => h.trans (List.take_prefix n u), fun h => ?_⟩
  exact List.prefix_take_iff.mpr ⟨h, hn⟩

theorem otaStart_denied (P : Platform) {url : Text} (h : ¬ IsHttps url) (o : OtaSt) :
    otaStart P url o = (.denied, o) := by
  simp [otaStart, h]

theorem otaStart_https (P : Platform) {url : Text} (h : IsHttps url) (o : OtaSt) :
    (otaStart P url o).1 ≠ .denied := by
  unfold otaStart
  rw [if_neg (not_not_intro h)]
  split
  · simp
  · split
    · split <;> simp
    · simp

def hexDigit (n : ℕ) : UInt8 := if n < 10 then UInt8.ofNat (48 + n) else UInt8.ofNat (87 + n)

def hexByte (b : UInt8) : Text := [hexDigit (b.toNat / 16), hexDigit (b.toNat % 16)]

/-- `iot_security_default_device_id` into a `device_id` array. -/
def iotSecurityDefaultDeviceId (P : Platform) (out : CBuf 32) : CBuf 32 :=
  match P.build with
  | .host => CBuf.store 32 (txt "c3-hostsim000000")
  | .target =>
    match P.mac with
    | none => out
    | some mac => CBuf.store 32
        (txt "c3-" ++ (List.finRange 6).flatMap fun i => hexByte (mac i))

def iotSecurityValidateCommand {cap : ℕ} (cmd : IotCommandMsg cap) : IotErr :=
  let b := cmd.payload.headD 0
  if cap < cmd.payloadLen then .overflow
  else if cmd.payloadLen = 0 then .denied
  else if b ≠ 123 ∧ b ≠ 91 ∧ cmd.opcode ≠ 0xFF01 ∧ cmd.opcode ≠ 0xFF03 then .protocol
  else .ok

/-- Validation sees the opcode, the first byte, and whether the length is zero or too large. -/
theorem iotSecurityValidateCommand_congr {cap cap' : ℕ} {cmd : IotCommandMsg cap}
    {cmd' : IotCommandMsg cap'} (hop : cmd.opcode = cmd'.opcode)
    (hhead : cmd.payload.headD 0 = cmd'.payload.headD 0)
    (hlong : cap < cmd.payloadLen ↔ cap' < cmd'.payloadLen)
    (hzero : cmd.payloadLen = 0 ↔ cmd'.payloadLen = 0) :
    iotSecurityValidateCommand cmd = iotSecurityValidateCommand cmd' := by
  simp only [iotSecurityValidateCommand, hop, hhead, hlong, hzero]

def diagWifiConnectFail : UInt32 := 0x1001
def diagMqttDisconnect : UInt32 := 0x1002
def diagSensorTimeout : UInt32 := 0x1003
def diagWatchdogReset : UInt32 := 0x1007
def diagCmdReject : UInt32 := 0x100B

def iotDiagEvent (id : UInt32) (s : DiagSt) : DiagSt :=
  let s := { s with last := id }
  if id = diagWifiConnectFail then { s with wifiFails := s.wifiFails + 1 }
  else if id = diagMqttDisconnect then { s with mqttDisc := s.mqttDisc + 1 }
  else if id = diagSensorTimeout then { s with sensorTo := s.sensorTo + 1 }
  else if id = diagWatchdogReset then { s with wdt := s.wdt + 1 }
  else s

/-- `iot_diag_snapshot_json`, with the snapshot it prints. -/
def iotDiagSnapshotJson (P : Platform) (s : DiagSt) (len : ℕ) : IotErr × Text :=
  let uptime := (P.millis - s.bootMs) / 1000
  let freeHeap := match P.build with
    | .target => P.freeHeap
    | .host => 256000
  let minHeap := match P.build with
    | .target => P.minHeap
    | .host => 200000
  let dec := fun n : UInt32 => decNat n.toNat
  let js := txt "\x7b\"uptime\":" ++ dec uptime ++ txt ",\"heap\":" ++ dec freeHeap ++
    txt ",\"min_heap\":" ++ dec minHeap ++ txt ",\"wifi_fail\":" ++ dec s.wifiFails ++
    txt ",\"mqtt_disc\":" ++ dec s.mqttDisc ++ txt ",\"sensor_to\":" ++ dec s.sensorTo ++
    txt ",\"wdt\":" ++ dec s.wdt ++ txt ",\"last\":" ++ dec s.last ++ txt "\x7d"
  (if len ≤ js.length then .overflow else .ok, snprintf len js)

end IotPlatform
