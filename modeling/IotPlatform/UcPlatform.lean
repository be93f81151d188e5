import IotPlatform.Ota
import IotPlatform.UcJson

/-!
# `iot_provision.c` and `iot_uc_platform.c`
-/
namespace IotPlatform
open CText CFloat KeySearch

/-- The bytes `extract_str` skips between the colon and the opening quote. -/
def provBlank (b : UInt8) : Bool := b == 32

/-- `extract_str`: the text written to `out`, or none when `out` is left alone. -/
def extractStr (json key : Text) (outLen : ℕ) : Option Text :=
  fieldText 32 provBlank outLen json key

/-- `(void)extract_str(json, key, buf, sizeof(buf))`. -/
def extractInto {cap : ℕ} (json key : Text) (buf : CBuf cap) : CBuf cap :=
  match extractStr json key cap with
  | none => buf
  | some t => CBuf.store cap t

def iotEvtProvisioned : UInt32 := 0x20
def iotEvtShutdown : UInt32 := 0x80000000

/-- The configuration that `iot_provision_apply_json` saves, from the one it loaded. -/
def provisionedCfg (P : Platform) (json : Text) (cfg : RuntimeCfg) : RuntimeCfg :=
  let cfg := { cfg with
    wifiSsid := extractInto json (txt "ssid") cfg.wifiSsid
    wifiPass := extractInto json (txt "pass") cfg.wifiPass
    mqttUri := extractInto json (txt "mqtt") cfg.mqttUri
    mqttUser := extractInto json (txt "user") cfg.mqttUser
    mqttPass := extractInto json (txt "mpw") cfg.mqttPass }
  let cfg := { cfg with
    deviceId :=
      if cfg.deviceId.text = [] ∨ (strstr cfg.deviceId.text (txt "unprovisioned")).isSome then
        iotSecurityDefaultDeviceId P cfg.deviceId
      else cfg.deviceId }
  { cfg with provisioned := cfg.wifiSsid.text ≠ [] }

def iotProvisionApplyJson (P : Platform) (json : Text) (len : ℕ) (s : SysSt) : IotErr × SysSt :=
  if len = 0 ∨ 512 < len then (.invalidArg, s)
  else
    let (_, cfg, store) := iotConfigLoad P zeroCfg s.cfg
    let cfg := provisionedCfg P json cfg
    let (e, store) := iotConfigSave P cfg store
    let evt :=
      if e = .ok ∧ cfg.provisioned then s.systemEvt.map (· ||| iotEvtProvisioned)
      else s.systemEvt
    (e, { s with cfg := store, systemEvt := evt })

variable {F : Type} [CFloat F]

def iotUcPltFactoryReset (P : Platform) : Handler F SysSt := fun _ out s =>
  let (e, store) := iotConfigSave P iotConfigSetDefaults s.cfg
  let out := iotUcOutOk out .pltFactoryReset
    (txt "\x7b\"uc\":\"plt.factory_reset\",\"provisioned\":false\x7d")
  ⟨e, { out with err := e }, { s with cfg := store }⟩

def sampleMsAsked (inp : IotUcIn F) : UInt32 :=
  if inp.has (txt "sample_ms") then (inp.i32 (txt "sample_ms") 0).toUInt32
  else (inp.i 0).toUInt32

def iotUcPltSetSampleMs (P : Platform) : Handler F SysSt := fun inp out s =>
  let ms := sampleMsAsked inp
  if ms < 50 ∨ 60000 < ms then
    ⟨.invalidArg, iotUcOutErr out .pltSetSampleMs .invalidArg, s⟩
  else
    let (_, cfg, store) := iotConfigLoad P zeroCfg s.cfg
    let (e, store) := iotConfigSave P { cfg with samplePeriodMs := ms } store
    let js := snprintf 96
      (txt "\x7b\"uc\":\"plt.set_sample_ms\",\"ms\":" ++ decU32 ms ++ txt "\x7d")
    let out := iotUcOutOk out .pltSetSampleMs js
    ⟨e, { out with u := Function.update out.u 0 ms, err := e }, { s with cfg := store }⟩

def iotUcPltGetDiag (P : Platform) : Handler F SysSt := fun _ out s =>
  let (e, js) := iotDiagSnapshotJson P s.diag 768
  ⟨e, { out with json := js, id := .pltGetDiag, err := e }, s⟩

/-- The record in which `iot_uc_plt_provision` reports the result of provisioning. -/
def provisionReply (out : IotUcOut F) (r : IotErr × SysSt) : Ret F SysSt :=
  let out := iotUcOutOk out .pltProvision
    (if r.1 = .ok then txt "\x7b\"uc\":\"plt.provision\",\"ok\":1\x7d"
      else txt "\x7b\"uc\":\"plt.provision\",\"ok\":0\x7d")
  ⟨r.1, { out with err := r.1 }, r.2⟩

def iotUcPltProvision (P : Platform) : Handler F SysSt := fun inp out s =>
  let js := inp.json.getD inp.s0.text
  if js = [] then ⟨.invalidArg, iotUcOutErr out .pltProvision .invalidArg, s⟩
  else provisionReply out (iotProvisionApplyJson P js js.length s)

/-- The text that `url` points at in `iot_uc_plt_ota` before it is copied to `local`. -/
def otaUrlGiven (inp : IotUcIn F) (outJson : Text) : Text :=
  match inp.json with
  | some json =>
    if iotUcJsonHasKey json (txt "ota_url") then
      (iotUcJsonStr json (txt "ota_url") 200).getD outJson
    else inp.s1.text
  | none => inp.s1.text

/-- The URL that `iot_uc_plt_ota` leaves in `local`, or none when it finds no nonempty one. -/
def pltOtaUrl (inp : IotUcIn F) (outJson : Text) : Option Text :=
  let url := otaUrlGiven inp outJson
  if url = [] then
    match inp.json.bind fun json => iotUcJsonStr json (txt "ota_url") 160 with
    | some t => if t = [] then none else some t
    | none => none
  else some (snprintf 160 url)

def iotUcPltOta (P : Platform) : Handler F SysSt := fun inp out s =>
  match pltOtaUrl inp out.json with
  | none => ⟨.invalidArg, iotUcOutErr out .pltOta .invalidArg, s⟩
  | some url =>
    let (e, s) := iotOtaStart P url s
    let out := iotUcOutOk out .pltOta (txt "\x7b\"uc\":\"plt.ota\",\"started\":1\x7d")
    ⟨e, { out with err := e }, s⟩

def iotUcPltIdentity : Handler F SysSt := fun _ out s =>
  let js := snprintf 192 (txt "\x7b\"uc\":\"plt.identity\",\"device\":\"" ++
    s.identity.deviceId.text ++ txt "\",\"fw\":\"" ++ s.identity.fwVersion ++
    txt "\",\"profile\":" ++ decNat s.identity.profile ++ txt "\x7d")
  ⟨.ok, iotUcOutOk out .pltIdentity js, s⟩

def cloudAsked (inp : IotUcIn F) : Int32 :=
  if inp.has (txt "cloud") then inp.i32 (txt "cloud") (inp.i 0) else inp.i 0

/-- `IOT_CLOUD_GCP_MQTT`, the last provider. -/
def iotCloudGcpMqtt : Int32 := 3

def iotUcPltSetCloud (P : Platform) : Handler F SysSt := fun inp out s =>
  let c := cloudAsked inp
  if c < 0 ∨ iotCloudGcpMqtt < c then
    ⟨.invalidArg, iotUcOutErr out .pltSetCloud .invalidArg, s⟩
  else
    let (_, cfg, store) := iotConfigLoad P zeroCfg s.cfg
    let (e, store) := iotConfigSave P { cfg with cloud := c.toUInt32 } store
    let js := snprintf 80
      (txt "\x7b\"uc\":\"plt.set_cloud\",\"cloud\":" ++ decI32 c ++ txt "\x7d")
    let out := iotUcOutOk out .pltSetCloud js
    ⟨e, { out with i := Function.update out.i 0 c, err := e }, { s with cfg := store }⟩

/-- `IOT_LOG_VERBOSE`; `IOT_LOG_NONE` is zero. -/
def iotLogVerbose : Int32 := 5

def levelAsked (inp : IotUcIn F) : Int32 :=
  if inp.has (txt "level") then inp.i32 (txt "level") (inp.i 0) else inp.i 0

def iotUcPltSetLogLevel : Handler F SysSt := fun inp out s =>
  let lvl := levelAsked inp
  if lvl < 0 ∨ iotLogVerbose < lvl then
    ⟨.invalidArg, iotUcOutErr out .pltSetLogLevel .invalidArg, s⟩
  else
    let js := snprintf 72
      (txt "\x7b\"uc\":\"plt.set_log_level\",\"level\":" ++ decI32 lvl ++ txt "\x7d")
    ⟨.ok, iotUcOutOk out .pltSetLogLevel js, { s with logLevel := lvl }⟩

def iotMqttBuildTopic (outLen : ℕ) (deviceId suffix : Text) : Text :=
  snprintf outLen (txt "device/" ++ deviceId ++ txt "/" ++ suffix)

def iotUcPltExportTopics (P : Platform) : Handler F SysSt := fun _ out s =>
  let id := iotSecurityDefaultDeviceId P (CBuf.store 32 [])
  let t := iotMqttBuildTopic 96 id.text (txt "telemetry")
  let js := snprintf 256 (txt "\x7b\"uc\":\"plt.export_topics\",\"example\":\"" ++ t ++
    txt "\",\"list\":[\"telemetry\",\"status\",\"command\",\"config\",\"diagnostics\",\"ota\"]\x7d")
  ⟨.ok, iotUcOutOk out .pltExportTopics js, s⟩

def iotUcPltWifiBackoff : Handler F SysSt := fun _ out s =>
  let out := iotUcOutOk out .pltWifiBackoffPolicy
    (txt "\x7b\"uc\":\"plt.wifi_backoff\",\"min_ms\":1000,\"max_ms\":30000,\"exp\":2\x7d")
  ⟨.ok, { out with u := Function.update (Function.update out.u 0 1000) 1 30000 }, s⟩

/-- The message that `iot_uc_plt_cmd_schema` has validated. -/
def schemaCmd (inp : IotUcIn F) : IotCommandMsg iotJsonSmallLen where
  opcode := 0
  payloadLen := match inp.json with
    | some json => min json.length iotJsonSmallLen
    | none => 0
  payload := padTo iotJsonSmallLen (inp.json.getD [])
  sized := length_padTo _ _

def iotUcPltCmdSchema : Handler F SysSt := fun inp out s =>
  let e := iotSecurityValidateCommand (schemaCmd inp)
  let out := iotUcOutOk out .pltCmdSchema
    (if e = .ok then txt "\x7b\"ok\":1\x7d" else txt "\x7b\"ok\":0\x7d")
  ⟨e, { out with err := e }, s⟩

def iotUcPltMarkOta (P : Platform) : Handler F SysSt := fun _ out s =>
  let e := iotOtaMarkValid P
  let out := iotUcOutOk out .pltMarkOtaValid (txt "\x7b\"uc\":\"plt.mark_ota_valid\"\x7d")
  ⟨e, { out with err := e }, s⟩

def iotTasksRequestShutdown (s : SysSt) : SysSt :=
  { s with shutdown := true, systemEvt := s.systemEvt.map (· ||| iotEvtShutdown) }

def iotUcPltShutdown : Handler F SysSt := fun _ out s =>
  ⟨.ok, iotUcOutOk out .pltShutdown (txt "\x7b\"uc\":\"plt.shutdown\"\x7d"),
    iotTasksRequestShutdown s⟩

end IotPlatform
