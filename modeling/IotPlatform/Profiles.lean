import IotPlatform.Services

/-!
# Product profiles

The command hook of each profile. Energy, industrial, water, EV charger, automotive and robotics
look for legacy words in the payload before, or instead of, handing it to the command bus.
-/
namespace IotPlatform
open CText CFloat

inductive Profile
  | energy | industrial | predictive | water | evCharger | automotive | assetTracker | agriculture
  | coldchain | robotics
  deriving DecidableEq, Repr

/-- `strstr((const char *)cmd->payload, word) != NULL`. -/
def IotCommandMsg.mentions {cap : ℕ} (cmd : IotCommandMsg cap) (past : List UInt8)
    (word : Text) : Bool :=
  (strstr (cmd.text past) word).isSome

/-- `iot_uc_json_has_key((const char *)cmd->payload, "uc")`. -/
def IotCommandMsg.hasUc {cap : ℕ} (cmd : IotCommandMsg cap) (past : List UInt8) : Bool :=
  iotUcJsonHasKey (cmd.text past) (txt "uc")

/-- The offset in the payload of `strstr((const char *)cmd->payload, word) + 8`. -/
def IotCommandMsg.legacyStart {cap : ℕ} (cmd : IotCommandMsg cap) (past : List UInt8)
    (word : Text) : Option ℕ :=
  (strstr (cmd.text past) word).map fun r => (cmd.text past).length - r.length + 8

/-- `atof` from that offset on, wherever it lies. -/
def IotCommandMsg.legacyNumber {cap : ℕ} (cmd : IotCommandMsg cap) (past : List UInt8)
    (word : Text) : Option Numeral :=
  (cmd.legacyStart past word).map fun n => Numeral.strtod (cstr ((cmd.payload ++ past).drop n))

/-- The copy of a message whose payload was cleared and replaced by `buf`. -/
def IotCommandMsg.mapped {cap : ℕ} (cmd : IotCommandMsg cap) (buf : Text) : IotCommandMsg cap where
  opcode := cmd.opcode
  payloadLen := buf.length
  payload := padTo cap buf
  sized := length_padTo cap buf

section
variable {F : Type} [CFloat F] {cap : ℕ} (P : Platform) (past : List UInt8)
  (cmd : IotCommandMsg cap) (d : Device F)

/-- A fixed request that a hook runs in place of the command. -/
def runFixed (json : Text) (len : ℕ) : IotErr × Device F :=
  let r := iotUcRunJson P json len .zero d
  (r.err, r.st)

def iotProfileDispatchCmd : IotErr × Device F := iotServicesHandleCommand P past cmd d

def iotProfileEnergyCmd : IotErr × Device F :=
  if cmd.payloadLen = 0 then (.invalidArg, d)
  else if cmd.hasUc past then iotServicesHandleCommand P past cmd d
  else match cmd.legacyNumber past (txt "alarm_w") with
    | some n =>
      let buf := snprintf 128 (txt "\x7b\"uc\":\"energy.set_limits\",\"over_w\":" ++
        fmt 1 (ofNumeral n : F) ++ txt "\x7d")
      iotServicesHandleCommand P past (cmd.mapped buf) d
    | none => iotServicesHandleCommand P past cmd d

def iotProfileIndustrialCmd : IotErr × Device F :=
  match cmd.legacyNumber past (txt "t_alarm"), cmd.hasUc past with
  | some n, false =>
    let buf := snprintf 96 (txt "\x7b\"uc\":\"industrial.set_limits\",\"t_lim\":" ++
      fmt 1 (ofNumeral n : F) ++ txt "\x7d")
    iotServicesHandleCommand P past (cmd.mapped buf) d
  | _, _ => iotServicesHandleCommand P past cmd d

def iotProfilePredictiveCmd : IotErr × Device F := iotProfileDispatchCmd P past cmd d

def iotProfileWaterCmd : IotErr × Device F :=
  if cmd.hasUc past then iotServicesHandleCommand P past cmd d
  else if cmd.mentions past (txt "close") then
    runFixed P d (txt "\x7b\"uc\":\"water.valve_close\"\x7d") 28
  else if cmd.mentions past (txt "open") then
    runFixed P d (txt "\x7b\"uc\":\"water.valve_open\"\x7d") 27
  else iotServicesHandleCommand P past cmd d

def iotProfileEvCmd : IotErr × Device F :=
  if cmd.mentions past (txt "contactor") then
    runFixed P d (txt "\x7b\"uc\":\"ev.reject_contactor\"\x7d") 32
  else iotServicesHandleCommand P past cmd d

def iotProfileAutomotiveCmd : IotErr × Device F :=
  if cmd.mentions past (txt "can_tx") then
    runFixed P d (txt "\x7b\"uc\":\"auto.reject_tx\"\x7d") 26
  else iotServicesHandleCommand P past cmd d

def iotProfileTrackerCmd : IotErr × Device F := iotProfileDispatchCmd P past cmd d

def iotProfileAgriCmd : IotErr × Device F := iotProfileDispatchCmd P past cmd d

def iotProfileColdchainCmd : IotErr × Device F := iotProfileDispatchCmd P past cmd d

def iotProfileRoboticsCmd : IotErr × Device F :=
  if cmd.mentions past (txt "move") then
    runFixed P d (txt "\x7b\"uc\":\"robot.reject_motion\"\x7d") 32
  else iotProfileDispatchCmd P past cmd d

/-- `iot_profile_cmd_hook`: the command hook of the compiled-in profile. -/
def Profile.cmdHook : Profile → IotErr × Device F
  | .energy => iotProfileEnergyCmd P past cmd d
  | .industrial => iotProfileIndustrialCmd P past cmd d
  | .predictive => iotProfilePredictiveCmd P past cmd d
  | .water => iotProfileWaterCmd P past cmd d
  | .evCharger => iotProfileEvCmd P past cmd d
  | .automotive => iotProfileAutomotiveCmd P past cmd d
  | .assetTracker => iotProfileTrackerCmd P past cmd d
  | .agriculture => iotProfileAgriCmd P past cmd d
  | .coldchain => iotProfileColdchainCmd P past cmd d
  | .robotics => iotProfileRoboticsCmd P past cmd d

end

end IotPlatform
