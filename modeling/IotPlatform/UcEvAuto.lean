import IotPlatform.UcJson

/-!
# `iot_uc_ev_auto.c`

The EV charger gateway and the automotive CAN gateway.
-/
namespace IotPlatform
open CText CFloat

variable {F : Type} [CFloat F]

/-! ## EV charger gateway -/

def evState (s : String) : CBuf 16 := CBuf.store 16 (txt s)

def evJson (out : IotUcOut F) (id : IotUcId) (ev : EvSt F) : IotUcOut F :=
  let js := snprintf 280 (ucHead id ++ txt ",\"chg_state\":\"" ++ ev.state.text ++
    txt "\",\"e_kwh\":" ++ fmt 3 ev.eKwh ++ txt ",\"t\":" ++ fmt 1 ev.temp ++
    txt ",\"fault\":" ++ decI32 ev.fault ++ txt ",\"session\":" ++ decU32 ev.session ++
    txt ",\"safety\":\"external\"\x7d")
  let out := iotUcOutOk out id js
  { out with
    alarm := ev.fault ≠ 0
    f := Function.update (Function.update out.f 0 ev.eKwh) 1 ev.temp }

def iotUcEvSample : Handler F (EvSt F) := fun inp out ev =>
  let mv := inp.i 0
  let temp : F := flit 25 + flit (mv % 200).toInt / flit 20
  let ev := { ev with
    eKwh := flit mv.toInt / flit 10000
    temp := temp
    fault := if flit 70 < temp then 1 else 0 }
  ⟨.ok, evJson out .evSample ev, ev⟩

def iotUcEvOnSample (mv : Int32) (out : IotUcOut F) (ev : EvSt F) : Ret F (EvSt F) :=
  let z : IotUcIn F := .zero
  iotUcEvSample { z with i := Function.update z.i 0 mv } out ev

def iotUcEvRejectContactor : Handler F (EvSt F) := fun _ out ev =>
  let out := iotUcOutErr out .evRejectContactor .denied
  ⟨.denied, { out with
    json := snprintf 768
      (txt "\x7b\"uc\":\"ev.reject_contactor\",\"err\":\"safety_not_on_esp32c3\"\x7d")
    err := .denied }, ev⟩

/-- `strstr(in->json, "contactor") != NULL` on a request that carries text. -/
def mentionsContactor (inp : IotUcIn F) : Bool :=
  match inp.json with
  | none => false
  | some json => (strstr json (txt "contactor")).isSome

def iotUcEvStart : Handler F (EvSt F) := fun inp out ev =>
  if mentionsContactor inp then iotUcEvRejectContactor inp out ev
  else
    let ev := { ev with
      state := evState "Charging"
      session := if ev.session = 0 then 1 else ev.session }
    ⟨.ok, evJson out .evStartReq ev, ev⟩

def iotUcEvStop : Handler F (EvSt F) := fun _ out ev =>
  let ev := { ev with state := evState "Idle" }
  ⟨.ok, evJson out .evStopReq ev, ev⟩

def iotUcEvSession : Handler F (EvSt F) := fun inp out ev =>
  let op := if inp.has (txt "session") then inp.i32 (txt "session") 1 else 1
  let ev := if op = 0 then { ev with session := 0, state := evState "Idle" }
    else { ev with session := ev.session + 1 }
  ⟨.ok, evJson out .evSession ev, ev⟩

def iotUcEvFault : Handler F (EvSt F) := fun _ out ev =>
  let ev := { ev with fault := 1, state := evState "Fault" }
  ⟨.ok, evJson out .evFaultLatch ev, ev⟩

def iotUcEvGetState : Handler F (EvSt F) := fun _ out ev => ⟨.ok, evJson out .evGetState ev, ev⟩

/-! ## Automotive CAN gateway -/

def autoJson (out : IotUcOut F) (id : IotUcId) (can : AutoSt) : IotUcOut F :=
  let js := snprintf 280 (ucHead id ++ txt ",\"can_id\":" ++ decU32 can.lastId ++
    txt ",\"speed_kph\":" ++ decU32 can.speed ++ txt ",\"rpm\":" ++ decU32 can.rpm ++
    txt ",\"coolant\":" ++ decU32 can.coolant ++ txt ",\"accepted\":" ++ decI32 can.accepted ++
    txt ",\"bus_off\":" ++ decU32 can.busOff ++ txt ",\"dtc\":" ++ decU32 can.dtc ++
    txt ",\"hw\":\"mcp2515\"\x7d")
  let out := iotUcOutOk out id js
  { out with u := Function.update (Function.update out.u 0 can.lastId) 1 can.speed }

def iotUcAutoFilter : Handler F AutoSt := fun inp out can =>
  let id := inp.u 0
  let can := { can with
    lastId := id
    accepted := if can.allowMin ≤ id ∧ id ≤ can.allowMax then 1 else 0 }
  ⟨if can.accepted ≠ 0 then .ok else .denied, autoJson out .autoFilter can, can⟩

def iotUcAutoDecode : Handler F AutoSt := fun inp out can =>
  let can := { can with
    speed := inp.u 1 % 250
    rpm := 800 + inp.u 2 % 4000
    coolant := 70 + inp.u 3 % 40 }
  ⟨.ok, autoJson out .autoDecode can, can⟩

def iotUcAutoOnFrame (canId speed rpm coolant : UInt32) (out : IotUcOut F) (can : AutoSt) :
    Ret F AutoSt :=
  let z : IotUcIn F := .zero
  let inp := { z with
    u := Function.update (Function.update (Function.update (Function.update z.u 0 canId)
      1 speed) 2 rpm) 3 coolant }
  let r := iotUcAutoFilter inp out can
  if r.err ≠ .ok then r else iotUcAutoDecode inp r.out r.st

def iotUcAutoRejectTx : Handler F AutoSt := fun _ out can =>
  let out := iotUcOutErr out .autoRejectTx .denied
  ⟨.denied, { out with
    json := snprintf 768 (txt "\x7b\"uc\":\"auto.reject_tx\",\"err\":\"no_cloud_can_inject\"\x7d")
    err := .denied }, can⟩

def iotUcAutoBusOff : Handler F AutoSt := fun _ out can =>
  let can := { can with busOff := can.busOff + 1 }
  ⟨.ok, { autoJson out .autoBusOff can with alarm := true }, can⟩

def iotUcAutoDtc : Handler F AutoSt := fun inp out can =>
  let code := if inp.has (txt "dtc") then inp.i32 (txt "dtc") 1 else 1
  let can := { can with dtc := code.toUInt32 }
  ⟨.ok, { autoJson out .autoDtc can with alarm := can.dtc ≠ 0 }, can⟩

def iotUcAutoGetState : Handler F AutoSt := fun _ out can =>
  ⟨.ok, autoJson out .autoGetState can, can⟩

end IotPlatform
