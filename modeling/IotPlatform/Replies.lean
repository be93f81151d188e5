import IotPlatform.EvFault
import IotPlatform.Isolation
import IotPlatform.Records
import IotPlatform.ResultRecords

/-!
# What the use cases reply

Each use-case file has one formatter for its registers. Every use case of a product replies with
the record of the registers as it leaves them, or with the record of its refusal.
-/
namespace IotPlatform
open CText CFloat KeySearch FlatJson

section
variable {F : Type}

def ucEntry (id : IotUcId) : Text × Printed F := (txt "uc", .str (iotUcName id))

def energyRecord (id : IotUcId) (s : EnergySt F) : Record F :=
  [ucEntry id, (txt "v", .num 2 s.vrms), (txt "i", .num 3 s.irms), (txt "p", .num 1 s.p),
    (txt "pf", .num 3 s.pf), (txt "e_kwh", .num 5 s.kwh), (txt "e_day", .num 5 s.kwhDay),
    (txt "alarm", .bool s.alarm), (txt "trips", .int s.trips.toNat)]

def indRecord (id : IotUcId) (g : IndSt F) : Record F :=
  [ucEntry id, (txt "t", .num 2 g.temp), (txt "vib", .num 1 g.vib), (txt "i", .num 2 g.current),
    (txt "p_bar", .num 2 g.pressure), (txt "state", .str (stName g.st)),
    (txt "hours", .num 2 g.hours), (txt "pulse", .int g.pulses.toNat)]

def pmRecord (id : IotUcId) (pm : PmSt F) : Record F :=
  [ucEntry id, (txt "rms", .num 3 pm.rms), (txt "peak", .num 3 pm.peak),
    (txt "crest", .num 3 pm.crest), (txt "health", .int pm.health.toInt),
    (txt "ema", .num 3 pm.ema)]

def waterRecord (id : IotUcId) (w : WaterSt F) : Record F :=
  [ucEntry id, (txt "flow_lpm", .num 2 w.flowLpm), (txt "liters", .num 3 w.liters),
    (txt "billing", .num 3 w.billing), (txt "tank_pct", .num 1 w.tankPct),
    (txt "valve", .bool w.valveOpen), (txt "leak", .bool w.leak), (txt "burst", .bool w.burst),
    (txt "tamper", .bool w.tamper), (txt "frozen", .bool w.frozen)]

def evRecord (id : IotUcId) (ev : EvSt F) : Record F :=
  [ucEntry id, (txt "chg_state", .str ev.state.text), (txt "e_kwh", .num 3 ev.eKwh),
    (txt "t", .num 1 ev.temp), (txt "fault", .int ev.fault.toInt),
    (txt "session", .int ev.session.toNat), (txt "safety", .str (txt "external"))]

def autoRecord (id : IotUcId) (can : AutoSt) : Record F :=
  [ucEntry id, (txt "can_id", .int can.lastId.toNat), (txt "speed_kph", .int can.speed.toNat),
    (txt "rpm", .int can.rpm.toNat), (txt "coolant", .int can.coolant.toNat),
    (txt "accepted", .int can.accepted.toInt), (txt "bus_off", .int can.busOff.toNat),
    (txt "dtc", .int can.dtc.toNat), (txt "hw", .str (txt "mcp2515"))]

def trRecord (id : IotUcId) (tr : TrkSt) : Record F :=
  [ucEntry id, (txt "rssi_proxy", .int tr.rssi.toInt), (txt "moving", .bool tr.moving),
    (txt "batt_mv", .int tr.battMv.toInt), (txt "geo_inside", .int tr.geoInside.toInt),
    (txt "sleep_s", .int tr.sleepS.toNat)]

def agRecord (id : IotUcId) (ag : AgriSt) : Record F :=
  [ucEntry id, (txt "moist_pct", .int ag.moist.toInt), (txt "pump", .int ag.pump.toInt),
    (txt "thresh", .int ag.thresh.toInt), (txt "inhibit", .bool ag.inhibit)]

def cdRecord (id : IotUcId) (cd : ColdSt F) : Record F :=
  [ucEntry id, (txt "t_c", .num 2 cd.t), (txt "rh", .num 1 cd.rh), (txt "door", .bool cd.door),
    (txt "alarm", .bool cd.alarm), (txt "exc_min", .num 1 cd.minutesHot),
    (txt "acked", .bool cd.acked)]

def rbRecord (id : IotUcId) (rb : RobSt) : Record F :=
  [ucEntry id, (txt "uart_bytes", .int rb.uartN.toNat), (txt "hb_ms", .int rb.hbAgeMs.toNat),
    (txt "estop", .int rb.estop.toInt), (txt "batt_mv", .int rb.battMv.toInt)]

/-- What `iot_uc_out_err` prints. -/
def errRecord (id : IotUcId) (err : IotErr) : Record F :=
  [(txt "uc", .int id.code), (txt "err", .int err.code)]

/-- The reply of the use cases that only refuse. -/
def refusalRecord (id : IotUcId) (reason : Text) : Record F :=
  [ucEntry id, (txt "err", .str reason)]

/-- The name that stands in a reply: `predictive.features` ends in `predictive.health`. -/
def IotUcId.printedAs : IotUcId → IotUcId
  | .pmFeatures => .pmHealth
  | id => id

/-- The record of the registers that a use case works on. -/
def Device.record (d : Device F) (id : IotUcId) : Record F :=
  match id.part with
  | .energy => energyRecord id d.energy
  | .industrial => indRecord id d.ind
  | .predictive => pmRecord id.printedAs d.pm
  | .water => waterRecord id d.water
  | .evCharger => evRecord id d.ev
  | .automotive => autoRecord id d.can
  | .assetTracker => trRecord id d.tr
  | .agriculture => agRecord id d.ag
  | .coldchain => cdRecord id d.cd
  | .robotics => rbRecord id d.rb
  | .platform | .unlisted => []

/-- The size of a formatter's buffer. -/
def Part.room : Part → ℕ
  | .energy => 320
  | .industrial | .water => 360
  | .predictive | .agriculture => 220
  | .evCharger | .automotive => 280
  | .assetTracker | .robotics => 240
  | .coldchain => 260
  | .platform | .unlisted => 768

/-- The record that an output record reports of the device, with the size of its buffer. -/
def reply (out : IotUcOut F) (d : Device F) : ℕ × Record F :=
  match out.id with
  | .evRejectContactor => (768, refusalRecord .evRejectContactor (txt "safety_not_on_esp32c3"))
  | .autoRejectTx => (768, refusalRecord .autoRejectTx (txt "no_cloud_can_inject"))
  | .robotRejectMotion => (768, refusalRecord .robotRejectMotion (txt "motion_on_robot_mcu_only"))
  | id => if out.err = .ok then (id.part.room, d.record id) else (768, errRecord id out.err)

end

variable {F : Type} [CFloat F]

theorem snprintf_snprintf {m n : ℕ} (h : n ≤ m) (t : Text) :
    snprintf m (snprintf n t) = snprintf n t := by
  rw [snprintf, snprintf, List.take_take, min_eq_right (by omega)]

theorem decBool_eq (b : Bool) : decBool b = (Printed.bool b : Printed F).text := by
  cases b <;> rfl

theorem decU32_eq (n : UInt32) : decU32 n = decInt n.toNat := by
  rw [decU32, decInt, if_neg (by omega)]
  rfl

/-- The text of a record behind its first entry. -/
def Record.rest (r : Record F) : Text := r.flatMap (fun e => comma :: Record.entry e) ++ [125]

@[simp] theorem Record.rest_nil : Record.rest ([] : Record F) = txt "\x7d" := rfl

@[simp] theorem Record.rest_cons (e : Text × Printed F) (r : Record F) :
    Record.rest (e :: r) =
      comma :: quote :: (e.1 ++ quote :: colon :: (e.2.text ++ Record.rest r)) := by
  simp [Record.rest, Record.entry, quoted]

@[simp] theorem Record.text_cons (e : Text × Printed F) (r : Record F) :
    Record.text (e :: r) =
      123 :: quote :: (e.1 ++ quote :: colon :: (e.2.text ++ Record.rest r)) := by
  simp [Record.text, Record.body, Record.rest, Record.entry, quoted]

@[simp] theorem Printed.text_num (n : ℕ) (x : F) : (Printed.num n x).text = fmt n x := rfl

@[simp] theorem Printed.text_int (z : ℤ) : (Printed.int z : Printed F).text = decInt z := rfl

@[simp] theorem Printed.text_str_append (t u : Text) :
    (Printed.str t : Printed F).text ++ u = quote :: (t ++ quote :: u) := by
  simp [Printed.text, quoted]

section
variable (out : IotUcOut F) (id : IotUcId)

theorem energyJson_json (s : EnergySt F) :
    (energyJson out id s).json = snprintf 320 (energyRecord id s).text := by
  simp [energyJson, energyRecord, decBool_eq (F := F), decU32_eq, iotUcOutOk, ucHead, ucEntry,
    snprintf_snprintf]
  rfl

theorem indJson_json (g : IndSt F) :
    (indJson out id g).json = snprintf 360 (indRecord id g).text := by
  simp [indJson, indRecord, decU32_eq, iotUcOutOk, ucHead, ucEntry, snprintf_snprintf]
  rfl

theorem pmJson_json (pm : PmSt F) :
    (pmJson out id pm).json = snprintf 220 (pmRecord id pm).text := by
  simp [pmJson, pmRecord, decI32, iotUcOutOk, ucHead, ucEntry, snprintf_snprintf]
  rfl

theorem waterJson_json (w : WaterSt F) :
    (waterJson out id w).json = snprintf 360 (waterRecord id w).text := by
  simp [waterJson, waterRecord, decBool_eq (F := F), iotUcOutOk, ucHead, ucEntry, snprintf_snprintf]
  rfl

theorem evJson_json (ev : EvSt F) :
    (evJson out id ev).json = snprintf 280 (evRecord id ev).text := by
  simp [evJson, evRecord, decI32, decU32_eq, iotUcOutOk, ucHead, ucEntry, snprintf_snprintf]
  rfl

theorem autoJson_json (can : AutoSt) :
    (autoJson out id can).json = snprintf 280 (autoRecord id can : Record F).text := by
  simp [autoJson, autoRecord, decI32, decU32_eq, iotUcOutOk, ucHead, ucEntry, snprintf_snprintf]
  rfl

theorem trJson_json (tr : TrkSt) :
    (trJson out id tr).json = snprintf 240 (trRecord id tr : Record F).text := by
  simp [trJson, trRecord, decBool_eq (F := F), decI32, decU32_eq, iotUcOutOk, ucHead, ucEntry,
    snprintf_snprintf]
  rfl

theorem agJson_json (ag : AgriSt) :
    (agJson out id ag).json = snprintf 220 (agRecord id ag : Record F).text := by
  simp [agJson, agRecord, decBool_eq (F := F), decI32, iotUcOutOk, ucHead, ucEntry,
    snprintf_snprintf]
  rfl

theorem cdJson_json (cd : ColdSt F) :
    (cdJson out id cd).json = snprintf 260 (cdRecord id cd).text := by
  simp [cdJson, cdRecord, decBool_eq (F := F), iotUcOutOk, ucHead, ucEntry, snprintf_snprintf]
  rfl

theorem rbJson_json (rb : RobSt) :
    (rbJson out id rb).json = snprintf 240 (rbRecord id rb : Record F).text := by
  simp [rbJson, rbRecord, decI32, decU32_eq, iotUcOutOk, ucHead, ucEntry, snprintf_snprintf]
  rfl

theorem iotUcOutErr_json (err : IotErr) :
    (iotUcOutErr out id err).json = snprintf 768 (errRecord id err : Record F).text := by
  simp [iotUcOutErr, errRecord]
  rfl

end

/-- A call has printed the record of its result. -/
def Ret.Tells (r : Ret F (Device F)) : Prop :=
  r.out.json = snprintf (reply r.out r.st).1 (reply r.out r.st).2.text

theorem refusal_json {id : IotUcId} {reason t : Text}
    (h : t = (refusalRecord id reason : Record F).text) :
    snprintf 768 t = snprintf 768 (refusalRecord id reason : Record F).text := by rw [h]

section
variable (P : Platform) (inp : IotUcIn F) (d : Device F)

theorem run_tells {id : IotUcId} (hid : id.part ≠ .platform) : (iotUcRun P id inp d).Tells := by
  cases id
  case energyMeasure =>
    simp only [iotUcRun, entryFn, onEnergy, Handler.at, iotUcEnergyMeasure, iotUcEnergyLedAlarm]
    exact energyJson_json _ _ _
  case energyAccum | energyOverPower | energyOverVoltage | energyUnderVoltage |
      energyOverCurrent | energySetLimits | energyResetDaily | energyGetState | energyLedAlarm =>
    exact energyJson_json _ _ _
  case energyCalibrate | energyPf =>
    simp only [iotUcRun, entryFn, onEnergy, Handler.at, iotUcEnergyCalibrate, iotUcEnergyPf]
    split_ifs
    · exact iotUcOutErr_json _ _ _
    · exact energyJson_json _ _ _
  case indSample | indStateMachine | indSetLimits | indAckAlarm | indHoursTick | indPulse =>
    exact indJson_json _ _ _
  case pmFeatures | pmHealth | pmTrend | pmResetPeak =>
    simp only [iotUcRun, entryFn, onPm, Handler.at, iotUcPmFeatures, iotUcPmHealth, iotUcPmTrend,
      iotUcPmResetPeak, Ret.Tells]
    exact pmJson_json _ _ _
  case waterMeter | waterLeak | waterBurst | waterValveClose | waterTamper | waterBillingFreeze |
      waterGetState =>
    simp only [iotUcRun, entryFn, onWater, Handler.at, iotUcWaterMeter, iotUcWaterLeak,
      iotUcWaterBurst, iotUcWaterValveClose, iotUcWaterTamper, iotUcWaterBilling,
      iotUcWaterGetState, Ret.Tells]
    exact waterJson_json _ _ _
  case waterValveOpen | waterSetK =>
    simp only [iotUcRun, entryFn, onWater, Handler.at, iotUcWaterValveOpen, iotUcWaterSetK]
    split_ifs
    · exact iotUcOutErr_json _ _ _
    · exact waterJson_json _ _ _
  case evSample | evStopReq | evSession | evFaultLatch | evGetState => exact evJson_json _ _ _
  case evStartReq =>
    simp only [iotUcRun, entryFn, onEv, Handler.at, iotUcEvStart]
    by_cases hm : mentionsContactor inp = true
    · rw [if_pos hm]
      exact refusal_json rfl
    · rw [if_neg hm]
      exact evJson_json _ _ _
  case autoFilter | autoDecode | autoBusOff | autoDtc | autoGetState =>
    simp only [iotUcRun, entryFn, onCan, Handler.at, iotUcAutoFilter, iotUcAutoDecode,
      iotUcAutoBusOff, iotUcAutoDtc, iotUcAutoGetState, Ret.Tells]
    exact autoJson_json _ _ _
  case trkBeacon | trkMotion | trkBattLow | trkGeofence =>
    simp only [iotUcRun, entryFn, onTr, Handler.at, iotUcTrkBeacon, iotUcTrkMotion, iotUcTrkBatt,
      iotUcTrkGeo, Ret.Tells]
    exact trJson_json _ _ _
  case trkSleep =>
    simp only [iotUcRun, entryFn, onTr, Handler.at, iotUcTrkSleep]
    split_ifs
    · exact iotUcOutErr_json _ _ _
    · exact trJson_json _ _ _
  case agriSoil | agriPumpAuto | agriPumpOn | agriPumpOff | agriSchedule | agriInhibit =>
    exact agJson_json _ _ _
  case coldSample | coldExcursion | coldDoor | coldAck | coldDatalog => exact cdJson_json _ _ _
  case robotUart | robotHeartbeat | robotEstopReport | robotBattery =>
    simp only [iotUcRun, entryFn, onRb, Handler.at, iotUcRobotUart, iotUcRobotHb, iotUcRobotEstop,
      iotUcRobotBatt, Ret.Tells]
    exact rbJson_json _ _ _
  case evRejectContactor | autoRejectTx | robotRejectMotion => exact refusal_json rfl
  case invalid | count => exact iotUcOutErr_json _ _ _
  all_goals exact absurd rfl hid

end

/-- A sample prints the record of its last use case. -/
theorem sample_tells {op : Op F} {k : Part} {fn : Handler F (Device F)}
    (h : op.sampleFn = some (k, fn)) (d : Device F) : (fn .zero .zero d).Tells := by
  cases op <;> cases h
  case energyAdc mv =>
    simp only [onEnergy, Handler.at, iotUcEnergyOnAdc, iotUcEnergyMeasure, iotUcEnergyLedAlarm]
    exact energyJson_json _ _ _
  case indSample => exact indJson_json _ _ _
  case pmSample =>
    simp only [onPm, Handler.at, iotUcPmOnSample, iotUcPmFeatures, iotUcPmHealth, Ret.Tells]
    exact pmJson_json _ _ _
  case waterSample =>
    simp only [onWater, Handler.at, iotUcWaterOnSample, iotUcWaterMeter, Ret.Tells]
    exact waterJson_json _ _ _
  case evSample => exact evJson_json _ _ _
  case autoFrame canId speed rpm coolant =>
    -- a denied frame leaves the record of the filter
    simp only [onCan, Handler.at, iotUcAutoOnFrame]
    split_ifs
    · exact autoJson_json _ _ _
    · exact autoJson_json _ _ _
  case trkSample =>
    simp only [onTr, Handler.at, iotUcTrkOnSample, iotUcTrkBatt, Ret.Tells]
    exact trJson_json _ _ _
  case agriSample => exact agJson_json _ _ _
  case coldSample => exact cdJson_json _ _ _
  case robotUart =>
    simp only [onRb, Handler.at, iotUcRobotOnUart, iotUcRobotHb, Ret.Tells]
    exact rbJson_json _ _ _

/-- The names under which a part reports its registers. -/
def Part.keys : Part → List String
  | .energy => ["uc", "v", "i", "p", "pf", "e_kwh", "e_day", "alarm", "trips"]
  | .industrial => ["uc", "t", "vib", "i", "p_bar", "state", "hours", "pulse"]
  | .predictive => ["uc", "rms", "peak", "crest", "health", "ema"]
  | .water => ["uc", "flow_lpm", "liters", "billing", "tank_pct", "valve", "leak", "burst",
      "tamper", "frozen"]
  | .evCharger => ["uc", "chg_state", "e_kwh", "t", "fault", "session", "safety"]
  | .automotive => ["uc", "can_id", "speed_kph", "rpm", "coolant", "accepted", "bus_off", "dtc",
      "hw"]
  | .assetTracker => ["uc", "rssi_proxy", "moving", "batt_mv", "geo_inside", "sleep_s"]
  | .agriculture => ["uc", "moist_pct", "pump", "thresh", "inhibit"]
  | .coldchain => ["uc", "t_c", "rh", "door", "alarm", "exc_min", "acked"]
  | .robotics => ["uc", "uart_bytes", "hb_ms", "estop", "batt_mv"]
  | .platform | .unlisted => []

def Part.names (k : Part) : List Text := k.keys.map txt

/-- The strings that a part reports behind the name of the use case. -/
def Device.words (d : Device F) : Part → List Text
  | .industrial => [stName d.ind.st]
  | .evCharger => [d.ev.state.text, txt "external"]
  | .automotive => [txt "mcp2515"]
  | _ => []

theorem isWord_txt {s : String} (hne : s.toList ≠ [])
    (h : ∀ c ∈ s.toList, c.isLower = true ∨ c = '_') : IsWord (txt s) := by
  have hbyte : ∀ n : Fin 26, isWordByte (UInt8.ofNat (97 + n.val)) = true := by decide
  refine ⟨by simpa [txt] using hne, fun b hb => ?_⟩
  obtain ⟨c, hc, rfl⟩ := List.mem_map.mp hb
  rcases h c hc with hlower | rfl
  · have hlow : 97 ≤ c.toNat ∧ c.toNat ≤ 122 := by
      simpa [Char.isLower, UInt32.le_iff_toNat_le] using hlower
    have := hbyte ⟨c.toNat - 97, by omega⟩
    rwa [show 97 + (c.toNat - 97) = c.toNat by omega] at this
  · decide

theorem names_word (k : Part) : ∀ n ∈ k.names, IsWord n := by
  have hkeys : ∀ s ∈ k.keys, s.toList ≠ [] ∧ ∀ c ∈ s.toList, c.isLower = true ∨ c = '_' := by
    cases k <;> simp [Part.keys]
  intro n hn
  obtain ⟨s, hs, rfl⟩ := List.mem_map.mp hn
  exact isWord_txt (hkeys s hs).1 (hkeys s hs).2

theorem names_short (k : Part) : ∀ n ∈ k.names, n.length ≤ 45 := by
  cases k <;> simp [Part.names, Part.keys, txt]

theorem names_distinct (k : Part) : k.names.Nodup := by
  cases k <;> simp [Part.names, Part.keys, txt]

/-- The texts that the firmware shows for the state of the charger. -/
def EvShown (ev : EvSt F) : Prop :=
  ev.state = evState "Idle" ∨ ev.state = evState "Charging" ∨ ev.state = evState "Fault"

theorem evShown_display (id : IotUcId) (inp : IotUcIn F) {ev ev' : EvSt F} (h : EvShown ev)
    (hev : ev'.display = evDisplay id inp ev) : EvShown ev' := by
  have hst : ev'.state = (evDisplay id inp ev).1 := congrArg Prod.fst hev
  have hkept : (evDisplay id inp ev).1 = ev.state → EvShown ev' := by
    intro hd
    rwa [EvShown, hst, hd]
  cases id
  case evStartReq =>
    by_cases hm : mentionsContactor inp = true
    · exact hkept (by rw [evDisplay, if_pos hm]; rfl)
    · exact Or.inr (Or.inl (by rw [hst, evDisplay, if_neg hm]))
  case evStopReq => exact Or.inl hst
  case evSession =>
    by_cases hop : sessionAsked inp = 0
    · exact Or.inl (by rw [hst, evDisplay, if_pos hop])
    · exact hkept (by rw [evDisplay, if_neg hop]; rfl)
  case evFaultLatch => exact Or.inr (Or.inr hst)
  all_goals exact hkept rfl

theorem evShown_reachable {profile : Profile} {d : Device F} (h : Reachable profile d) :
    EvShown d.ev := by
  induction h with
  | boot P wdtReset nvs => exact Or.inl rfl
  | @step d op h ih =>
    rcases op.apply_ev profile d with ⟨P, id, inp, -, hev⟩ | ⟨-, hev⟩
    · rw [hev]
      exact evShown_display id inp ih (iotUcRun_evDisplay P id inp d)
    · rw [hev]
      exact ih

theorem listed {id : IotUcId} (h : id.part ≠ .unlisted) : id ∈ sTab.map Prod.fst := by
  cases id <;> first | exact absurd rfl h | decide

theorem iotUcName_listed {id : IotUcId} (h : id.part ≠ .unlisted) : (id, iotUcName id) ∈ sTab := by
  obtain ⟨e, he, rfl⟩ := List.mem_map.mp (listed h)
  rw [(iotUcIdFromName_name e he).2]
  exact he

theorem printedAs_part (id : IotUcId) : id.printedAs.part = id.part := by cases id <;> rfl

/-- A name of the catalog needs no escape, and its point makes it no word. -/
theorem iotUcName_ok {id : IotUcId} (h : id.part ≠ .unlisted) :
    (∀ b ∈ iotUcName id, 32 ≤ b ∧ b ≠ quote ∧ b ≠ backslash) ∧ ¬ IsWord (iotUcName id) ∧
      (iotUcName id).length < 48 := by
  obtain ⟨⟨hall, hq, hbs⟩, hpoint, hlen⟩ := sTab_bytes _ (iotUcName_listed h)
  refine ⟨fun b hb => ⟨of_decide_eq_true (List.all_eq_true.mp hall b hb),
    ne_of_mem_of_not_mem hb hq, ne_of_mem_of_not_mem hb hbs⟩, fun hword => ?_, hlen⟩
  exact absurd (hword.2 46 hpoint) (by decide)

omit [CFloat F] in
theorem words_ok {d : Device F} (hev : EvShown d.ev) (k : Part) :
    ∀ t ∈ d.words k, (∀ b ∈ t, 32 ≤ b ∧ b ≠ quote ∧ b ≠ backslash) ∧ t ∉ k.names := by
  cases k with
  | industrial =>
    cases hst : d.ind.st <;>
      simp [Device.words, hst, stName, Part.names, Part.keys, txt, quote, backslash]
  | evCharger =>
    rcases hev with hst | hst | hst <;>
      simp [Device.words, hst, evState, CBuf.store, cstr, Part.names, Part.keys, txt, quote,
        backslash]
  | automotive => simp [Device.words, Part.names, Part.keys, txt, quote, backslash]
  | _ => simp [Device.words]

omit [CFloat F] in
theorem record_names (d : Device F) (id : IotUcId) :
    (d.record id).map Prod.fst = id.part.names := by
  unfold Device.record
  cases id.part <;> rfl

omit [CFloat F] in
theorem record_texts (d : Device F) {id : IotUcId} (hid : id.part ≠ .platform)
    (hid' : id.part ≠ .unlisted) :
    (d.record id).texts = iotUcName id.printedAs :: d.words id.part := by
  unfold Device.record
  cases id <;> first | exact absurd rfl hid | exact absurd rfl hid' | rfl

omit [CFloat F] in
theorem record_sound {d : Device F} (hev : EvShown d.ev) {id : IotUcId}
    (hid : id.part ≠ .platform) (hid' : id.part ≠ .unlisted) : (d.record id).Sound := by
  refine Record.sound_of (record_names d id) (record_texts d hid hid')
    (fun n hn => ⟨names_word _ n hn, names_short _ n hn⟩) (names_distinct _) ?_
  have hlisted : id.printedAs.part ≠ .unlisted := by rwa [printedAs_part]
  obtain ⟨hplain, hname, -⟩ := iotUcName_ok hlisted
  rw [List.forall_mem_cons]
  exact ⟨⟨hplain, fun hmem => hname (names_word _ _ hmem)⟩, words_ok hev id.part⟩

omit [CFloat F] in
theorem record_words (d : Device F) (id : IotUcId) : (d.record id).Words := by
  unfold Device.record
  cases id.part <;> simp [Record.Words, energyRecord, indRecord, pmRecord, waterRecord, evRecord,
    autoRecord, trRecord, agRecord, cdRecord, rbRecord, ucEntry]

omit [CFloat F] in
theorem record_width {d : Device F} {id : IotUcId} (hid : id.part ≠ .unlisted) :
    (d.record id).width < id.part.room := by
  have hname : ∀ j : IotUcId, j.part = id.part → (iotUcName j).length < 48 :=
    fun j hj => (iotUcName_ok (hj ▸ hid)).2.2
  have hown := hname id rfl
  have hprinted := hname id.printedAs (printedAs_part id)
  have hshown : d.ev.state.text.length ≤ 15 := d.ev.state.fits
  have hst : (stName d.ind.st).length ≤ 5 := by cases d.ind.st <;> simp [stName, txt]
  unfold Device.record
  cases id.part <;>
    simp [Record.width, Printed.width, Printed.bool, energyRecord, indRecord, pmRecord,
      waterRecord, evRecord, autoRecord, trRecord, agRecord, cdRecord, rbRecord, ucEntry, txt,
      Part.room] <;> omega

omit [CFloat F] in
theorem code_lt (id : IotUcId) : id.code.natAbs < 2 ^ 32 := by cases id <;> decide

omit [CFloat F] in
theorem errCode_lt (e : IotErr) : e.code.natAbs < 2 ^ 32 := by cases e <;> decide

theorem errNames_ok : (∀ n ∈ [txt "uc", txt "err"], IsWord n ∧ n.length ≤ 45) ∧
    [txt "uc", txt "err"].Nodup := by
  simp [txt, IsWord, isWordByte]

theorem errRecord_fits (id : IotUcId) (e : IotErr) : (errRecord id e : Record F).Fits 768 where
  sound := by
    have htexts : (errRecord id e : Record F).texts = [] := rfl
    exact Record.sound_of rfl htexts errNames_ok.1 errNames_ok.2 (by simp)
  words := List.forall_mem_cons.mpr ⟨code_lt id, by
    simpa [Printed.Word] using errCode_lt e⟩
  width := by simp [Record.width, errRecord, Printed.width, txt]

theorem refusalRecord_fits {id : IotUcId} (hid : id.part ≠ .unlisted) {reason : Text}
    (hreason : (∀ b ∈ reason, 32 ≤ b ∧ b ≠ quote ∧ b ≠ backslash) ∧
      reason ∉ [txt "uc", txt "err"]) (hlen : reason.length < 48) :
    (refusalRecord id reason : Record F).Fits 768 where
  sound := by
    obtain ⟨hplain, hname, -⟩ := iotUcName_ok hid
    have htexts : (refusalRecord id reason : Record F).texts = [iotUcName id, reason] := rfl
    refine Record.sound_of rfl htexts errNames_ok.1 errNames_ok.2 ?_
    rw [List.forall_mem_cons, List.forall_mem_singleton]
    exact ⟨⟨hplain, fun hmem => hname (errNames_ok.1 _ hmem).1⟩, hreason⟩
  words := by simp [Record.Words, refusalRecord, ucEntry]
  width := by
    have := (iotUcName_ok hid).2.2
    simp [Record.width, refusalRecord, ucEntry, Printed.width, txt]
    omega

theorem reply_fits {out : IotUcOut F} {d : Device F} (hev : EvShown d.ev)
    (hpart : out.id.part ≠ .platform) : (reply out d).2.Fits (reply out d).1 := by
  have hrecord : (if out.err = .ok then (out.id.part.room, d.record out.id)
      else (768, errRecord out.id out.err)).2.Fits (if out.err = .ok then
        (out.id.part.room, d.record out.id) else (768, errRecord out.id out.err)).1 := by
    split_ifs
    · by_cases hid : out.id.part = .unlisted
      · have hnil : d.record out.id = [] := by rw [Device.record, hid]
        rw [hnil]
        exact ⟨⟨by simp, by simp, by simp⟩, by simp [Record.Words],
          by simp [Record.width, hid, Part.room]⟩
      · exact ⟨record_sound hev hpart hid, record_words d out.id, record_width hid⟩
    · exact errRecord_fits _ _
  unfold reply
  split
  · exact refusalRecord_fits (by decide) (by simp [txt, quote, backslash]) (by simp [txt])
  · exact refusalRecord_fits (by decide) (by simp [txt, quote, backslash]) (by simp [txt])
  · exact refusalRecord_fits (by decide) (by simp [txt, quote, backslash]) (by simp [txt])
  · exact hrecord

theorem platform_out (P : Platform) {id : IotUcId} (hid : id.part = .platform) (inp : IotUcIn F)
    (d : Device F) : (iotUcRun P id inp d).out.id.part = .platform := by
  have hother : id ≠ .pmHealth ∧ id ≠ .autoFilter ∧ id ≠ .agriPumpOn := by
    refine ⟨?_, ?_, ?_⟩ <;> (rintro rfl; cases hid)
  rcases (other_reports P inp d hother).2 with hout | ⟨rfl, -⟩
  · rw [hout, hid]
  · cases hid

/-- An answer other than a platform use case's, if it was filled in, prints its record. -/
theorem reply_tells {profile : Profile} {op : Op F} {d : Device F} {e : IotErr} {out : IotUcOut F}
    (h : op.reply profile d = (e, some out)) (hpart : out.id.part ≠ .platform)
    (hjson : out.json ≠ []) : out.json = snprintf (reply out (op.apply profile d)).1
      (reply out (op.apply profile d)).2.text := by
  have hrun : ∀ {P id inp}, (iotUcRun P id inp d).out = out → (iotUcRun P id inp d).Tells := by
    intro P id inp hout
    refine run_tells P inp d fun hid => hpart ?_
    rw [← hout]
    exact platform_out P hid inp d
  cases hs : op.sampleFn with
  | some r =>
    obtain ⟨hreply, hst⟩ := Prod.mk.inj (congrFun (Op.act_sample hs profile).2 d)
    obtain rfl : (r.2 .zero .zero d).out = out :=
      Option.some.inj (Prod.mk.inj (hreply.symm.trans h)).2
    rw [hst]
    exact sample_tells hs d
  | none =>
    cases op with
    | run P id inp =>
      obtain rfl : (iotUcRun P id inp d).out = out := Option.some.inj (Prod.mk.inj h).2
      exact hrun rfl
    | runJson P json len =>
      obtain rfl : (iotUcRunJson P json len .zero d).out = out := Option.some.inj (Prod.mk.inj h).2
      change (iotUcRunJson P json len .zero d).Tells
      by_cases hlen : len = 0
      · rw [iotUcRunJson, if_pos hlen] at hjson
        exact absurd rfl hjson
      · cases hname : ucNameOf json with
        | none =>
          simp only [iotUcRunJson, if_neg hlen, hname]
          exact iotUcOutErr_json _ _ _
        | some name =>
          rw [iotUcRunJson_of_name hlen hname] at hrun ⊢
          exact hrun rfl
    | command | otaProgress | diag => cases h
    | _ => cases hs

/-- In every reachable state, what a product's use case or sample answers is a flat JSON object in
which the firmware's own helpers find the name of the use case and the numerals of the registers as
they now are, if it fits the formatter's buffer; and it does as long as no number is printed with
more than 20 digits before the point. -/
theorem replies_decode [CFloat.Prints F] {profile : Profile} {d : Device F}
    (hd : Reachable profile d) (op : Op F) {e : IotErr} {out : IotUcOut F}
    (h : op.reply profile d = (e, some out))
    (hpart : out.id.part ≠ .platform) (hjson : out.json ≠ []) :
    let r := reply out (op.apply profile d)
    (r.2.text.length < r.1 → Decodes out.json r.2) ∧ (r.2.Modest → r.2.text.length < r.1) := by
  have hfits := reply_fits (evShown_reachable (hd.step op)) hpart
  refine ⟨fun hlen => ?_, hfits.length_lt⟩
  rw [reply_tells h hpart hjson]
  exact hfits.decodes hlen

/-- A freshly booted meter reports 230 volts. -/
theorem meter_reports_volts :
    let d : Device (Single fun _ => 0) := appMain hostPlatform .energy false none
    iotUcJsonNum (iotUcRun hostPlatform .energyGetState .zero d).out.json (txt "v") =
      some (.fin 230) := by
  intro d
  have hboot : Reachable .energy d := .boot hostPlatform false none
  have hpart : (iotUcRun hostPlatform .energyGetState .zero d).out.id.part ≠ .platform :=
    fun h => (by decide : Part.energy ≠ .platform) h
  obtain ⟨hdecode, hfits⟩ := replies_decode (F := Single fun _ => 0) hboot
    (.run hostPlatform .energyGetState .zero) rfl hpart (by decide +kernel)
  have hmodest : (energyRecord .energyGetState
      (Device.static (Single fun _ => 0) none).energy).Modest := by
    simp [Record.Modest, energyRecord, ucEntry, Printed.Modest, Printed.bool, Device.static]
    decide +kernel
  have hvolts := (hdecode (hfits hmodest)).read (txt "v", .num 2 (flit 230))
    (List.mem_cons_of_mem _ List.mem_cons_self)
  have hprinted : Numeral.strtod (fmt 2 (flit 230 : Single fun _ => 0)) = .fin 230 := by
    decide +kernel
  exact hprinted ▸ hvolts

end IotPlatform
