import IotPlatform.DeviceTime
import IotPlatform.Replies

/-!
# What the telemetry says

A message of `sensor_task` carries the record of its sample. The diagnostics text is a record too,
and always has room.
-/
namespace IotPlatform
open CText CFloat KeySearch FlatJson

variable {F : Type} [CFloat F]

/-- The use case whose record a sample leaves. -/
def Profile.lastUseCase (d : Device F) : Profile → IotUcId
  | .energy => .energyMeasure
  | .industrial => .indSample
  | .predictive => .pmFeatures
  | .water => .waterMeter
  | .evCharger => .evSample
  | .automotive => if d.can.accepted = 0 then .autoFilter else .autoDecode
  | .assetTracker => .trkBattLow
  | .agriculture => .agriPumpAuto
  | .coldchain => .coldExcursion
  | .robotics => .robotHeartbeat

/-- The record that the telemetry of a profile carries. -/
def Device.telemetry (profile : Profile) (d : Device F) : Record F :=
  d.record (profile.lastUseCase d)

/-- What the payload of a message gives to `esp_mqtt_client_publish`. -/
def IotTelemetryMsg.sent (msg : IotTelemetryMsg) : Text :=
  msg.payload.text.take msg.payloadLen.toNat

theorem sensorHook_sample (profile : Profile) (r : SensorReads) :
    ∃ k fn, (profile.sample r : Op F).sampleFn = some (k, fn) ∧
      ∀ msg d, profile.sensorHook r msg d = IotPlatform.sensorHook fn msg d := by
  cases profile
  case energy =>
    refine ⟨_, _, rfl, fun msg d => ?_⟩
    have hok : ¬ (onEnergy (fun _ => iotUcEnergyOnAdc r.mv) .zero .zero d : Ret F _).err ≠ .ok :=
      not_not_intro rfl
    simp only [Profile.sensorHook, iotProfileEnergySensor, if_neg hok]
  all_goals exact ⟨_, _, rfl, fun _ _ => rfl⟩

theorem sample_out (profile : Profile) (r : SensorReads) {k : Part} {fn : Handler F (Device F)}
    (h : (profile.sample r : Op F).sampleFn = some (k, fn)) (d : Device F) :
    (fn .zero .zero d).out.err = .ok ∧
      (fn .zero .zero d).out.id = profile.lastUseCase (fn .zero .zero d).st := by
  cases profile <;> cases h
  case automotive =>
    by_cases hin : d.can.allowMin ≤ (r.rx 1).toUInt32 ∧ (r.rx 1).toUInt32 ≤ d.can.allowMax <;>
      simp [onCan, Handler.at, iotUcAutoOnFrame, iotUcAutoFilter, iotUcAutoDecode, hin, autoJson,
        iotUcOutOk, Profile.lastUseCase]
  all_goals exact ⟨rfl, rfl⟩

omit [CFloat F] in
theorem lastUseCase_part (profile : Profile) (d : Device F) :
    (profile.lastUseCase d).part ≠ .platform ∧
      profile.lastUseCase d ∉ [.evRejectContactor, .autoRejectTx, .robotRejectMotion] := by
  cases profile
  case automotive =>
    simp only [Profile.lastUseCase]
    split_ifs <;> decide
  all_goals exact ⟨nofun, by simp [Profile.lastUseCase]⟩

omit [CFloat F] in
theorem reply_ok {out : IotUcOut F} {d : Device F} (herr : out.err = .ok)
    (hid : out.id ∉ [.evRejectContactor, .autoRejectTx, .robotRejectMotion]) :
    reply out d = (out.id.part.room, d.record out.id) := by
  unfold reply
  split
  · next h => simp [h] at hid
  · next h => simp [h] at hid
  · next h => simp [h] at hid
  · rw [if_pos herr]

theorem fillTelemetry_sent {json : Text} (h0 : (0 : UInt8) ∉ json) (hlen : json.length < 768)
    (msg : IotTelemetryMsg) : (iotServicesFillTelemetry json msg).2.sent = json := by
  have hcount : (UInt16.ofNat (min json.length 767)).toNat = json.length := by
    simp
    omega
  simp only [IotTelemetryMsg.sent, iotServicesFillTelemetry, hcount]
  rw [CBuf.store_text h0, List.take_take]
  exact List.take_of_length_le (by omega)

theorem room_le (k : Part) : k.room ≤ 768 := by cases k <;> decide

/-- A text is the telemetry of a state: the firmware's own helpers find the record of the registers
in it, if that fits the formatter's buffer, as it does when no number has more than 20 digits before
the point. -/
def Profile.Reports (profile : Profile) (d : Device F) (t : Text) : Prop :=
  let cap := (profile.lastUseCase d).part.room
  ((d.telemetry profile).text.length < cap → Decodes t (d.telemetry profile)) ∧
    ((d.telemetry profile).Modest → (d.telemetry profile).text.length < cap)

theorem sensorHook_reports [CFloat.Prints F] {profile : Profile} {d : Device F}
    (hd : Reachable profile d) (r : SensorReads) (msg : IotTelemetryMsg) :
    profile.Reports ((profile.sample r).apply profile d) (profile.sensorHook r msg d).2.1.sent := by
  obtain ⟨k, fn, hsample, hhook⟩ := sensorHook_sample (F := F) profile r
  obtain ⟨herr, hid⟩ := sample_out profile r hsample d
  have hstep : (profile.sample r).apply profile d = (fn .zero .zero d).st :=
    (Prod.mk.inj (congrFun (Op.act_sample hsample profile).2 d)).2
  have hev : EvShown (fn .zero .zero d).st.ev := hstep ▸ evShown_reachable (hd.step _)
  obtain ⟨hpart, hrejects⟩ := lastUseCase_part profile (fn .zero .zero d).st
  rw [← hid] at hpart hrejects
  have hreply := reply_ok (d := (fn .zero .zero d).st) herr hrejects
  have hfits := reply_fits (d := (fn .zero .zero d).st) hev hpart
  have htells := sample_tells hsample d
  rw [Ret.Tells, hreply] at htells
  rw [hreply, hid] at hfits
  rw [hid] at htells
  rw [Profile.Reports, hstep, hhook msg d]
  refine ⟨fun hlen => ?_, hfits.length_lt⟩
  have hwhole : (fn .zero .zero d).out.json =
      ((fn .zero .zero d).st.telemetry profile).text :=
    htells.trans (List.take_of_length_le (Nat.le_sub_one_of_lt hlen))
  have hroom : (fn .zero .zero d).out.json.length < 768 := by
    rw [hwhole]
    exact hlen.trans_le (room_le _)
  have hnul : (0 : UInt8) ∉ (fn .zero .zero d).out.json := hwhole ▸ hfits.sound.noNul
  change Decodes (iotServicesFillTelemetry (fn .zero .zero d).out.json msg).2.sent _
  rw [fillTelemetry_sent hnul hroom, hwhole]
  exact hfits.sound.decodes

def diagRecord (s : DiagSnapshot) : Record F :=
  [(txt "uptime", .int s.uptimeS.toNat), (txt "heap", .int s.freeHeap.toNat),
    (txt "min_heap", .int s.minHeap.toNat), (txt "wifi_fail", .int s.wifiFails.toNat),
    (txt "mqtt_disc", .int s.mqttDisconnects.toNat), (txt "sensor_to", .int s.sensorTimeouts.toNat),
    (txt "wdt", .int s.wdtEvents.toNat), (txt "last", .int s.lastEvent.toNat)]

theorem diagSnapshot_text (s : DiagSnapshot) : s.text = (diagRecord s : Record F).text := by
  have hdec : ∀ n : UInt32, decNat n.toNat = decInt n.toNat := decU32_eq
  simp [DiagSnapshot.text, diagRecord, hdec]
  rfl

def diagKeys : List String :=
  ["uptime", "heap", "min_heap", "wifi_fail", "mqtt_disc", "sensor_to", "wdt", "last"]

theorem diagRecord_fits (s : DiagSnapshot) : (diagRecord s : Record ℚ).Fits 768 where
  sound := by
    have hnames : (diagRecord s : Record ℚ).map Prod.fst = diagKeys.map txt := rfl
    have htexts : (diagRecord s : Record ℚ).texts = [] := rfl
    refine Record.sound_of hnames htexts (fun n hn => ?_) ?_ (by simp)
    · obtain ⟨key, hkey, rfl⟩ := List.mem_map.mp hn
      have hword : ∀ key ∈ diagKeys, key.toList ≠ [] ∧ (∀ c ∈ key.toList,
          c.isLower = true ∨ c = '_') ∧ (txt key).length ≤ 45 := by
        simp [diagKeys, txt]
      obtain ⟨hne, hlower, hlen⟩ := hword key hkey
      exact ⟨isWord_txt hne hlower, hlen⟩
    · simp [diagKeys, txt]
  words := by simp [Record.Words, diagRecord]
  width := by simp [Record.width, diagRecord, Printed.width, txt]

/-- The counters of the diagnostics text, with the events that they count. -/
def diagCounters : List (Text × UInt32) :=
  [(txt "wifi_fail", diagWifiConnectFail), (txt "mqtt_disc", diagMqttDisconnect),
    (txt "sensor_to", diagSensorTimeout), (txt "wdt", diagWatchdogReset)]

/-- The counter of a kind of event; the others have none. -/
def DiagSt.counter (id : UInt32) (s : DiagSt) : UInt32 :=
  if id = diagWifiConnectFail then s.wifiFails
  else if id = diagMqttDisconnect then s.mqttDisc
  else if id = diagSensorTimeout then s.sensorTo
  else if id = diagWatchdogReset then s.wdt
  else 0

theorem counter_shown (P : Platform) (s : DiagSt) : ∀ c ∈ diagCounters,
    (c.1, .int (s.counter c.2).toNat) ∈ (diagRecord (iotDiagSnapshot P s) : Record ℚ) := by
  simp [diagCounters, diagRecord, iotDiagSnapshot, DiagSt.counter, diagWifiConnectFail,
    diagMqttDisconnect, diagSensorTimeout, diagWatchdogReset]

theorem iotDiagEvent_counter (id : UInt32) (s : DiagSt) : ∀ c ∈ diagCounters,
    (iotDiagEvent id s).counter c.2 = s.counter c.2 + if id = c.2 then 1 else 0 := by
  have hcase : ∀ k ∈ [diagWifiConnectFail, diagMqttDisconnect, diagSensorTimeout,
      diagWatchdogReset],
      (iotDiagEvent id s).counter k = s.counter k + if id = k then 1 else 0 := by
    simp only [iotDiagEvent]
    split_ifs with h1 h2 h3 h4 <;>
      simp_all [DiagSt.counter, diagWifiConnectFail, diagMqttDisconnect, diagSensorTimeout,
        diagWatchdogReset]
  intro c hc
  simp only [diagCounters, List.mem_cons, List.not_mem_nil, or_false] at hc
  rcases hc with rfl | rfl | rfl | rfl <;> exact hcase _ (by simp)

/-- The event that another task posts. -/
def Op.event : Op F → Option UInt32
  | .diag id => some id
  | _ => none

theorem commandEnds_counter (P : Platform) (d : Device F) {c : Text × UInt32}
    (hc : c ∈ diagCounters) :
    CommandEnds P d fun _ d' => d'.sys.diag.counter c.2 = d.sys.diag.counter c.2 where
  idle := rfl
  refused := by
    have hreject : diagCmdReject ≠ c.2 := by
      intro h
      have hnone : ∀ c ∈ diagCounters, diagCmdReject ≠ c.2 := by decide
      exact hnone c hc h
    have hevent := iotDiagEvent_counter diagCmdReject d.sys.diag c hc
    rw [if_neg hreject, add_zero] at hevent
    exact hevent
  provision _ _ := congrArg (DiagSt.counter c.2) (iotProvisionApplyJson_kept P _ _ _).1
  ota _ := rfl
  run _ _ := congrArg (DiagSt.counter c.2) (iotUcRun_kept P _ _ d).1

theorem Op.apply_counter (profile : Profile) (op : Op F) (d : Device F) {c : Text × UInt32}
    (hc : c ∈ diagCounters) : (op.apply profile d).sys.diag.counter c.2 =
      d.sys.diag.counter c.2 + if op.event = some c.2 then 1 else 0 := by
  cases op with
  | command P past cmd =>
    exact ((commandEnds_counter P d hc).hook past cmd profile).trans (add_zero _).symm
  | run P id inp =>
    exact (congrArg (DiagSt.counter c.2) (iotUcRun_kept P id inp d).1).trans (add_zero _).symm
  | runJson P json len =>
    exact ((commandEnds_counter P d hc).text json len .zero).trans (add_zero _).symm
  | diag id =>
    simpa [Op.event, Op.apply, Device.diagEvent] using iotDiagEvent_counter id d.sys.diag c hc
  | _ => exact (add_zero _).symm

/-- The events of a run: a watchdog reset noticed at boot, and what the tasks post. -/
def diagEvents (P : Platform) (wdtReset : Bool) (ops : List (Op F)) : List UInt32 :=
  (if wdtReset ∧ P.build = .target then [diagWatchdogReset] else []) ++ ops.filterMap Op.event

theorem run_counter (P : Platform) (profile : Profile) (wdtReset : Bool) (nvs : Option NvsImage)
    (ops : List (Op F)) {c : Text × UInt32} (hc : c ∈ diagCounters) :
    ((appMain P profile wdtReset nvs : Device F).after profile ops).sys.diag.counter c.2 =
      UInt32.ofNat ((diagEvents P wdtReset ops).count c.2) := by
  induction ops using List.reverseRecOn with
  | nil =>
    have hzero : ∀ c ∈ diagCounters, ∀ s : DiagSt, s = ⟨0, 0, 0, 0, 0, P.millis⟩ →
        s.counter c.2 = 0 := by
      rintro c - s rfl
      simp only [DiagSt.counter]
      split_ifs <;> rfl
    have hboot := hzero c hc ⟨0, 0, 0, 0, 0, P.millis⟩ rfl
    change (iotDiagInit P wdtReset ⟨0, 0, 0, 0, 0, 0⟩).counter c.2 = _
    simp only [iotDiagInit, diagEvents, List.filterMap_nil, List.append_nil]
    split_ifs
    · rw [iotDiagEvent_counter _ _ c hc, hboot, zero_add, List.count_singleton]
      by_cases hid : diagWatchdogReset = c.2 <;> simp [hid]
    · exact hboot
  | append_singleton ops op ih =>
    have hafter : (appMain P profile wdtReset nvs : Device F).after profile (ops ++ [op]) =
        op.apply profile ((appMain P profile wdtReset nvs : Device F).after profile ops) := by
      simp [Device.after]
    rw [hafter, op.apply_counter profile _ hc, ih]
    simp only [diagEvents, List.filterMap_append, ← List.append_assoc, List.count_append]
    cases hev : op.event with
    | none => simp [hev]
    | some id => by_cases hid : id = c.2 <;> simp [hev, hid]

theorem iotDiagSnapshotJson_err (P : Platform) (s : DiagSt) (len : ℕ) :
    (iotDiagSnapshotJson P s len).1 =
      if len ≤ (iotDiagSnapshot P s).text.length then .overflow else .ok := rfl

/-- The text of a snapshot always has room, and gives the counters as they are. -/
theorem pltGetDiag_shows (Q : Platform) (inp : IotUcIn F) (d : Device F) :
    (iotUcRun Q .pltGetDiag inp d).err = .ok ∧
      Decodes (iotUcRun Q .pltGetDiag inp d).out.json
        (diagRecord (iotDiagSnapshot Q d.sys.diag) : Record ℚ) ∧
      ∀ c ∈ diagCounters, iotUcJsonNum (iotUcRun Q .pltGetDiag inp d).out.json c.1 =
        some (.fin ((d.sys.diag.counter c.2).toNat : ℤ)) := by
  have hfits := diagRecord_fits (iotDiagSnapshot Q d.sys.diag)
  have htext := diagSnapshot_text (F := ℚ) (iotDiagSnapshot Q d.sys.diag)
  have hlen : (iotDiagSnapshot Q d.sys.diag).text.length < 768 := by
    rw [htext]
    refine hfits.length_lt ?_
    simp [Record.Modest, diagRecord, Printed.Modest]
  have hcall :
      iotDiagSnapshotJson Q d.sys.diag 768 = (.ok, (iotDiagSnapshot Q d.sys.diag).text) := by
    refine Prod.ext ?_ ?_
    · rw [iotDiagSnapshotJson_err, if_neg (not_le.mpr hlen)]
    · rw [iotDiagSnapshotJson_text, snprintf, List.take_of_length_le (Nat.le_sub_one_of_lt hlen)]
  simp only [iotUcRun, entryFn, onSys, Handler.at, iotUcPltGetDiag, hcall, htext]
  exact ⟨trivial, hfits.sound.decodes,
    fun c hc => hfits.sound.readUnder (counter_shown Q d.sys.diag c hc)⟩

/-- Whatever has happened since boot, the diagnostics use case succeeds with a flat JSON object, and
under the names of the counters its text gives how often their events have been posted, modulo
`2 ^ 32`. -/
theorem diagnostics_count_events (P Q : Platform) (profile : Profile) (wdtReset : Bool)
    (nvs : Option NvsImage) (ops : List (Op F)) (inp : IotUcIn F) :
    let d : Device F := (appMain P profile wdtReset nvs).after profile ops
    let r := iotUcRun Q .pltGetDiag inp d
    r.err = .ok ∧
      Decodes r.out.json (diagRecord (iotDiagSnapshot Q d.sys.diag) : Record ℚ) ∧
      ∀ c ∈ diagCounters, iotUcJsonNum r.out.json c.1 =
        some (.fin (((diagEvents P wdtReset ops).count c.2 % 2 ^ 32 : ℕ) : ℚ)) := by
  intro d r
  obtain ⟨hok, hdecodes, hcounters⟩ := pltGetDiag_shows Q inp d
  refine ⟨hok, hdecodes, fun c hc => ?_⟩
  rw [hcounters c hc, run_counter P profile wdtReset nvs ops hc, UInt32.toNat_ofNat',
    Int.cast_natCast]

end IotPlatform
