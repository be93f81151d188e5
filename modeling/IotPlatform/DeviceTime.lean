import IotPlatform.CommandQueue
import IotPlatform.Sensors

/-!
# Device time

`iot_millis` cuts the microsecond clock of the target to 32 bits of milliseconds. Messages carry
its value, and the uptime is its distance from the value at boot.
-/
namespace IotPlatform
open CText CFloat Runs

/-- `iot_millis` of the target, at `us` microseconds of `esp_timer_get_time`. -/
def iotMillis (us : UInt64) : UInt32 := (us / 1000).toUInt32

/-- `iot_diag_snapshot_t`, without the load that only the host fills in. -/
structure DiagSnapshot where
  uptimeS : UInt32
  freeHeap : UInt32
  minHeap : UInt32
  wifiFails : UInt32
  mqttDisconnects : UInt32
  sensorTimeouts : UInt32
  wdtEvents : UInt32
  lastEvent : UInt32

def iotDiagSnapshot (P : Platform) (s : DiagSt) : DiagSnapshot where
  uptimeS := (P.millis - s.bootMs) / 1000
  freeHeap :=
    match P.build with
    | .target => P.freeHeap
    | .host => 256000
  minHeap :=
    match P.build with
    | .target => P.minHeap
    | .host => 200000
  wifiFails := s.wifiFails
  mqttDisconnects := s.mqttDisc
  sensorTimeouts := s.sensorTo
  wdtEvents := s.wdt
  lastEvent := s.last

/-- The text of a snapshot. -/
def DiagSnapshot.text (s : DiagSnapshot) : Text :=
  let dec := fun n : UInt32 => decNat n.toNat
  txt "\x7b\"uptime\":" ++ dec s.uptimeS ++ txt ",\"heap\":" ++ dec s.freeHeap ++
    txt ",\"min_heap\":" ++ dec s.minHeap ++ txt ",\"wifi_fail\":" ++ dec s.wifiFails ++
    txt ",\"mqtt_disc\":" ++ dec s.mqttDisconnects ++ txt ",\"sensor_to\":" ++
    dec s.sensorTimeouts ++ txt ",\"wdt\":" ++ dec s.wdtEvents ++ txt ",\"last\":" ++
    dec s.lastEvent ++ txt "\x7d"

theorem iotDiagSnapshotJson_text (P : Platform) (s : DiagSt) (len : ℕ) :
    (iotDiagSnapshotJson P s len).2 = snprintf len (iotDiagSnapshot P s).text := rfl

variable {F : Type} [CFloat F]

/-- A pass of `sensor_task` or a snapshot, each with the clock it reads, or anything else that
happens to the device. -/
inductive TimeOp (F : Type)
  | pass (us : UInt64) (r : SensorReads)
  | snapshot (P : Platform) (us : UInt64)
  | other (op : Op F)

def TimeOp.us : TimeOp F → Option UInt64
  | .pass us _ => some us
  | .snapshot _ us => some us
  | .other _ => none

def TimeOp.apply (profile : Profile) (t : SensorTask F) : TimeOp F → SensorTask F
  | .pass us r => (sensorTask profile (iotMillis us) r t).2
  | .snapshot _ _ => t
  | .other op => { t with dev := op.apply profile t.dev }

/-- The task after a boot at `us0`. -/
def bootTimed (P : Platform) (profile : Profile) (wdtReset : Bool) (nvs : Option NvsImage)
    (us0 : UInt64) : SensorTask F where
  dev := appMain { P with millis := iotMillis us0 } profile wdtReset nvs
  seq := 0
  unixMs := 0

/-- A step of a run. -/
abbrev TimeStep (F : Type) := SensorTask F × TimeOp F × SensorTask F

/-- The message that a step produces. -/
def TimeStep.message (profile : Profile) (e : TimeStep F) : Option IotTelemetryMsg :=
  match e.2.1 with
  | .pass us r => (sensorTask profile (iotMillis us) r e.1).1
  | _ => none

/-- The snapshot that a step takes. -/
def TimeStep.snapshot (e : TimeStep F) : Option DiagSnapshot :=
  match e.2.1 with
  | .snapshot P us => some (iotDiagSnapshot { P with millis := iotMillis us } e.1.dev.sys.diag)
  | _ => none

/-- The clock at a step that produces a message. -/
def TimeStep.messageUs (e : TimeStep F) : Option UInt64 :=
  match e.2.1 with
  | .pass us _ => if e.1.dev.sys.shutdown then none else some us
  | _ => none

/-- The clock at a step that takes a snapshot. -/
def TimeStep.snapshotUs (e : TimeStep F) : Option UInt64 :=
  match e.2.1 with
  | .snapshot _ us => some us
  | _ => none

/-- Milliseconds between two readings of the clock. -/
def msBetween (a b : UInt64) : ℕ := b.toNat / 1000 - a.toNat / 1000

/-- The time from `a` to `b` does not carry the 32-bit counter past its end. -/
def NoCarry (a b : UInt64) : Prop :=
  a.toNat / 1000 % 2 ^ 32 + msBetween a b % 2 ^ 32 < 2 ^ 32

/-- The time from `a` to `b` does not carry the count since `us0` past its end, or it brings the
count back to the second it was at. -/
def NoUptimeCarry (us0 a b : UInt64) : Prop :=
  let up := msBetween us0 a % 2 ^ 32
  let dt := msBetween a b % 2 ^ 32
  up + dt < 2 ^ 32 ∨ up / 1000 = (up + dt - 2 ^ 32) / 1000

theorem iotMillis_toNat (us : UInt64) : (iotMillis us).toNat = us.toNat / 1000 % 2 ^ 32 := by
  simp [iotMillis]

theorem stamp_le_iff {a b : UInt64} (h : a ≤ b) :
    ((iotMillis a).toNat : ℤ) ≤ (iotMillis b).toNat ↔ NoCarry a b := by
  rw [UInt64.le_iff_toNat_le] at h
  simp only [NoCarry, msBetween, iotMillis_toNat]
  omega

theorem uptime_toNat {us0 us : UInt64} (h : us0 ≤ us) :
    ((iotMillis us - iotMillis us0) / 1000).toNat = msBetween us0 us % 2 ^ 32 / 1000 := by
  rw [UInt64.le_iff_toNat_le] at h
  have hthousand : (1000 : UInt32).toNat = 1000 := rfl
  rw [UInt32.toNat_div, hthousand, UInt32.toNat_sub, iotMillis_toNat, iotMillis_toNat, msBetween]
  omega

theorem uptime_le_iff {us0 a b : UInt64} (h0 : us0 ≤ a) (h : a ≤ b) :
    (iotMillis a - iotMillis us0) / 1000 ≤ (iotMillis b - iotMillis us0) / 1000 ↔
      NoUptimeCarry us0 a b := by
  rw [UInt32.le_iff_toNat_le, uptime_toNat h0, uptime_toNat (UInt64.le_trans h0 h), NoUptimeCarry]
  rw [UInt64.le_iff_toNat_le] at h0 h
  simp only [msBetween]
  omega

theorem iotDiagEvent_bootMs (id : UInt32) (s : DiagSt) : (iotDiagEvent id s).bootMs = s.bootMs := by
  unfold iotDiagEvent
  dsimp only
  split_ifs <;> rfl

theorem commandEnds_bootMs (P : Platform) (d : Device F) :
    CommandEnds P d fun _ d' => d'.sys.diag.bootMs = d.sys.diag.bootMs where
  idle := rfl
  refused := iotDiagEvent_bootMs _ _
  provision _ _ := congrArg DiagSt.bootMs (iotProvisionApplyJson_kept P _ _ _).1
  ota _ := rfl
  run _ _ := congrArg DiagSt.bootMs (iotUcRun_kept P _ _ d).1

theorem Op.apply_bootMs (profile : Profile) (op : Op F) (d : Device F) :
    (op.apply profile d).sys.diag.bootMs = d.sys.diag.bootMs := by
  cases op with
  | command P past cmd => exact (commandEnds_bootMs P d).hook past cmd profile
  | run P id inp => exact congrArg DiagSt.bootMs (iotUcRun_kept P id inp d).1
  | runJson P json len => exact (commandEnds_bootMs P d).text json len .zero
  | diag id => exact iotDiagEvent_bootMs id d.sys.diag
  | _ => rfl

theorem TimeOp.apply_bootMs (profile : Profile) (op : TimeOp F) (t : SensorTask F) :
    (op.apply profile t).dev.sys.diag.bootMs = t.dev.sys.diag.bootMs := by
  cases op with
  | pass us r =>
    cases hs : t.dev.sys.shutdown with
    | true => exact congrArg (·.dev.sys.diag.bootMs) (sensorTask_shutdown profile _ r hs)
    | false =>
      have hrun := congrArg (·.dev.sys.diag.bootMs) (sensorTask_running profile (iotMillis us) r hs)
      exact hrun.trans ((profile.sample r).apply_bootMs profile t.dev)
  | snapshot P us => rfl
  | other op => exact op.apply_bootMs profile t.dev

section
variable (P : Platform) (profile : Profile) (wdtReset : Bool) (nvs : Option NvsImage)
  (us0 : UInt64) (ops : List (TimeOp F))

/-- The steps of a run from a boot at `us0`. -/
def timeTrace : List (TimeStep F) :=
  trace (TimeOp.apply profile) (bootTimed P profile wdtReset nvs us0) ops

theorem boot_kept : ∀ e ∈ timeTrace P profile wdtReset nvs us0 ops,
    e.1.dev.sys.diag.bootMs = iotMillis us0 := by
  have hboot : (bootTimed P profile wdtReset nvs us0 : SensorTask F).dev.sys.diag.bootMs =
      iotMillis us0 := by
    simp only [bootTimed, appMain, iotDiagInit]
    split_ifs
    · exact iotDiagEvent_bootMs _ _
    · rfl
  have hinv := (Run.invariant (I := fun t : SensorTask F => t.dev.sys.diag.bootMs = iotMillis us0)
    (C := fun _ _ _ => True)
    (by rintro t op t' ht rfl -; exact (op.apply_bootMs profile t).trans ht)
    (run_trace (TimeOp.apply profile) (bootTimed P profile wdtReset nvs us0) ops) hboot
    fun _ _ => trivial).2
  exact fun e he => (hinv e he).1

/-- The times in the messages of a run, in the order of their numbers. -/
def stamps : List ℤ :=
  ((timeTrace P profile wdtReset nvs us0 ops).filterMap (TimeStep.message profile)).map
    IotTelemetryMsg.unixMs

/-- The uptimes of the snapshots of a run. -/
def uptimes : List UInt32 :=
  ((timeTrace P profile wdtReset nvs us0 ops).filterMap TimeStep.snapshot).map
    DiagSnapshot.uptimeS

theorem message_unixMs (e : TimeStep F) :
    (e.message profile).map IotTelemetryMsg.unixMs =
      e.messageUs.map fun us => ((iotMillis us).toNat : ℤ) := by
  obtain ⟨t, op, t'⟩ := e
  cases op with
  | pass us r =>
    cases hs : t.dev.sys.shutdown with
    | true => simp [TimeStep.message, TimeStep.messageUs, sensorTask, hs]
    | false =>
      obtain ⟨payload, len, hhook⟩ :=
        sensorHook_spec profile r (.stamped (t.seq + 1) (iotMillis us).toNat) t.dev
      simp only [TimeStep.message, TimeStep.messageUs, sensorTask, hs, Bool.false_eq_true, if_false,
        hhook]
      rfl
  | _ => rfl

theorem stamps_eq : stamps P profile wdtReset nvs us0 ops =
    ((timeTrace P profile wdtReset nvs us0 ops).filterMap TimeStep.messageUs).map
      fun us => ((iotMillis us).toNat : ℤ) := by
  rw [stamps, List.map_filterMap, List.map_filterMap]
  exact List.filterMap_congr fun e _ => message_unixMs profile e

theorem uptimes_eq : uptimes P profile wdtReset nvs us0 ops =
    ((timeTrace P profile wdtReset nvs us0 ops).filterMap TimeStep.snapshotUs).map
      fun us => (iotMillis us - iotMillis us0) / 1000 := by
  rw [uptimes, List.map_filterMap, List.map_filterMap]
  refine List.filterMap_congr fun e he => ?_
  obtain ⟨t, op, t'⟩ := e
  have hboot : t.dev.sys.diag.bootMs = iotMillis us0 :=
    boot_kept P profile wdtReset nvs us0 ops _ he
  cases op with
  | snapshot Q us =>
    simp only [TimeStep.snapshot, TimeStep.snapshotUs, Option.map_some, iotDiagSnapshot, hboot]
  | _ => rfl

/-- The clock at boot and at the later steps that read it. -/
def clockReadings : List UInt64 := us0 :: ops.filterMap TimeOp.us

/-- The steps that read the clock read it in order, none before boot. -/
theorem times_ordered (hclock : (clockReadings us0 ops).Pairwise (· ≤ ·))
    {time : TimeStep F → Option UInt64} (htime : ∀ e us, time e = some us → e.2.1.us = some us) :
    ((timeTrace P profile wdtReset nvs us0 ops).filterMap time).Pairwise
      fun a b => us0 ≤ a ∧ a ≤ b := by
  obtain ⟨hboot, hord⟩ := List.pairwise_cons.mp hclock
  have hops : (ops.filterMap TimeOp.us).Pairwise fun a b => us0 ≤ a ∧ a ≤ b :=
    hord.imp_of_mem fun ha _ hab => ⟨hboot _ ha, hab⟩
  rw [← trace_actions (TimeOp.apply profile) (bootTimed P profile wdtReset nvs us0) ops,
    List.filterMap_map, List.pairwise_filterMap] at hops
  refine List.pairwise_filterMap.mpr (hops.imp fun h a ha b hb => ?_)
  exact h a (htime _ a ha) b (htime _ b hb)

/-- Stamps and uptimes never fall exactly when no time between two messages carries the 32-bit
counter past its end, and none between two snapshots carries the count since boot past its end
without bringing it back to the same second. -/
theorem deviceTime_monotone_iff (hclock : (clockReadings us0 ops).Pairwise (· ≤ ·)) :
    (stamps P profile wdtReset nvs us0 ops).IsChain (· ≤ ·) ∧
        (uptimes P profile wdtReset nvs us0 ops).IsChain (· ≤ ·) ↔
      ((timeTrace P profile wdtReset nvs us0 ops).filterMap TimeStep.messageUs).IsChain NoCarry ∧
        ((timeTrace P profile wdtReset nvs us0 ops).filterMap TimeStep.snapshotUs).IsChain
          (NoUptimeCarry us0) := by
  have hmessage : ∀ (e : TimeStep F) us, e.messageUs = some us → e.2.1.us = some us := by
    rintro ⟨t, op, t'⟩ us h
    cases op with
    | pass us' r => simp_all [TimeStep.messageUs, TimeOp.us]
    | _ => exact nomatch h
  have hsnapshot : ∀ (e : TimeStep F) us, e.snapshotUs = some us → e.2.1.us = some us := by
    rintro ⟨t, op, t'⟩ us h
    cases op with
    | snapshot Q us' => exact h
    | _ => exact nomatch h
  rw [stamps_eq, uptimes_eq, List.isChain_map, List.isChain_map]
  refine and_congr ?_ ?_
  · exact isChain_congr_of_pairwise
      (times_ordered P profile wdtReset nvs us0 ops hclock hmessage)
      fun a b h => stamp_le_iff h.2
  · exact isChain_congr_of_pairwise
      (times_ordered P profile wdtReset nvs us0 ops hclock hsnapshot)
      fun a b h => uptime_le_iff h.1 h.2

end

def anyReads : SensorReads where
  mv := 2000
  i2cOk := true
  raw0 := 0
  raw1 := 0
  pulses := 0
  rx _ := 0
  uartN := 0

/-- Two messages and a snapshot within an hour of boot. -/
def hourOps : List (TimeOp ℚ) :=
  [.pass 200000 anyReads, .pass 3600000000 anyReads, .snapshot hostPlatform 3600000000]

theorem deviceTime_monotone_hour :
    (stamps hostPlatform .energy false none 0 hourOps).IsChain (· ≤ ·) := by
  refine ((deviceTime_monotone_iff hostPlatform .energy false none 0 hourOps (by decide)).mpr
    ⟨?_, ?_⟩).1
  · have htimes : (timeTrace hostPlatform .energy false none 0 hourOps).filterMap
        TimeStep.messageUs = [200000, 3600000000] := by decide +kernel
    rw [htimes]
    simp [NoCarry, msBetween]
  · have htimes : (timeTrace hostPlatform .energy false none 0 hourOps).filterMap
        TimeStep.snapshotUs = [3600000000] := rfl
    simp [htimes]

/-- A snapshot a millisecond before the counter wraps is followed by one with uptime zero. -/
theorem deviceTime_wraps : ¬ ∀ ops : List (TimeOp ℚ), (clockReadings 0 ops).Pairwise (· ≤ ·) →
    (stamps hostPlatform .energy false none 0 ops).IsChain (· ≤ ·) ∧
      (uptimes hostPlatform .energy false none 0 ops).IsChain (· ≤ ·) := by
  intro h
  obtain ⟨-, huptimes⟩ := h [.snapshot hostPlatform 4294967295000,
    .snapshot hostPlatform 4294967296000] (by decide)
  rw [uptimes_eq] at huptimes
  revert huptimes
  decide

end IotPlatform
