import IotPlatform.RobotHeartbeat

/-!
# The alarm of a sample

The handlers of a sample write the same output record one after the other, each with the alarm rule
of its own use case. The last of them decides: the battery of the tracker, the heartbeat of the
robot.
-/
namespace IotPlatform
open CText CFloat Runs

variable {F : Type} [CFloat F]

/-- What each handler of a chain leaves for the next one. -/
def Handler.chain {σ : Type} (inp : IotUcIn F) : List (Handler F σ) → IotUcOut F → σ →
    List (Ret F σ)
  | [], _, _ => []
  | h :: hs, out, st =>
    let r := h inp out st
    r :: chain inp hs r.out r.st

/-- No handler erases an alarm that an earlier one has raised. -/
def NotErased {σ : Type} (rs : List (Ret F σ)) : Prop :=
  rs.Pairwise fun r r' => r.out.alarm = true → r'.out.alarm = true

/-- The request that a tracker sample hands to its handlers. -/
def trkSampleInput (rssi battMv : Int32) (moving : Bool) : IotUcIn F :=
  let z : IotUcIn F := .zero
  { z with
    i := Function.update (Function.update z.i 0 rssi) 1 battMv
    b := Function.update z.b 0 moving }

def trkChain (rssi battMv : Int32) (moving : Bool) : IotUcOut F → TrkSt → List (Ret F TrkSt) :=
  Handler.chain (trkSampleInput rssi battMv moving) [iotUcTrkBeacon, iotUcTrkMotion, iotUcTrkBatt]

theorem trkChain_getLast (rssi battMv : Int32) (moving : Bool) (out : IotUcOut F) (tr : TrkSt) :
    (trkChain rssi battMv moving out tr).getLast? =
      some (iotUcTrkOnSample rssi battMv moving out tr) := rfl

/-- The request that a UART sample hands to its handlers. -/
def uartSampleInput (n : ℕ) : IotUcIn F :=
  let z : IotUcIn F := .zero
  { z with u := Function.update z.u 0 (UInt32.ofNat n) }

def robotChain (n : ℕ) : IotUcOut F → RobSt → List (Ret F RobSt) :=
  Handler.chain (uartSampleInput n) [iotUcRobotUart, iotUcRobotHb]

theorem robotChain_getLast (n : ℕ) (out : IotUcOut F) (rb : RobSt) :
    (robotChain n out rb).getLast? = some (iotUcRobotOnUart n out rb) := rfl

/-- The alarm of a tracker sample covers the battery and the fence, and no handler has erased it. -/
structure TrkAlarmKept (rssi battMv : Int32) (moving : Bool) (out : IotUcOut F) (tr : TrkSt) :
    Prop where
  covers : let r := iotUcTrkOnSample rssi battMv moving out tr
    r.st.battMv < 3300 ∨ r.st.geoInside = 0 → r.out.alarm = true
  kept : NotErased (trkChain rssi battMv moving out tr)

/-- The alarm of a UART sample covers the stop and the heartbeat, and no handler has erased it. -/
structure RobotAlarmKept (n : ℕ) (out : IotUcOut F) (rb : RobSt) : Prop where
  covers : let r := iotUcRobotOnUart n out rb
    r.st.estop ≠ 0 ∨ 5000 < r.st.hbAgeMs → r.out.alarm = true
  kept : NotErased (robotChain n out rb)

/-- The battery that a sample leaves: a reading that is not positive is no reading. -/
def battAfter (battMv : Int32) (tr : TrkSt) : Int32 := if 0 < battMv then battMv else tr.battMv

theorem trkChain_alarms (rssi battMv : Int32) (moving : Bool) (out : IotUcOut F) (tr : TrkSt) :
    (trkChain rssi battMv moving out tr).map (fun r => r.out.alarm) =
      [decide (tr.battMv < 3300 ∨ tr.geoInside = 0), decide (tr.battMv < 3300 ∨ tr.geoInside = 0),
        decide (battAfter battMv tr < 3300)] := rfl

theorem trkOnSample_st (rssi battMv : Int32) (moving : Bool) (out : IotUcOut F) (tr : TrkSt) :
    let r := iotUcTrkOnSample rssi battMv moving out tr
    r.st.battMv = battAfter battMv tr ∧ r.st.geoInside = tr.geoInside ∧
      r.out.alarm = decide (battAfter battMv tr < 3300) := ⟨rfl, rfl, rfl⟩

/-- A tracker sample reports what it should exactly when the battery it leaves is low, or nothing
was wrong. -/
theorem trkAlarmKept_iff (rssi battMv : Int32) (moving : Bool) (out : IotUcOut F) (tr : TrkSt) :
    TrkAlarmKept rssi battMv moving out tr ↔
      (tr.battMv < 3300 ∨ tr.geoInside = 0 → battAfter battMv tr < 3300) := by
  have hkept : NotErased (trkChain rssi battMv moving out tr) ↔
      (tr.battMv < 3300 ∨ tr.geoInside = 0 → battAfter battMv tr < 3300) := by
    have hp := List.pairwise_map (f := fun r : Ret F TrkSt => r.out.alarm)
      (R := fun a b : Bool => a = true → b = true) (l := trkChain rssi battMv moving out tr)
    rw [trkChain_alarms] at hp
    rw [NotErased, ← hp]
    simp
  obtain ⟨hb, hg, ha⟩ := trkOnSample_st rssi battMv moving out tr
  constructor
  · exact fun h => hkept.mp h.kept
  · refine fun h => ⟨?_, hkept.mpr h⟩
    simp only [hb, hg, ha, decide_eq_true_eq]
    rintro (hlow | hout)
    · exact hlow
    · exact h (Or.inr hout)

/-- The age of the heartbeat that a UART sample leaves. -/
def ageAfter (n : ℕ) (rb : RobSt) : UInt32 :=
  if UInt32.ofNat n = 0 then rb.hbAgeMs + 200 else 0

theorem robotOnUart_st (n : ℕ) (out : IotUcOut F) (rb : RobSt) :
    let r := iotUcRobotOnUart n out rb
    r.st.estop = rb.estop ∧ r.st.hbAgeMs = ageAfter n rb ∧
      r.out.alarm = decide (5000 < ageAfter n rb) := by
  by_cases hn : UInt32.ofNat n = 0
  · simp [iotUcRobotOnUart, iotUcRobotUart, iotUcRobotHb, ageAfter, hn, rbJson]
  · simp [iotUcRobotOnUart, iotUcRobotUart, iotUcRobotHb, ageAfter, hn, rbJson,
      UInt32.pos_iff_ne_zero.mpr hn]

theorem robotChain_alarms (n : ℕ) (out : IotUcOut F) (rb : RobSt) :
    (robotChain n out rb).map (fun r => r.out.alarm) =
      [decide (rb.estop ≠ 0), decide (5000 < ageAfter n rb)] := by
  obtain ⟨-, -, ha⟩ := robotOnUart_st n out rb
  exact congrArg (fun a => [decide (rb.estop ≠ 0), a]) ha

/-- A UART sample reports what it should exactly when the heartbeat it leaves is lost, or the robot
is not stopped. -/
theorem robotAlarmKept_iff (n : ℕ) (out : IotUcOut F) (rb : RobSt) :
    RobotAlarmKept n out rb ↔ (rb.estop ≠ 0 → 5000 < ageAfter n rb) := by
  have hkept : NotErased (robotChain n out rb) ↔ (rb.estop ≠ 0 → 5000 < ageAfter n rb) := by
    have hp := List.pairwise_map (f := fun r : Ret F RobSt => r.out.alarm)
      (R := fun a b : Bool => a = true → b = true) (l := robotChain n out rb)
    rw [robotChain_alarms] at hp
    rw [NotErased, ← hp]
    simp
  obtain ⟨he, hb, ha⟩ := robotOnUart_st n out rb
  constructor
  · exact fun h => hkept.mp h.kept
  · refine fun h => ⟨?_, hkept.mpr h⟩
    simp only [he, hb, ha, decide_eq_true_eq]
    rintro (hstop | hlost)
    · exact h hstop
    · exact hlost

/-- A sample reports its alarms, into whatever record it is handed. -/
def ReportsAlarms (d : Device F) : Op F → Prop
  | .trkSample rssi battMv moving => ∀ out : IotUcOut F, TrkAlarmKept rssi battMv moving out d.tr
  | .robotUart n => ∀ out : IotUcOut F, RobotAlarmKept n out d.rb
  | _ => True

/-- The one condition that the last handler tests holds wherever another asks for an alarm. -/
def LastRaises (d : Device F) : Op F → Prop
  | .trkSample _ battMv _ =>
    d.tr.battMv < 3300 ∨ d.tr.geoInside = 0 → battAfter battMv d.tr < 3300
  | .robotUart n => d.rb.estop ≠ 0 → 5000 < ageAfter n d.rb
  | _ => True

instance (d : Device F) : (op : Op F) → Decidable (LastRaises d op)
  | .trkSample .. => inferInstanceAs (Decidable (_ → _))
  | .robotUart _ => inferInstanceAs (Decidable (_ → _))
  | .command .. | .run .. | .runJson .. | .energyAdc .. | .indSample .. | .pmSample ..
  | .waterSample .. | .evSample .. | .autoFrame .. | .agriSample .. | .coldSample ..
  | .otaProgress .. | .diag .. => .isTrue trivial

theorem lastRaises_iff (d : Device F) (op : Op F) : LastRaises d op ↔ ReportsAlarms d op := by
  cases op with
  | trkSample rssi battMv moving =>
    exact ⟨fun h out => (trkAlarmKept_iff rssi battMv moving out d.tr).mpr h,
      fun h => (trkAlarmKept_iff rssi battMv moving .zero d.tr).mp (h .zero)⟩
  | robotUart n =>
    exact ⟨fun h out => (robotAlarmKept_iff n out d.rb).mpr h,
      fun h => (robotAlarmKept_iff n .zero d.rb).mp (h .zero)⟩
  | _ => exact Iff.rfl

/-- Along a run from boot every sample reports its alarms, exactly when each sample that finds or
leaves a reason for an alarm has its last handler raise one. -/
theorem samples_report_alarms_iff (P : Platform) (profile : Profile) (wdtReset : Bool)
    (nvs : Option NvsImage) (ops : List (Op F)) :
    let tr := trace (Op.apply profile) (appMain P profile wdtReset nvs) ops
    (∀ e ∈ tr, LastRaises e.1 e.2.1) ↔ ∀ e ∈ tr, ReportsAlarms e.1 e.2.1 :=
  (run_trace _ _ ops).forall_iff (I := fun _ => True) (C := fun d op _ => LastRaises d op)
    (fun d op _ _ _ => lastRaises_iff d op) (fun _ _ _ _ _ _ => trivial) trivial

/-- A tracker outside its fence with a full battery reports no alarm. -/
theorem sample_masks_fence : ¬ ∀ ops : List (Op ℚ),
    ∀ e ∈ trace (Op.apply .assetTracker) (appMain hostPlatform .assetTracker false none) ops,
      ReportsAlarms e.1 e.2.1 := by
  intro h
  have hall := h [.runJson hostPlatform
    (txt "\x7b\"uc\":\"tracker.geofence\",\"rssi_lim\":-50\x7d") 40, .trkSample (-62) 3900 false]
  have hlast := hall _ (List.mem_cons_of_mem _ List.mem_cons_self)
  rw [← lastRaises_iff] at hlast
  revert hlast
  decide +kernel

end IotPlatform
