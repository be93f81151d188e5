import IotPlatform.Links
import IotPlatform.Runs

/-!
# The event bits and the links they stand for

The Wi-Fi bit follows the Wi-Fi state in every run. The MQTT bit is also cleared by the Wi-Fi
module, and the MQTT module changes its state in four places without it. The BLE bit is never
cleared.
-/
namespace IotPlatform
open CText Runs

structure Links where
  wifi : WifiSt
  mqtt : MqttSt
  evt : UInt32

/-- Events of the two clients and calls of the two modules. -/
inductive LinkOp
  | wifiEvent (e : WifiEvent)
  | wifiStart (ssid pass : Option Text) (setConfig start : ℤ)
  | wifiStop
  | mqttEvent (e : MqttEvent)
  | mqttStart (deviceId : CBuf 32) (a : MqttAnswers)
  | mqttStop

def Links.onWifi (s : Links) (r : WifiSt × UInt32) : Links := { s with wifi := r.1, evt := r.2 }

def Links.onMqtt (s : Links) (r : MqttSt × UInt32) : Links := { s with mqtt := r.1, evt := r.2 }

def Links.apply (s : Links) : LinkOp → Links
  | .wifiEvent e => s.onWifi (wifiEvent e (s.wifi, s.evt))
  | .wifiStart ssid pass setConfig start =>
    s.onWifi (iotWifiStart ssid pass setConfig start (s.wifi, s.evt)).2
  | .wifiStop => s.onWifi (iotWifiStop (s.wifi, s.evt))
  | .mqttEvent e => s.onMqtt (mqttLinkEvent e (s.mqtt, s.evt))
  | .mqttStart deviceId a => { s with mqtt := (iotMqttStart deviceId a s.mqtt).2 }
  | .mqttStop => { s with mqtt := iotMqttStop s.mqtt }

/-- Each bit is set while its link is up. -/
def Links.Mirrored (s : Links) : Prop :=
  (EvtHas s.evt iotEvtWifiIp ↔ s.wifi.state = .ipReady) ∧
    (EvtHas s.evt iotEvtMqttUp ↔ s.mqtt.state = .up)

/-- The modules after their init, on a fresh event group. -/
def Links.boot : Links := ⟨.init, .init, 0⟩

/-- The steps that take Wi-Fi to another state than IP_READY. -/
def LinkOp.DropsWifi : LinkOp → Prop
  | .wifiEvent .staStart | .wifiEvent .staConnected | .wifiEvent .staDisconnected => True
  | .wifiStart ssid _ _ _ => ∃ t, ssid = some t ∧ t ≠ []
  | .wifiStop => True
  | _ => False

/-- The steps that change the MQTT state without its bit. -/
def LinkOp.ForgetsBit : LinkOp → Prop
  | .mqttEvent .error => True
  | .mqttStart _ a => a.client = true
  | .mqttStop => True
  | _ => False

/-- A Wi-Fi step to IP_READY sets its bit; one to another state clears both bits. -/
theorem wifiSetState_spec (st : WifiState) (r : WifiSt × UInt32) :
    (wifiSetState st r).1.state = st ∧
      (EvtHas (wifiSetState st r).2 iotEvtWifiIp ↔ st = .ipReady) ∧
      (EvtHas (wifiSetState st r).2 iotEvtMqttUp ↔ st = .ipReady ∧ EvtHas r.2 iotEvtMqttUp) := by
  unfold wifiSetState
  by_cases h : st = .ipReady
  · simp only [h, true_and, if_true, iff_true]
    exact ⟨evtHas_set (by decide), evtHas_set_other (by decide)⟩
  · simp only [h, if_false, iff_false, false_and, true_and]
    exact ⟨not_evtHas_clear (by decide), not_evtHas_clear (by decide)⟩

theorem wifiSetState_drops {st : WifiState} (h : st ≠ .ipReady) (r : WifiSt × UInt32) :
    (wifiSetState st r).1.state ≠ .ipReady ∧ ¬ EvtHas (wifiSetState st r).2 iotEvtWifiIp ∧
      ¬ EvtHas (wifiSetState st r).2 iotEvtMqttUp := by
  obtain ⟨hstate, hip, hup⟩ := wifiSetState_spec st r
  exact ⟨by rwa [hstate], mt hip.mp h, fun h' => h (hup.mp h').1⟩

section
variable {s : Links} {op : LinkOp}

theorem apply_drops (h : op.DropsWifi) : (s.apply op).mqtt = s.mqtt ∧
    (s.apply op).wifi.state ≠ .ipReady ∧ ¬ EvtHas (s.apply op).evt iotEvtWifiIp ∧
      ¬ EvtHas (s.apply op).evt iotEvtMqttUp := by
  have hconnecting : WifiState.connecting ≠ .ipReady := by decide
  cases op with
  | wifiEvent e =>
    cases e with
    | staStart => exact ⟨rfl, wifiSetState_drops hconnecting _⟩
    | staConnected =>
      have hconnected : WifiState.connected ≠ .ipReady := by decide
      exact ⟨rfl, wifiSetState_drops hconnected (s.wifi, s.evt)⟩
    | staDisconnected => exact ⟨rfl, wifiSetState_drops hconnecting _⟩
    | gotIp | other => exact h.elim
  | wifiStart ssid pass setConfig start =>
    obtain ⟨t, rfl, ht⟩ := h
    refine ⟨rfl, ?_⟩
    simp only [Links.apply, iotWifiStart, if_neg ht, Links.onWifi]
    split_ifs
    · exact wifiSetState_drops (by decide) _
    · exact wifiSetState_drops hconnecting _
  | wifiStop => exact ⟨rfl, wifiSetState_drops (by decide) _⟩
  | mqttEvent | mqttStart | mqttStop => exact h.elim

theorem apply_forgets (h : op.ForgetsBit) : (s.apply op).mqtt.state ≠ .up ∧
    (s.apply op).wifi = s.wifi ∧ (s.apply op).evt = s.evt := by
  cases op with
  | mqttEvent e =>
    cases e with
    | error => exact ⟨by simp [Links.apply, mqttLinkEvent, Links.onMqtt], rfl, rfl⟩
    | connected | disconnected | data | other => exact h.elim
  | mqttStart deviceId a =>
    have ha : a.client = true := h
    refine ⟨?_, rfl, rfl⟩
    simp only [Links.apply, iotMqttStart, ha, Bool.not_true, Bool.false_eq_true, if_false]
    split_ifs <;> simp
  | mqttStop => exact ⟨by simp [Links.apply, iotMqttStop], rfl, rfl⟩
  | wifiEvent | wifiStart | wifiStop => exact h.elim

/-- Every other step keeps both bits in step with their links. -/
theorem apply_mirrored (hs : s.Mirrored) (hdrop : ¬ op.DropsWifi) (hforget : ¬ op.ForgetsBit) :
    (s.apply op).Mirrored := by
  obtain ⟨hip, hup⟩ := hs
  cases op with
  | wifiEvent e =>
    cases e with
    | gotIp ip =>
      obtain ⟨hstate, hip', hup'⟩ := wifiSetState_spec .ipReady
        ({ s.wifi with ip := CBuf.store 16 (ipText ip) }, s.evt)
      exact ⟨iff_of_true (hip'.mpr rfl) hstate, (hup'.trans (and_iff_right rfl)).trans hup⟩
    | other => exact ⟨hip, hup⟩
    | staStart | staConnected | staDisconnected => exact absurd trivial hdrop
  | wifiStart ssid pass setConfig start =>
    cases ssid with
    | none => exact ⟨hip, hup⟩
    | some t =>
      have ht : t = [] := by
        by_contra hne
        exact hdrop ⟨t, rfl, hne⟩
      subst ht
      exact ⟨hip, hup⟩
  | mqttEvent e =>
    cases e with
    | connected =>
      exact ⟨(evtHas_set_other (by decide)).trans hip, iff_of_true (evtHas_set (by decide)) rfl⟩
    | disconnected =>
      exact ⟨(evtHas_clear_other (by decide)).trans hip,
        iff_of_false (not_evtHas_clear (by decide)) (by
          simp [Links.apply, mqttLinkEvent, Links.onMqtt])⟩
    | data | other => exact ⟨hip, hup⟩
    | error => exact absurd trivial hforget
  | mqttStart deviceId a =>
    have ha : a.client = false := by simpa [LinkOp.ForgetsBit] using hforget
    have hst : (iotMqttStart deviceId a s.mqtt).2.state = s.mqtt.state := by
      simp [iotMqttStart, ha]
    refine ⟨hip, ?_⟩
    simp only [Links.apply, hst]
    exact hup
  | wifiStop => exact absurd trivial hdrop
  | mqttStop => exact absurd trivial hforget

theorem apply_mirrored_iff (hs : s.Mirrored) : (s.apply op).Mirrored ↔
    (s.mqtt.state = .up → ¬ op.DropsWifi ∧ ¬ op.ForgetsBit) := by
  by_cases hdrop : op.DropsWifi
  · obtain ⟨hmqtt, hwifi, hip, hup⟩ := apply_drops (s := s) hdrop
    simp only [Links.Mirrored, hmqtt, hip, hwifi, hup, hdrop]
    simp
  · by_cases hforget : op.ForgetsBit
    · obtain ⟨hmqtt, hwifi, hevt⟩ := apply_forgets (s := s) hforget
      simp only [Links.Mirrored, hmqtt, hwifi, hevt, hs.1, hs.2, hforget]
      simp
    · exact iff_of_true (apply_mirrored hs hdrop hforget) fun _ => ⟨hdrop, hforget⟩

end

/-- Along a run the bits mirror the links, exactly when Wi-Fi is not lost, the client reports no
error and the module is not started or stopped while MQTT is up. -/
theorem links_mirrored_iff {s : Links} (hs : s.Mirrored) (ops : List LinkOp) :
    (∀ e ∈ trace Links.apply s ops,
      e.1.mqtt.state = .up → ¬ e.2.1.DropsWifi ∧ ¬ e.2.1.ForgetsBit) ↔
      ∀ e ∈ trace Links.apply s ops, e.2.2.Mirrored := by
  refine (run_trace _ _ ops).forall_iff (I := Links.Mirrored)
    (C := fun s op _ => s.mqtt.state = .up → ¬ op.DropsWifi ∧ ¬ op.ForgetsBit)
    (G := fun _ _ s' => s'.Mirrored) ?_ ?_ hs
  · rintro s op s' hi rfl
    exact (apply_mirrored_iff hi).symm
  · rintro s op s' hi rfl hc
    exact (apply_mirrored_iff hi).mpr hc

theorem boot_mirrored : Links.boot.Mirrored :=
  ⟨iff_of_false (by decide) (by decide), iff_of_false (by decide) (by decide)⟩

theorem connecting_links_mirrored : Links.boot.Mirrored ∧
    ∀ e ∈ trace Links.apply Links.boot [.wifiStart (some (txt "home")) none 0 0,
      .wifiEvent .staStart, .wifiEvent .staConnected, .wifiEvent (.gotIp fun _ => 10),
      .mqttEvent .connected], e.2.2.Mirrored := by
  refine ⟨boot_mirrored, (links_mirrored_iff boot_mirrored _).mp ?_⟩
  have hdown : ∀ e ∈ trace Links.apply Links.boot [.wifiStart (some (txt "home")) none 0 0,
      .wifiEvent .staStart, .wifiEvent .staConnected, .wifiEvent (.gotIp fun _ => 10),
      .mqttEvent .connected], e.1.mqtt.state = .down := by
    simp only [trace, List.forall_mem_cons, List.not_mem_nil, false_imp_iff, implies_true,
      and_true]
    decide
  exact fun e he hup => absurd ((hdown e he).symm.trans hup) (by decide)

/-- An error of the client after it has connected leaves the MQTT bit set. -/
theorem client_error_keeps_bit : ¬ ∀ e ∈ trace Links.apply Links.boot
    [.wifiStart (some (txt "home")) none 0 0, .wifiEvent .staStart, .wifiEvent .staConnected,
      .wifiEvent (.gotIp fun _ => 10), .mqttStart (CBuf.store 32 (txt "dev"))
      ⟨true, 0, true⟩, .mqttEvent .connected, .mqttEvent .error], e.2.2.Mirrored := by
  intro h
  simp only [trace, List.forall_mem_cons] at h
  obtain ⟨-, -, -, -, -, -, ⟨-, hup⟩, -⟩ := h
  exact absurd (hup.mp (by decide)) (by decide)

/-- GAP events, and the calls that start and stop advertising. -/
inductive BleOp
  | gap (e : GapEvent)
  | startAdvertising (rc : ℤ)
  | stopAdvertising

def bleApply (s : BleSt × UInt32) : BleOp → BleSt × UInt32
  | .gap e => gapEvent e s
  | .startAdvertising rc => ((iotBleStartAdvertising rc s.1).2, s.2)
  | .stopAdvertising => (iotBleStopAdvertising s.1, s.2)

/-- The bit, the flag and the state tell the same. -/
def BleAgrees (s : BleSt × UInt32) : Prop :=
  (EvtHas s.2 iotEvtBleConn ↔ s.1.connected = true) ∧
    (s.1.connected = true ↔ s.1.state = .connected)

/-- The steps that a connection does not survive in all three places. -/
def BleOp.EndsConnection : BleOp → Prop
  | .gap (.connect status _ _) => status ≠ 0
  | .gap (.disconnect _) => True
  | .gap .other => False
  | .startAdvertising rc => rc = 0 ∨ rc = bleHsEalready
  | .stopAdvertising => True

theorem startAdvertising_spec (rc : ℤ) (b : BleSt) :
    (iotBleStartAdvertising rc b).2 =
      if rc = 0 ∨ rc = bleHsEalready then { b with state := .advertising } else b := by
  unfold iotBleStartAdvertising
  by_cases h : rc = 0 ∨ rc = bleHsEalready
  · rw [if_pos h, if_neg (fun hn => h.elim hn.1 hn.2)]
  · rw [if_neg h, if_pos (not_or.mp h)]

/-- Advertising that follows a change to ADVERTISING makes no difference. -/
theorem startAdvertising_again (rc : ℤ) {b : BleSt} (h : b.state = .advertising) :
    (iotBleStartAdvertising rc b).2 = b := by
  rw [startAdvertising_spec]
  split_ifs
  · rw [← h]
  · rfl

section
variable {s : BleSt × UInt32} {op : BleOp}

/-- A step that ends the connection leaves the bit, and CONNECTED for another state. -/
theorem bleApply_ends (h : op.EndsConnection) :
    (bleApply s op).2 = s.2 ∧ (bleApply s op).1.state ≠ .connected := by
  cases op with
  | gap e =>
    cases e with
    | connect status handle rc =>
      have hstatus : status ≠ 0 := h
      simp only [bleApply, gapEvent, if_neg hstatus, startAdvertising_again]
      simp
    | disconnect rc =>
      simp only [bleApply, gapEvent, startAdvertising_again]
      simp
    | other => exact h.elim
  | startAdvertising rc =>
    have hrc : rc = 0 ∨ rc = bleHsEalready := h
    simp only [bleApply, startAdvertising_spec, if_pos hrc]
    simp
  | stopAdvertising => simp [bleApply, iotBleStopAdvertising]

theorem bleApply_connected (h : op.EndsConnection) :
    (bleApply s op).1.connected = true → s.1.connected = true := by
  cases op with
  | gap e =>
    cases e with
    | connect status handle rc =>
      have hstatus : status ≠ 0 := h
      simp only [bleApply, gapEvent, if_neg hstatus, startAdvertising_again]
      exact id
    | disconnect rc => simp [bleApply, gapEvent, startAdvertising_again]
    | other => exact id
  | startAdvertising rc =>
    simp only [bleApply, startAdvertising_spec]
    split_ifs <;> exact id
  | stopAdvertising => exact id

theorem bleApply_agrees_iff (hs : BleAgrees s) :
    BleAgrees (bleApply s op) ↔ (s.1.connected = true → ¬ op.EndsConnection) := by
  by_cases h : op.EndsConnection
  · obtain ⟨hevt, hstate⟩ := bleApply_ends (s := s) h
    have hconn := bleApply_connected (s := s) h
    constructor
    · rintro ⟨hbit, hflag⟩ hc
      -- the bit still tells of a connection
      exact absurd (hflag.mp (hbit.mp (hevt ▸ hs.1.mpr hc))) hstate
    · intro hno
      have hc : ¬ s.1.connected = true := fun hc => hno hc h
      exact ⟨iff_of_false (by rw [hevt]; exact mt hs.1.mp hc) (mt hconn hc),
        iff_of_false (mt hconn hc) hstate⟩
  · refine iff_of_true ?_ fun _ => h
    cases op with
    | gap e =>
      cases e with
      | connect status handle rc =>
        have hstatus : status = 0 := not_not.mp h
        simp only [bleApply, gapEvent, if_pos hstatus]
        exact ⟨iff_of_true (evtHas_set (by decide)) rfl, iff_of_true rfl rfl⟩
      | disconnect => exact absurd trivial h
      | other => exact hs
    | startAdvertising rc =>
      have hrc : ¬ (rc = 0 ∨ rc = bleHsEalready) := h
      simp only [bleApply, startAdvertising_spec, if_neg hrc]
      exact hs
    | stopAdvertising => exact absurd trivial h

end

/-- Along a run after `iot_ble_init` the bit, the flag and the state agree, exactly when no
connection is ever followed by a disconnect, a failed connect, or a change of advertising. -/
theorem ble_agrees_iff (evt : UInt32) (hevt : ¬ EvtHas evt iotEvtBleConn) (ops : List BleOp) :
    (∀ e ∈ trace bleApply (.init, evt) ops,
      e.1.1.connected = true → ¬ e.2.1.EndsConnection) ↔
      ∀ e ∈ trace bleApply (.init, evt) ops, BleAgrees e.2.2 := by
  refine (run_trace _ _ ops).forall_iff (I := BleAgrees)
    (C := fun s op _ => s.1.connected = true → ¬ op.EndsConnection)
    (G := fun _ _ s' => BleAgrees s') ?_ ?_ ?_
  · rintro s op s' hi rfl
    exact (bleApply_agrees_iff hi).symm
  · rintro s op s' hi rfl hc
    exact (bleApply_agrees_iff hi).mpr hc
  · have hflag : ¬ BleSt.init.connected = true := by decide
    exact ⟨iff_of_false hevt hflag, iff_of_false hflag (by simp [BleSt.init])⟩

theorem refused_connect_agrees : ¬ EvtHas 0 iotEvtBleConn ∧ ∀ e ∈ trace bleApply (.init, 0)
    [.startAdvertising 0, .gap (.connect 13 0 0), .gap (.connect 0 1 0)], BleAgrees e.2.2 := by
  refine ⟨by decide, (ble_agrees_iff 0 (by decide) _).mp ?_⟩
  have hno : ∀ e ∈ trace bleApply (.init, 0) [.startAdvertising 0, .gap (.connect 13 0 0),
      .gap (.connect 0 1 0)], e.1.1.connected = false := by
    simp only [trace, List.forall_mem_cons, List.not_mem_nil, false_imp_iff, implies_true,
      and_true]
    decide
  exact fun e he hc => absurd ((hno e he).symm.trans hc) (by decide)

/-- After a connection has ended its bit is still set. -/
theorem disconnect_keeps_bit : ¬ ∀ e ∈ trace bleApply (.init, 0)
    [.gap (.connect 0 1 0), .gap (.disconnect 0)], BleAgrees e.2.2 := by
  intro h
  obtain ⟨hbit, -⟩ := h _ (List.mem_cons_of_mem _ List.mem_cons_self)
  have hset : EvtHas 4 iotEvtBleConn := by decide
  exact absurd (hbit.mp hset) (by decide)

end IotPlatform
