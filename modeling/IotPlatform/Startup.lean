import IotPlatform.Lifecycle

/-!
# The links after a reset

`app_main` starts Wi-Fi with the configuration that it has loaded, waits for an address, and starts
the MQTT client if one comes in time. Operations of the device go on meanwhile. They may change the
stored configuration, and the links see it at the next reset.
-/
namespace IotPlatform
open CText CFloat Runs

/-- `uri` and `client_id` of the MQTT client, and its credentials if there is a user. -/
structure MqttClientCfg where
  uri : Text
  clientId : Text
  login : Option (Text × Text)

def mqttClientCfg (cfg : RuntimeCfg) : MqttClientCfg where
  uri := cfg.mqttUri.text
  clientId := cfg.deviceId.text
  login := if cfg.mqttUser.text = [] then none else some (cfg.mqttUser.text, cfg.mqttPass.text)

/-- `app_main` starts Wi-Fi. -/
def RuntimeCfg.Joins (cfg : RuntimeCfg) : Prop := cfg.provisioned = true ∧ cfg.wifiSsid.text ≠ []

instance (cfg : RuntimeCfg) : Decidable cfg.Joins := inferInstanceAs (Decidable (_ ∧ _))

/-- What `esp_wifi_set_config` and `esp_wifi_start` return. -/
structure RadioAnswers where
  setConfig : ℤ
  start : ℤ

/-- Where `app_main` stands: before `iot_event_wait`, in it, behind it with an address, at the
end. -/
inductive BootPc
  | started | waiting | address | complete
  deriving DecidableEq, Repr

/-- The links with the local `cfg` of `app_main`. `radio` is set once `esp_wifi_start` has been
called, and `client` holds what the MQTT client was made with. -/
structure BootLinks where
  cfg : RuntimeCfg
  pc : BootPc
  links : Links
  radio : Bool
  client : Option MqttClientCfg

/-- `app_main` up to `iot_event_wait`. -/
def BootLinks.boot (cfg : RuntimeCfg) (a : RadioAnswers) : BootLinks :=
  if cfg.Joins then
    { cfg := cfg
      pc := .started
      links := Links.boot.apply
        (.wifiStart (some cfg.wifiSsid.text) (some cfg.wifiPass.text) a.setConfig a.start)
      radio := a.setConfig = 0
      client := none }
  else { cfg := cfg, pc := .complete, links := .boot, radio := false, client := none }

/-- Events of the two clients, and the further steps of `app_main`. -/
inductive LinkStep
  | wifiEvent (e : WifiEvent)
  | mqttEvent (e : MqttEvent)
  | wait
  | timeout
  | mqttStart (a : MqttAnswers)

/-- The station reports events once it is started, the MQTT client while there is one. A bit that is
set during the wait ends it. -/
def BootLinks.step (s : BootLinks) : LinkStep → BootLinks
  | .wifiEvent e =>
    if s.radio then
      let links := s.links.apply (.wifiEvent e)
      { s with
        links := links
        pc := if s.pc = .waiting ∧ EvtHas links.evt iotEvtWifiIp then .address else s.pc }
    else s
  | .mqttEvent e =>
    if s.links.mqtt.client then { s with links := s.links.apply (.mqttEvent e) } else s
  | .wait =>
    if s.pc = .started then
      { s with pc := if EvtHas s.links.evt iotEvtWifiIp then .address else .waiting }
    else s
  | .timeout => if s.pc = .waiting then { s with pc := .complete } else s
  | .mqttStart a =>
    if s.pc = .address then
      { s with
        links := s.links.apply (.mqttStart s.cfg.deviceId a)
        client := if a.client then some (mqttClientCfg s.cfg) else none
        pc := .complete }
    else s

theorem CBuf.store_self {cap : ℕ} (b : CBuf cap) :
    CBuf.store cap b.text = b := by
  have htext : (CBuf.store cap b.text).text = b.text := by
    rw [CBuf.store_text b.noNul]
    exact List.take_of_length_le b.fits
  cases b
  cases hs : CBuf.store cap _
  simp_all

/-- Wi-Fi uses the name and the password of `cfg`, or all is off; a client is made of `cfg` once
`app_main` is through, and subscribes to topics of its id. -/
structure BootLinks.FromBoot (s : BootLinks) : Prop where
  wifi : s.cfg.Joins → s.links.wifi.ssid = s.cfg.wifiSsid ∧ s.links.wifi.pass = s.cfg.wifiPass
  off : ¬ s.cfg.Joins → s.links = .boot ∧ s.pc = .complete ∧ s.radio = false ∧ s.client = none
  client : ∀ c ∈ s.client, c = mqttClientCfg s.cfg
  made : s.links.mqtt.client = true → s.client.isSome = true ∧ s.pc = .complete
  topics : OwnTopics s.cfg.deviceId s.links.mqtt

theorem BootLinks.boot_fromBoot (cfg : RuntimeCfg) (a : RadioAnswers) :
    (BootLinks.boot cfg a).FromBoot := by
  have htopics : OwnTopics cfg.deviceId MqttSt.init := by
    constructor <;> simp [MqttSt.init]
  have hnone : ∀ c ∈ (none : Option MqttClientCfg), c = mqttClientCfg cfg := by
    intro c hc
    cases hc
  unfold BootLinks.boot
  split_ifs with hjoins
  · refine ⟨fun _ => ?_, fun h => absurd hjoins h, hnone, fun h => (by cases h), htopics⟩
    simp only [Links.apply, iotWifiStart, if_neg hjoins.2, Links.onWifi]
    split_ifs <;> exact ⟨CBuf.store_self _, CBuf.store_self _⟩
  · exact ⟨fun h => absurd h hjoins, fun _ => ⟨rfl, rfl, rfl, rfl⟩, hnone, fun h => (by cases h),
      htopics⟩

/-- Events of the station change neither the name nor the password. -/
theorem wifiEvent_credentials (e : WifiEvent) (r : WifiSt × UInt32) :
    (wifiEvent e r).1.ssid = r.1.ssid ∧ (wifiEvent e r).1.pass = r.1.pass := by
  cases e <;> exact ⟨rfl, rfl⟩

theorem BootLinks.step_cfg (s : BootLinks) (e : LinkStep) : (s.step e).cfg = s.cfg := by
  cases e <;> (simp only [BootLinks.step]; split_ifs <;> rfl)

theorem BootLinks.FromBoot.step {s : BootLinks} (h : s.FromBoot) (e : LinkStep) :
    (s.step e).FromBoot := by
  obtain ⟨hwifi, hoff, hclient, hmade, htopics⟩ := h
  cases e with
  | wifiEvent e =>
    simp only [BootLinks.step]
    by_cases hradio : s.radio = true
    · rw [if_pos hradio]
      obtain ⟨hname, hpass⟩ := wifiEvent_credentials e (s.links.wifi, s.links.evt)
      refine ⟨fun hj => ⟨hname.trans (hwifi hj).1, hpass.trans (hwifi hj).2⟩, fun hn => ?_, hclient,
        fun hc => ?_, htopics⟩
      · simp [(hoff hn).2.2.1] at hradio
      · obtain ⟨hsome, hcomplete⟩ := hmade hc
        exact ⟨hsome, by simp [hcomplete]⟩
    · rw [if_neg hradio]
      exact ⟨hwifi, hoff, hclient, hmade, htopics⟩
  | mqttEvent e =>
    simp only [BootLinks.step]
    split_ifs with hup
    · have hsame : (s.links.apply (.mqttEvent e)).mqtt.client = s.links.mqtt.client := by
        cases e <;> rfl
      refine ⟨hwifi, fun hn => ?_, hclient, fun hc => hmade (hsame ▸ hc), htopics.step hup⟩
      have hnone := (hoff hn).2.2.2
      simp [hnone] at hmade
      simp [hmade] at hup
    · exact ⟨hwifi, hoff, hclient, hmade, htopics⟩
  | wait =>
    simp only [BootLinks.step]
    by_cases hpc : s.pc = .started
    · rw [if_pos hpc]
      have hnot : ¬ s.links.mqtt.client = true := fun hc => by simp [(hmade hc).2] at hpc
      refine ⟨hwifi, fun hn => ?_, hclient, fun hc => absurd hc hnot, htopics⟩
      simp [(hoff hn).2.1] at hpc
    · rw [if_neg hpc]
      exact ⟨hwifi, hoff, hclient, hmade, htopics⟩
  | timeout =>
    simp only [BootLinks.step]
    split_ifs
    · exact ⟨hwifi, fun hn => ⟨(hoff hn).1, rfl, (hoff hn).2.2⟩, hclient,
        fun hc => ⟨(hmade hc).1, rfl⟩, htopics⟩
    · exact ⟨hwifi, hoff, hclient, hmade, htopics⟩
  | mqttStart a =>
    simp only [BootLinks.step]
    split_ifs with hpc ha
    · refine ⟨hwifi, fun hn => ?_, ?_, fun _ => ⟨rfl, rfl⟩, htopics.step rfl⟩
      · simp [(hoff hn).2.1] at hpc
      · rintro c ⟨⟩
        rfl
    · refine ⟨hwifi, fun hn => ?_, fun c hc => (by cases hc), fun hc => ?_, htopics.step rfl⟩
      · simp [(hoff hn).2.1] at hpc
      · simp [Links.apply, iotMqttStart, ha] at hc
    · exact ⟨hwifi, hoff, hclient, hmade, htopics⟩

/-- After the end of `app_main` no client is made. -/
theorem BootLinks.step_complete {s : BootLinks} (h : s.pc = .complete) (e : LinkStep) :
    (s.step e).pc = .complete ∧ (s.step e).client = s.client := by
  cases e <;> (simp only [BootLinks.step, h]; split_ifs <;> simp_all)

structure Node (F : Type) where
  dev : Device F
  net : BootLinks

/-- An operation of the device, a step of the links, or a reset. -/
inductive NodeOp (F : Type)
  | op (o : Op F)
  | link (e : LinkStep)
  | reset (P : Platform) (wdtReset : Bool) (a : RadioAnswers)

def NodeOp.IsReset {F : Type} : NodeOp F → Prop
  | .reset .. => True
  | _ => False

def NodeOp.linkStep {F : Type} : NodeOp F → Option LinkStep
  | .link e => some e
  | _ => none

/-- The local `cfg` of `app_main`, with the default id where it takes one. -/
def bootCfg (P : Platform) (nvs : Option NvsImage) : RuntimeCfg :=
  adopted P (iotConfigLoad P zeroCfg (iotConfigInit ⟨false, zeroCfg, nvs⟩).2).2.1

variable {F : Type} [CFloat F]

def Node.boot (P : Platform) (profile : Profile) (wdtReset : Bool) (a : RadioAnswers)
    (nvs : Option NvsImage) : Node F :=
  ⟨appMain P profile wdtReset nvs, .boot (bootCfg P nvs) a⟩

/-- The end of the wait without an address is noted as a diagnostic event. -/
def Node.notes (s : Node F) : LinkStep → Option (Op F)
  | .timeout => if s.net.pc = .waiting then some (.diag diagWifiConnectFail) else none
  | _ => none

def Node.apply (profile : Profile) (s : Node F) : NodeOp F → Node F
  | .op o => { s with dev := o.apply profile s.dev }
  | .link e => ⟨(s.notes e).elim s.dev (Op.apply profile s.dev), s.net.step e⟩
  | .reset P wdtReset a => .boot P profile wdtReset a s.dev.sys.cfg.nvs

/-- Until the next reset the links go through their own steps, whatever the device executes. -/
theorem Node.run_links (profile : Profile) {ops : List (NodeOp F)}
    (hops : ∀ e ∈ ops, ¬ e.IsReset) (s : Node F) :
    (ops.foldl (Node.apply profile) s).net =
      (ops.filterMap NodeOp.linkStep).foldl BootLinks.step s.net := by
  induction ops generalizing s with
  | nil => rfl
  | cons e ops ih =>
    obtain ⟨he, hops⟩ := List.forall_mem_cons.mp hops
    rw [List.foldl_cons, ih hops]
    cases e with
    | op o => rfl
    | link e => rfl
    | reset P w a => exact absurd trivial he

theorem Node.run_cfg (profile : Profile) {ops : List (NodeOp F)} (hops : ∀ e ∈ ops, ¬ e.IsReset)
    (s : Node F) : (ops.foldl (Node.apply profile) s).net.cfg = s.net.cfg := by
  rw [Node.run_links profile hops]
  exact List.foldlRecOn (motive := fun n : BootLinks => n.cfg = s.net.cfg) _ BootLinks.step rfl
    fun n hn e _ => (n.step_cfg e).trans hn

theorem Node.run_fromBoot (profile : Profile) (ops : List (NodeOp F)) {s : Node F}
    (h : s.net.FromBoot) : (ops.foldl (Node.apply profile) s).net.FromBoot := by
  refine List.foldlRecOn (motive := fun s : Node F => s.net.FromBoot) ops _ h ?_
  intro s hs e _
  cases e with
  | op o => exact hs
  | link e => exact hs.step e
  | reset P w a => exact BootLinks.boot_fromBoot _ _

/-- In every run, with any operations, link events and resets, the links use what `app_main` loaded
at the last reset. Up to the next one they go through what the link events alone would give, and a
device that comes to the end of `app_main` without an MQTT client has none. -/
theorem links_come_from_boot (profile : Profile) (P : Platform) (wdtReset : Bool)
    (a : RadioAnswers) (nvs : Option NvsImage) (ops more : List (NodeOp F))
    (hmore : ∀ e ∈ more, ¬ e.IsReset) :
    let s := ops.foldl (Node.apply profile) (Node.boot P profile wdtReset a nvs)
    let s' := more.foldl (Node.apply profile) s
    s.net.FromBoot ∧ s'.net = (more.filterMap NodeOp.linkStep).foldl BootLinks.step s.net ∧
      s'.net.cfg = s.net.cfg ∧ (s.net.pc = .complete → s'.net.client = s.net.client) := by
  intro s s'
  have hlinks := Node.run_links profile hmore s
  refine ⟨Node.run_fromBoot profile ops (BootLinks.boot_fromBoot _ _), hlinks,
    Node.run_cfg profile hmore s, fun hpc => ?_⟩
  have hclient := List.foldlRecOn
    (motive := fun n : BootLinks => n.pc = .complete ∧ n.client = s.net.client)
    (more.filterMap NodeOp.linkStep) BootLinks.step ⟨hpc, rfl⟩ fun n hn e _ =>
      ⟨(n.step_complete hn.1 e).1, (n.step_complete hn.1 e).2.trans hn.2⟩
  exact (congrArg BootLinks.client hlinks).trans hclient.2

/-- Flash of a device that has been given a network. -/
def homeImage : NvsImage :=
  { NvsImage.empty with
    wifiSsid := some (CBuf.store 33 (txt "home"))
    provisioned := some 1 }

/-- The steps of the links on the way online. -/
def goesOnline : List (NodeOp ℚ) :=
  [.link .wait, .link (.wifiEvent (.gotIp fun _ => 10)), .link (.mqttStart ⟨true, 0, true⟩)]

/-- The device is online when its configuration is erased, and stays online. -/
theorem erased_device_stays_online :
    let s : Node ℚ := goesOnline.foldl (Node.apply .water)
      (Node.boot (macPlatform fun _ => 1) .water false ⟨0, 0⟩ (some homeImage))
    let s' := [.op (.run hostPlatform .pltFactoryReset .zero), .link (.mqttEvent .connected)].foldl
      (Node.apply .water) s
    s.net.client.isSome = true ∧ s'.net.client = s.net.client := by
  intro s s'
  have hpc : s.net.pc = .complete := by decide +kernel
  obtain ⟨-, -, -, hclient⟩ := links_come_from_boot (F := ℚ) .water (macPlatform fun _ => 1) false
    ⟨0, 0⟩ (some homeImage) goesOnline [.op (.run hostPlatform .pltFactoryReset .zero),
      .link (.mqttEvent .connected)] (by simp [NodeOp.IsReset])
  exact ⟨by decide +kernel, hclient hpc⟩

end IotPlatform
