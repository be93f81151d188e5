import IotPlatform.Connectivity
import IotPlatform.UcPlatform

/-!
# Device ids and topics

The default id spells the MAC address. A topic is made of the id and a suffix, which can be told
apart again as long as the id has no slash in it.
-/
namespace IotPlatform
open CText Runs

/-- The text that `iot_security_default_device_id` prints for a MAC address. -/
def macId (mac : Fin 6 → UInt8) : Text :=
  txt "c3-" ++ (List.finRange 6).flatMap fun i => hexByte (mac i)

theorem hexDigit_injOn : ∀ m < 16, ∀ n < 16, hexDigit m = hexDigit n → m = n := by
  decide

theorem hexByte_injective : Function.Injective hexByte := by
  intro a b h
  have ha := a.toNat_lt
  have hb := b.toNat_lt
  obtain ⟨hhigh, hlow⟩ : hexDigit (a.toNat / 16) = hexDigit (b.toNat / 16) ∧
      hexDigit (a.toNat % 16) = hexDigit (b.toNat % 16) := by
    simpa [hexByte] using h
  have hhigh := hexDigit_injOn _ (by omega) _ (by omega) hhigh
  have hlow := hexDigit_injOn _ (by omega) _ (by omega) hlow
  exact UInt8.toNat_inj.mp (by omega)

theorem hexDigit_bytes : ∀ n < 16, hexDigit n ≠ 0 ∧ hexDigit n ≠ 47 ∧ hexDigit n ≠ 117 := by
  decide

theorem hexByte_bytes (b : UInt8) : ∀ c ∈ hexByte b, c ≠ 0 ∧ c ≠ 47 ∧ c ≠ 117 := by
  have hb := b.toNat_lt
  simp only [hexByte, List.mem_cons, List.not_mem_nil, or_false, forall_eq_or_imp, forall_eq]
  exact ⟨hexDigit_bytes _ (by omega), hexDigit_bytes _ (by omega)⟩

theorem macId_injective : Function.Injective macId := by
  intro mac mac' h
  have hparts : ∀ m : Fin 6 → UInt8, macId m = txt "c3-" ++ (hexByte (m 0) ++ (hexByte (m 1) ++
      (hexByte (m 2) ++ (hexByte (m 3) ++ (hexByte (m 4) ++ hexByte (m 5)))))) := by
    intro m
    simp [macId, List.finRange_succ]
  have hlen : ∀ b, (hexByte b).length = 2 := fun _ => rfl
  rw [hparts, hparts, List.append_cancel_left_eq] at h
  obtain ⟨h0, h⟩ := List.append_inj h (by simp [hlen])
  obtain ⟨h1, h⟩ := List.append_inj h (by simp [hlen])
  obtain ⟨h2, h⟩ := List.append_inj h (by simp [hlen])
  obtain ⟨h3, h⟩ := List.append_inj h (by simp [hlen])
  obtain ⟨h4, h5⟩ := List.append_inj h (by simp [hlen])
  funext i
  fin_cases i
  · exact hexByte_injective h0
  · exact hexByte_injective h1
  · exact hexByte_injective h2
  · exact hexByte_injective h3
  · exact hexByte_injective h4
  · exact hexByte_injective h5

theorem macId_length (mac : Fin 6 → UInt8) : (macId mac).length = 15 := by
  simp [macId, hexByte, txt, List.finRange_succ]

/-- No NUL, no slash and no `u` stands in a default id. -/
theorem macId_bytes (mac : Fin 6 → UInt8) : ∀ c ∈ macId mac, c ≠ 0 ∧ c ≠ 47 ∧ c ≠ 117 := by
  intro c hc
  rcases List.mem_append.mp hc with hc | hc
  · have hprefix : ∀ b ∈ txt "c3-", b ≠ 0 ∧ b ≠ 47 ∧ b ≠ 117 := by
      decide +kernel
    exact hprefix c hc
  · obtain ⟨i, -, hi⟩ := List.mem_flatMap.mp hc
    exact hexByte_bytes _ c hi

theorem iotSecurityDefaultDeviceId_mac {P : Platform} (hb : P.build = .target)
    {mac : Fin 6 → UInt8} (hmac : P.mac = some mac) (out : CBuf 32) :
    (iotSecurityDefaultDeviceId P out).text = macId mac := by
  have h0 : (0 : UInt8) ∉ macId mac := fun h => (macId_bytes mac 0 h).1 rfl
  have hid : iotSecurityDefaultDeviceId P out = CBuf.store 32 (macId mac) := by
    simp [iotSecurityDefaultDeviceId, hb, hmac, macId]
  rw [hid, CBuf.store_text h0]
  exact List.take_of_length_le (by rw [macId_length]; decide)

/-- A text is split at the first separator in one way. -/
theorem append_sep_inj {sep : UInt8} {a a' b b' : Text} (ha : sep ∉ a) (ha' : sep ∉ a') :
    a ++ sep :: b = a' ++ sep :: b' ↔ a = a' ∧ b = b' := by
  constructor
  · intro h
    have hsplit : ∀ {a b : Text}, sep ∉ a → (a ++ sep :: b).takeWhile (· != sep) = a := by
      intro a b ha
      rw [List.takeWhile_append_of_pos]
      · simp
      · intro c hc
        simpa using fun he : c = sep => ha (he ▸ hc)
    have heq : a = a' := by rw [← hsplit (b := b) ha, h, hsplit ha']
    subst heq
    exact ⟨rfl, (List.cons.inj (List.append_cancel_left h)).2⟩
  · rintro ⟨rfl, rfl⟩
    rfl

/-- The topic of a device id that fits its array, for a suffix that is not too long. -/
theorem iotMqttBuildTopic_eq (id : CBuf 32) {suffix : Text} (h : suffix.length ≤ 56) :
    iotMqttBuildTopic 96 id.text suffix = txt "device/" ++ (id.text ++ 47 :: suffix) := by
  have hfits := id.fits
  have htxt : txt "/" ++ suffix = 47 :: suffix := rfl
  rw [iotMqttBuildTopic, snprintf, List.append_assoc, List.append_assoc, htxt]
  refine List.take_of_length_le ?_
  simp only [List.length_append, List.length_cons, show (txt "device/").length = 7 from rfl]
  omega

theorem iotMqttBuildTopic_inj {id id' : CBuf 32} {suffix suffix' : Text} (hid : 47 ∉ id.text)
    (hid' : 47 ∉ id'.text) (h : suffix.length ≤ 56) (h' : suffix'.length ≤ 56) :
    iotMqttBuildTopic 96 id.text suffix = iotMqttBuildTopic 96 id'.text suffix' ↔
      id.text = id'.text ∧ suffix = suffix' := by
  rw [iotMqttBuildTopic_eq id h, iotMqttBuildTopic_eq id' h', List.append_cancel_left_eq,
    append_sep_inj hid hid']

/-- `iot_mqtt_publish_telemetry`: the code, and the topic of the message if one goes out; `mid` is
the answer of the client. -/
def iotMqttPublishTelemetry (mid : ℤ) (m : MqttSt) : IotErr × Option Text :=
  if m.client = false ∨ m.state ≠ .up then (.invalidState, none)
  else (if 0 ≤ mid then .ok else .fail, some (mqttTopic m (txt "telemetry")))

/-- The steps of a device with this id: the module is started with it, and the client, which has
its handler from the start on, reports events only while there is one. -/
def UsesId (id : CBuf 32) (s : Links) : LinkOp → Prop
  | .mqttStart deviceId _ => deviceId = id
  | .mqttEvent _ => s.mqtt.client = true
  | _ => True

/-- What a device subscribes to are its own command topics. -/
structure OwnTopics (id : CBuf 32) (m : MqttSt) : Prop where
  dev : m.client = true → m.dev = id
  topics : ∀ t ∈ m.topics, ∃ suffix ∈ [txt "command", txt "config", txt "ota"],
    t = iotMqttBuildTopic 96 id.text suffix

theorem OwnTopics.step {id : CBuf 32} {s : Links} (h : OwnTopics id s.mqtt) {op : LinkOp}
    (hop : UsesId id s op) : OwnTopics id (s.apply op).mqtt := by
  cases op with
  | wifiEvent | wifiStart | wifiStop => exact h
  | mqttStart deviceId a =>
    obtain rfl : deviceId = id := hop
    unfold Links.apply iotMqttStart
    dsimp only
    split_ifs <;> exact ⟨fun _ => rfl, h.topics⟩
  | mqttStop => exact ⟨nofun, h.topics⟩
  | mqttEvent e =>
    cases e with
    | connected =>
      refine ⟨h.dev, fun t ht => ?_⟩
      rcases List.mem_append.mp ht with ht | ht
      · exact h.topics t ht
      · obtain ⟨suffix, hsuffix, rfl⟩ := List.mem_map.mp ht
        exact ⟨suffix, hsuffix, by rw [mqttTopic, h.dev hop]⟩
    | disconnected | data | error | other => exact ⟨h.dev, h.topics⟩

theorem run_ownTopics {id : CBuf 32} {ops : List LinkOp}
    (h : ∀ e ∈ trace Links.apply .boot ops, UsesId id e.1 e.2.1) :
    OwnTopics id (ops.foldl Links.apply .boot).mqtt := by
  have hboot : OwnTopics id Links.boot.mqtt := ⟨nofun, nofun⟩
  refine ((run_trace _ _ ops).invariant (I := fun s => OwnTopics id s.mqtt)
    (C := fun s op _ => UsesId id s op) ?_ hboot h).1
  rintro s op s' hs rfl hop
  exact hs.step hop

theorem commandSuffix_length :
    ∀ suffix ∈ [txt "command", txt "config", txt "ota"],
      suffix.length ≤ 56 ∧ suffix ≠ txt "telemetry" := by
  decide

/-- Devices with different ids have no topic in common, in any two runs of theirs: none subscribes
to a command topic of another, and nobody subscribes to a topic on which telemetry is published. -/
theorem topics_do_not_cross {id id' : CBuf 32} (hid : 47 ∉ id.text) (hid' : 47 ∉ id'.text)
    (hne : id.text ≠ id'.text) {ops ops' : List LinkOp}
    (h : ∀ e ∈ trace Links.apply .boot ops, UsesId id e.1 e.2.1)
    (h' : ∀ e ∈ trace Links.apply .boot ops', UsesId id' e.1 e.2.1) :
    let m := (ops.foldl Links.apply .boot).mqtt
    let m' := (ops'.foldl Links.apply .boot).mqtt
    (∀ t ∈ m.topics, t ∉ m'.topics) ∧
      ∀ mid, ∀ t ∈ (iotMqttPublishTelemetry mid m).2, t ∉ m.topics ∧ t ∉ m'.topics ∧
        ∀ mid', t ∉ (iotMqttPublishTelemetry mid' m').2 := by
  intro m m'
  have hm : OwnTopics id m := run_ownTopics h
  have hm' : OwnTopics id' m' := run_ownTopics h'
  have hpublish : ∀ {id : CBuf 32} {m : MqttSt}, OwnTopics id m → ∀ mid,
      ∀ t ∈ (iotMqttPublishTelemetry mid m).2,
        t = iotMqttBuildTopic 96 id.text (txt "telemetry") := by
    intro id m hm mid t ht
    unfold iotMqttPublishTelemetry at ht
    by_cases hup : m.client = false ∨ m.state ≠ .up
    · simp [if_pos hup] at ht
    · obtain ⟨hclient, -⟩ := not_or.mp hup
      rw [if_neg hup] at ht
      obtain rfl := Option.some.inj ht
      rw [mqttTopic, hm.dev (by simpa using hclient)]
  have hother : ∀ {id id' : CBuf 32} {m : MqttSt}, 47 ∉ id.text → 47 ∉ id'.text →
      OwnTopics id' m → iotMqttBuildTopic 96 id.text (txt "telemetry") ∉ m.topics := by
    intro id id' m hid hid' hm ht
    obtain ⟨suffix, hsuffix, heq⟩ := hm.topics _ ht
    obtain ⟨hlen, hname⟩ := commandSuffix_length suffix hsuffix
    exact hname ((iotMqttBuildTopic_inj hid hid' (by decide) hlen).mp heq).2.symm
  refine ⟨fun t ht ht' => ?_, fun mid t ht => ?_⟩
  · obtain ⟨suffix, hsuffix, rfl⟩ := hm.topics t ht
    obtain ⟨suffix', hsuffix', heq⟩ := hm'.topics _ ht'
    exact hne ((iotMqttBuildTopic_inj hid hid' (commandSuffix_length _ hsuffix).1
      (commandSuffix_length _ hsuffix').1).mp heq).1
  · obtain rfl := hpublish hm mid t ht
    refine ⟨hother hid hid hm, hother hid hid' hm', fun mid' ht' => ?_⟩
    have heq := hpublish hm' mid' _ ht'
    exact hne ((iotMqttBuildTopic_inj hid hid' (by decide) (by decide)).mp heq).1

/-- A device that has started with its default id, and has connected. -/
def macPlatform (mac : Fin 6 → UInt8) : Platform :=
  { hostPlatform with build := .target, mac := some mac }

def macDeviceId (mac : Fin 6 → UInt8) : CBuf 32 :=
  iotSecurityDefaultDeviceId (macPlatform mac) (CBuf.store 32 [])

def connects (id : CBuf 32) : List LinkOp :=
  [.mqttStart id ⟨true, 0, true⟩, .mqttEvent .connected]

theorem macDeviceId_text (mac : Fin 6 → UInt8) : (macDeviceId mac).text = macId mac :=
  iotSecurityDefaultDeviceId_mac rfl rfl _

theorem connects_usesId (id : CBuf 32) :
    ∀ e ∈ trace Links.apply .boot (connects id), UsesId id e.1 e.2.1 := by
  simp [connects, trace, UsesId, Links.apply, iotMqttStart]

theorem two_devices_do_not_cross :
    let m := ((connects (macDeviceId fun _ => 1)).foldl Links.apply .boot).mqtt
    let m' := ((connects (macDeviceId fun _ => 2)).foldl Links.apply .boot).mqtt
    (∀ t ∈ m.topics, t ∉ m'.topics) ∧
      ∀ mid, ∀ t ∈ (iotMqttPublishTelemetry mid m).2, t ∉ m.topics ∧ t ∉ m'.topics ∧
        ∀ mid', t ∉ (iotMqttPublishTelemetry mid' m').2 := by
  have hslash : ∀ mac, 47 ∉ (macDeviceId mac).text := fun mac h =>
    (macId_bytes mac 47 (macDeviceId_text mac ▸ h)).2.1 rfl
  refine topics_do_not_cross (hslash _) (hslash _) ?_ (connects_usesId _) (connects_usesId _)
  rw [macDeviceId_text, macDeviceId_text]
  intro h
  have hmac := congrFun (macId_injective h) 0
  exact absurd hmac (by decide)

end IotPlatform
