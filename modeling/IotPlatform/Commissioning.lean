import IotPlatform.Provisioning
import IotPlatform.Routes
import IotPlatform.Startup
import IotPlatform.ValidationGate

/-!
# Commissioning

`app_main` hands the configuration that it has loaded to the Wi-Fi station and, once there is an
address, to the MQTT client. What a client writes to the config characteristic reaches them at the
next reset, unless the profile takes the text for a command of its own.
-/
namespace IotPlatform
open CText CFloat KeySearch FlatJson Runs

/-- The configuration without the id, the sampling period and the cloud provider. -/
def RuntimeCfg.network (c : RuntimeCfg) : RuntimeCfg :=
  { c with deviceId := zeroCfg.deviceId, samplePeriodMs := 0, cloud := 0 }

theorem provFields_network {c c' : RuntimeCfg} (h : c.network = c'.network) :
    ∀ f ∈ provFields, f.get c = f.get c' := by
  have hget : ∀ f ∈ provFields, ∀ c : RuntimeCfg, f.get c = f.get c.network := by
    simp [provFields, RuntimeCfg.network]
  intro f hf
  rw [hget f hf c, h, ← hget f hf c']

theorem adopted_network (P : Platform) (c : RuntimeCfg) : (adopted P c).network = c.network := by
  unfold adopted
  split_ifs <;> rfl

/-- The words that the command hook of a profile looks for in a command without `uc`. -/
def Profile.words : Profile → List Text
  | .energy => [txt "alarm_w"]
  | .industrial => [txt "t_alarm"]
  | .water => [txt "close", txt "open"]
  | .evCharger => [txt "contactor"]
  | .automotive => [txt "can_tx"]
  | .robotics => [txt "move"]
  | .predictive | .assetTracker | .agriculture | .coldchain => []

/-- The hook takes a text for a command of its own. -/
def Profile.Takes (profile : Profile) (t : Text) : Prop :=
  ∃ word ∈ profile.words, (strstr t word).isSome = true

instance (profile : Profile) (t : Text) : Decidable (profile.Takes t) :=
  inferInstanceAs (Decidable (∃ word ∈ profile.words, (strstr t word).isSome = true))

variable {F : Type} [CFloat F]

/-- A request that a hook writes itself is not taken for commissioning data because of its text. -/
theorem mapped_isProvisioning {cap size : ℕ} {cmd : IotCommandMsg cap} {head tail : Text}
    (hhead : head[2]? = some 117) (hsize : 3 < size) (hcap : size ≤ cap)
    (h : (cmd.mapped (snprintf size (head ++ tail))).IsProvisioning) : cmd.IsProvisioning := by
  refine h.imp id fun ⟨_, hthird⟩ => ?_
  have hlen : 2 < head.length := (List.getElem?_eq_some_iff.mp hhead).1
  have hthere : (snprintf size (head ++ tail))[2]? = some 117 := by
    rw [snprintf, List.getElem?_take_of_lt (by omega), List.getElem?_append_left hlen, hhead]
  have hfit : (snprintf size (head ++ tail)).length ≤ cap := by
    have := List.length_take_le (size - 1) (head ++ tail)
    simp only [snprintf]
    omega
  have hbyte : (padTo cap (snprintf size (head ++ tail)))[2]? = some 115 := by
    simpa only [IotCommandMsg.mapped, List.head?_drop] using hthird
  rw [getElem?_padTo hfit (by decide), hthere] at hbyte
  exact absurd hbyte (by decide)

section
variable {P : Platform} {past : List UInt8} {cmd : IotCommandMsg iotJsonSmallLen} {d : Device F}

/-- A hook hands its command to the command bus, or another that it has written itself, or it runs a
request of its own, or does nothing. -/
inductive Routed (P : Platform) (past : List UInt8) (cmd : IotCommandMsg iotJsonSmallLen)
    (d : Device F) : Option (IotUcId × IotUcIn F) → IotErr × Device F → Prop
  | bus (cmd' : IotCommandMsg iotJsonSmallLen) (h : cmd'.IsProvisioning → cmd.IsProvisioning) :
      Routed P past cmd d (busUseCase past cmd') (iotServicesHandleCommand P past cmd' d)
  | fixed (json : Text) (len : ℕ) :
      Routed P past cmd d (textUseCase json len) (runFixed P d json len)
  | idle (e : IotErr) : Routed P past cmd d none (e, d)

theorem Routed.self : Routed P past cmd d (busUseCase past cmd)
    (iotServicesHandleCommand P past cmd d) := .bus cmd id

theorem Routed.word {word json : Text} {len : ℕ} {rest : Option (IotUcId × IotUcIn F)}
    {r : IotErr × Device F} (h : Routed P past cmd d rest r) :
    Routed P past cmd d (wordUseCase past cmd word json len rest)
      (if cmd.mentions past word then runFixed P d json len else r) := by
  unfold wordUseCase
  split_ifs
  · exact .fixed json len
  · exact h

theorem cmdHook_routed (profile : Profile) (P : Platform) (past : List UInt8)
    (cmd : IotCommandMsg iotJsonSmallLen) (d : Device F) :
    Routed P past cmd d (hookUseCase past cmd profile) (profile.cmdHook P past cmd d) := by
  cases profile with
  | energy =>
    unfold hookUseCase Profile.cmdHook iotProfileEnergyCmd
    by_cases hlen : cmd.payloadLen = 0
    · simp only [if_pos hlen]
      exact .idle _
    · by_cases huc : cmd.hasUc past = true
      · simp only [if_neg hlen, if_pos huc]
        exact .self
      · simp only [if_neg hlen, if_neg huc]
        cases cmd.legacyNumber past (txt "alarm_w") with
        | none => exact .self
        | some n =>
          dsimp only
          rw [List.append_assoc]
          exact .bus _ (mapped_isProvisioning (by rfl) (by omega) (by simp [iotJsonSmallLen]))
  | industrial =>
    unfold hookUseCase Profile.cmdHook iotProfileIndustrialCmd
    cases cmd.legacyNumber past (txt "t_alarm") with
    | none => exact .self
    | some n =>
      cases cmd.hasUc past with
      | true => exact .self
      | false =>
        dsimp only
        rw [List.append_assoc]
        exact .bus _ (mapped_isProvisioning (by rfl) (by omega) (by simp [iotJsonSmallLen]))
  | water =>
    unfold hookUseCase Profile.cmdHook iotProfileWaterCmd
    by_cases huc : cmd.hasUc past = true
    · simp only [if_pos huc]
      exact .self
    · simp only [if_neg huc]
      exact .word (.word .self)
  | evCharger =>
    unfold hookUseCase Profile.cmdHook iotProfileEvCmd
    exact .word .self
  | automotive =>
    unfold hookUseCase Profile.cmdHook iotProfileAutomotiveCmd
    exact .word .self
  | robotics =>
    unfold hookUseCase Profile.cmdHook iotProfileRoboticsCmd
    exact .word .self
  | predictive | assetTracker | agriculture | coldchain => exact .self

/-- Without a word of its own in the text, a hook hands the command on. -/
theorem cmdHook_passes {profile : Profile} (huc : cmd.hasUc past = false)
    (hlen : cmd.payloadLen ≠ 0) (h : ¬ profile.Takes (cmd.text past)) :
    profile.cmdHook P past cmd d = iotServicesHandleCommand P past cmd d := by
  have hword : ∀ word ∈ profile.words, cmd.mentions past word = false := by
    intro word hword
    by_contra hm
    exact h ⟨word, hword, (Bool.not_eq_false _).mp hm⟩
  have hnumber : ∀ word ∈ profile.words, cmd.legacyNumber past word = none := by
    intro word hw
    rw [← Option.isNone_iff_eq_none, ← Option.not_isSome, legacyNumber_isSome, hword word hw]
    rfl
  cases profile with
  | energy =>
    simp [Profile.cmdHook, iotProfileEnergyCmd, hlen, huc, hnumber _ (List.mem_singleton.mpr rfl)]
  | industrial =>
    simp [Profile.cmdHook, iotProfileIndustrialCmd, huc, hnumber _ (List.mem_singleton.mpr rfl)]
  | water =>
    simp [Profile.cmdHook, iotProfileWaterCmd, huc, hword (txt "close") (by simp [Profile.words]),
      hword (txt "open") (by simp [Profile.words])]
  | evCharger =>
    simp [Profile.cmdHook, iotProfileEvCmd, hword _ (List.mem_singleton.mpr rfl)]
  | automotive =>
    simp [Profile.cmdHook, iotProfileAutomotiveCmd, hword _ (List.mem_singleton.mpr rfl)]
  | robotics =>
    simp [Profile.cmdHook, iotProfileRoboticsCmd, iotProfileDispatchCmd,
      hword _ (List.mem_singleton.mpr rfl)]
  | predictive | assetTracker | agriculture | coldchain => rfl

theorem runFixed_sys {id : IotUcId} {name json : Text} {len : ℕ} (rest : Text)
    (he : (id, name) ∈ sTab) (hjson : json = requestText name rest) (hlen : len ≠ 0)
    (hsys : ∀ inp, (iotUcRun P id inp d).st.sys = d.sys) :
    (runFixed P d json len).2.sys = d.sys := by
  rw [runFixed_request rest he hjson hlen]
  exact hsys _

/-- With one, it leaves the platform modules alone. -/
theorem cmdHook_takes {profile : Profile} (huc : cmd.hasUc past = false)
    (hlen : cmd.payloadLen ≠ 0) (h : profile.Takes (cmd.text past)) :
    (profile.cmdHook P past cmd d).2.sys = d.sys := by
  obtain ⟨word, hword, hsome⟩ := h
  have hmentions : cmd.mentions past word = true := hsome
  cases profile with
  | energy =>
    obtain rfl := List.mem_singleton.mp hword
    obtain ⟨n, hn⟩ := Option.isSome_iff_exists.mp ((legacyNumber_isSome _).trans hmentions)
    have he : (.energySetLimits, txt "energy.set_limits") ∈ sTab :=
      hookRequests_registered _ (by simp)
    have ht : txt "\x7b\"uc\":\"energy.set_limits\",\"over_w\":" ++ fmt 1 (ofNumeral n : F) ++
        txt "\x7d" = requestText (txt "energy.set_limits")
          (txt ",\"over_w\":" ++ fmt 1 (ofNumeral n : F) ++ txt "\x7d") := by
      simp [requestText, txt, quote]
    obtain ⟨inp, hrun⟩ := mapped_run P past cmd 128 he ht (by decide) (by decide) d
    simp only [Profile.cmdHook, iotProfileEnergyCmd, hlen, huc, hn, hrun]
    rfl
  | industrial =>
    obtain rfl := List.mem_singleton.mp hword
    obtain ⟨n, hn⟩ := Option.isSome_iff_exists.mp ((legacyNumber_isSome _).trans hmentions)
    have he : (.indSetLimits, txt "industrial.set_limits") ∈ sTab :=
      hookRequests_registered _ (by simp)
    have ht : txt "\x7b\"uc\":\"industrial.set_limits\",\"t_lim\":" ++ fmt 1 (ofNumeral n : F) ++
        txt "\x7d" = requestText (txt "industrial.set_limits")
          (txt ",\"t_lim\":" ++ fmt 1 (ofNumeral n : F) ++ txt "\x7d") := by
      simp [requestText, txt, quote]
    obtain ⟨inp, hrun⟩ := mapped_run P past cmd 96 he ht (by decide) (by decide) d
    simp only [Profile.cmdHook, iotProfileIndustrialCmd, huc, hn, hrun]
    rfl
  | water =>
    have hclose : (runFixed P d (txt "\x7b\"uc\":\"water.valve_close\"\x7d") 28).2.sys = d.sys :=
      runFixed_sys (txt "\x7d")
        (hookRequests_registered (.waterValveClose, txt "water.valve_close") (by simp))
        (by simp [requestText, txt, quote]) (by decide) fun _ => rfl
    have hopen : (runFixed P d (txt "\x7b\"uc\":\"water.valve_open\"\x7d") 27).2.sys = d.sys :=
      runFixed_sys (txt "\x7d")
        (hookRequests_registered (.waterValveOpen, txt "water.valve_open") (by simp))
        (by simp [requestText, txt, quote]) (by decide) fun _ => rfl
    simp only [Profile.cmdHook, iotProfileWaterCmd, huc, Bool.false_eq_true, if_false]
    split_ifs with hc ho
    · exact hclose
    · exact hopen
    · rcases List.mem_pair.mp hword with rfl | rfl
      · exact absurd hmentions hc
      · exact absurd hmentions ho
  | evCharger =>
    obtain rfl := List.mem_singleton.mp hword
    rw [Profile.cmdHook, iotProfileEvCmd, if_pos hmentions, runFixed_contactor]
  | automotive =>
    obtain rfl := List.mem_singleton.mp hword
    rw [Profile.cmdHook, iotProfileAutomotiveCmd, if_pos hmentions, runFixed_tx]
  | robotics =>
    obtain rfl := List.mem_singleton.mp hword
    rw [Profile.cmdHook, iotProfileRoboticsCmd, if_pos hmentions, runFixed_motion]
  | predictive | assetTracker | agriculture | coldchain => exact absurd hword List.not_mem_nil

end

/-- Commissioning data, the use case for it, or a factory reset. -/
def Op.Commissions (profile : Profile) (op : Op F) : Prop :=
  match op.useCase profile with
  | some (_, id, _) => id = .pltProvision ∨ id = .pltFactoryReset
  | none => match op with
    | .command _ _ cmd => cmd.IsProvisioning
    | _ => False

section
variable {P : Platform} (hP : WritesHold P)
include hP

/-- Saving with the same network settings keeps them. -/
theorem save_network {st : CfgStore} (h : st.Coherent) {c : RuntimeCfg} (hcloud : c.cloud < 256)
    (hc : c.network = st.cfg.network) :
    (iotConfigSave P c st).2.cfg.network = st.cfg.network := by
  rw [(h.save hP hcloud).2]
  split_ifs
  · exact hc
  · rfl

theorem iotUcRun_network {id : IotUcId} (hid : ¬ (id = .pltProvision ∨ id = .pltFactoryReset))
    (inp : IotUcIn F) {d : Device F} (h : d.sys.cfg.Coherent) :
    (iotUcRun P id inp d).st.sys.cfg.cfg.network = d.sys.cfg.cfg.network := by
  have hcloud : d.sys.cfg.cfg.cloud < 256 := h.cache ▸ flashCfg_cloud _
  cases id
  case pltProvision => exact absurd (Or.inl rfl) hid
  case pltFactoryReset => exact absurd (Or.inr rfl) hid
  case pltSetSampleMs =>
    simp only [iotUcRun, entryFn, onSys, Handler.at, iotUcPltSetSampleMs]
    split_ifs
    · rfl
    · rw [h.load]
      exact save_network hP h (c := { d.sys.cfg.cfg with samplePeriodMs := sampleMsAsked inp })
        hcloud rfl
  case pltOta =>
    simp only [iotUcRun, entryFn, onSys, Handler.at, iotUcPltOta]
    split <;> rfl
  case pltSetCloud =>
    simp only [iotUcRun, entryFn, onSys, Handler.at, iotUcPltSetCloud]
    split_ifs with hrange
    · rfl
    · rw [h.load]
      exact save_network hP h (c := { d.sys.cfg.cfg with cloud := (cloudAsked inp).toUInt32 })
        (cloud_lt hrange) rfl
  case pltSetLogLevel =>
    simp only [iotUcRun, entryFn, onSys, Handler.at, iotUcPltSetLogLevel]
    split_ifs <;> rfl
  all_goals rfl

/-- None of the two use cases. -/
theorem runJson_network {json : Text} {len : ℕ} (out : IotUcOut F)
    (hno : ∀ id inp, textUseCase (F := F) json len = some (id, inp) →
      ¬ (id = .pltProvision ∨ id = .pltFactoryReset)) {d : Device F} (h : d.sys.cfg.Coherent) :
    (iotUcRunJson P json len out d).st.sys.cfg.cfg.network = d.sys.cfg.cfg.network := by
  unfold textUseCase at hno
  unfold iotUcRunJson
  by_cases hlen : len = 0
  · simp only [if_pos hlen]
  · simp only [if_neg hlen] at hno ⊢
    cases hname : ucNameOf json with
    | none => rfl
    | some name =>
      rw [hname] at hno
      exact iotUcRun_network hP (hno _ _ rfl) _ h

theorem bus_network {past : List UInt8} {cmd : IotCommandMsg iotJsonSmallLen}
    (hno : ∀ id inp, busUseCase (F := F) past cmd = some (id, inp) →
      ¬ (id = .pltProvision ∨ id = .pltFactoryReset))
    (hprov : busUseCase (F := F) past cmd = none → ¬ cmd.IsProvisioning) {d : Device F}
    (h : d.sys.cfg.Coherent) :
    (iotServicesHandleCommand P past cmd d).2.sys.cfg.cfg.network = d.sys.cfg.cfg.network := by
  by_cases hv : iotSecurityValidateCommand cmd = .ok
  · by_cases huc : cmd.hasUc past = true
    · have huc' : iotUcJsonHasKey (cmd.text past) (txt "uc") = true := huc
      have hlen := payloadLen_ne_zero hv
      simp only [busUseCase, if_pos (And.intro hv huc)] at hno
      simp only [iotServicesHandleCommand, if_neg (not_not_intro hv), if_pos huc',
        iotUcDispatchCommand, if_neg hlen]
      exact runJson_network hP .zero hno h
    · have huc' : ¬ iotUcJsonHasKey (cmd.text past) (txt "uc") = true := huc
      have hnot : ¬ cmd.IsProvisioning := hprov (if_neg fun hboth => huc hboth.2)
      simp only [iotServicesHandleCommand, if_neg (not_not_intro hv), if_neg huc', if_neg hnot]
      cases plainOtaUrl (cmd.text past) <;> rfl
  · rw [iotServicesHandleCommand_rejected hv]
    rfl

end

theorem Op.apply_network {profile : Profile} {op : Op F} (hP : ∀ P ∈ op.platform, WritesHold P)
    (hno : ¬ op.Commissions profile) {d : Device F} (h : d.sys.cfg.Coherent) :
    (op.apply profile d).sys.cfg.cfg.network = d.sys.cfg.cfg.network := by
  unfold Op.Commissions at hno
  cases op with
  | command P past cmd =>
    have hroute := cmdHook_routed profile P past cmd d
    have huse : (Op.command P past cmd : Op F).useCase profile =
      (hookUseCase past cmd profile).map fun r => (P, r) := rfl
    have happly : (Op.command P past cmd : Op F).apply profile d =
      (profile.cmdHook P past cmd d).2 := rfl
    rw [huse] at hno
    rw [happly]
    generalize (hookUseCase past cmd profile : Option (IotUcId × IotUcIn F)) = r at hroute hno
    generalize profile.cmdHook P past cmd d = res at hroute
    cases hroute with
    | bus cmd' hprov =>
      refine bus_network (hP P rfl) (fun id inp hid => ?_) (fun hnone hcmd => ?_) h
      · rw [hid] at hno
        exact hno
      · rw [hnone] at hno
        exact hno (hprov hcmd)
    | fixed json len =>
      refine runJson_network (hP P rfl) .zero (fun id inp hid => ?_) h
      rw [hid] at hno
      exact hno
    | idle e => rfl
  | run P id inp => exact iotUcRun_network (hP P rfl) hno inp h
  | runJson P json len =>
    refine runJson_network (hP P rfl) .zero (fun id inp hid => ?_) h
    have huse : (Op.runJson P json len : Op F).useCase profile =
      (textUseCase json len).map fun r => (P, r) := rfl
    rw [huse, hid] at hno
    exact hno
  | _ => rfl

/-- Writes of NVS succeed, and a device that boots can read NVS. -/
def NodeOp.Sound : NodeOp F → Prop
  | .op o => ∀ P ∈ o.platform, WritesHold P
  | .link _ => True
  | .reset P _ _ => WritesHold P ∧ P.nvsOpenRead = 0

def NodeOp.Commissions (profile : Profile) : NodeOp F → Prop
  | .op o => o.Commissions profile
  | _ => False

/-- Events of the links leave the configuration store alone. -/
theorem Node.apply_link_store (profile : Profile) (s : Node F) (e : LinkStep) :
    (s.apply profile (.link e)).dev.sys.cfg = s.dev.sys.cfg := by
  cases e with
  | timeout =>
    simp only [Node.apply, Node.notes]
    split_ifs <;> rfl
  | wifiEvent | mqttEvent | wait | mqttStart => rfl

theorem Node.apply_coherent (profile : Profile) {e : NodeOp F} (he : e.Sound) {s : Node F}
    (h : s.dev.sys.cfg.Coherent) : (s.apply profile e).dev.sys.cfg.Coherent := by
  cases e with
  | op o => exact Op.apply_coherent profile he h
  | link e => rwa [Node.apply_link_store]
  | reset P w a => exact (boot_coherent he.1 he.2 profile w _).1

theorem Node.apply_network {profile : Profile} {e : NodeOp F} (he : e.Sound)
    (hno : ¬ e.Commissions profile) {s : Node F} (h : s.dev.sys.cfg.Coherent) :
    (s.apply profile e).dev.sys.cfg.cfg.network = s.dev.sys.cfg.cfg.network := by
  cases e with
  | op o => exact Op.apply_network he hno h
  | link e => rw [Node.apply_link_store]
  | reset P w a =>
    have hcfg := (boot_coherent (F := F) he.1 he.2 profile w s.dev.sys.cfg.nvs).2
    have hflash : (flashCfg s.dev.sys.cfg.nvs).network = s.dev.sys.cfg.cfg.network := by
      rw [h.cache]
    simp only [Node.apply, Node.boot]
    rw [hcfg]
    split_ifs
    · rw [adopted_network, hflash]
    · exact hflash

theorem Node.run_coherent (profile : Profile) {ops : List (NodeOp F)} (hops : ∀ e ∈ ops, e.Sound)
    {s : Node F} (h : s.dev.sys.cfg.Coherent) :
    (ops.foldl (Node.apply profile) s).dev.sys.cfg.Coherent :=
  List.foldlRecOn (motive := fun s : Node F => s.dev.sys.cfg.Coherent) ops _ h
    fun _ hs e he => Node.apply_coherent profile (hops e he) hs

theorem Node.run_network {profile : Profile} {ops : List (NodeOp F)}
    (hops : ∀ e ∈ ops, e.Sound ∧ ¬ e.Commissions profile) {s : Node F}
    (h : s.dev.sys.cfg.Coherent) :
    (ops.foldl (Node.apply profile) s).dev.sys.cfg.cfg.network = s.dev.sys.cfg.cfg.network := by
  induction ops generalizing s with
  | nil => rfl
  | cons e ops ih =>
    obtain ⟨⟨he, hno⟩, hops⟩ := List.forall_mem_cons.mp hops
    rw [List.foldl_cons, ih hops (Node.apply_coherent profile he h), Node.apply_network he hno h]

/-- A reset starts the links with the settings that are in force. -/
theorem boot_network {P : Platform} (hP : WritesHold P) (hread : P.nvsOpenRead = 0)
    (profile : Profile) (w : Bool) (a : RadioAnswers) {st : CfgStore} (h : st.Coherent) :
    (Node.boot (F := F) P profile w a st.nvs).net.cfg.network = st.cfg.network := by
  have hload : (iotConfigLoad P zeroCfg (iotConfigInit ⟨false, zeroCfg, st.nvs⟩).2).2.1 =
      flashCfg st.nvs := by
    cases hnvs : st.nvs <;>
      simp [iotConfigInit, iotConfigLoad, nvsReadable, hP.1, hread, flashCfg]
  have hcfg : (Node.boot (F := F) P profile w a st.nvs).net.cfg = bootCfg P st.nvs := by
    simp only [Node.boot, BootLinks.boot]
    split_ifs <;> rfl
  rw [hcfg, bootCfg, hload, adopted_network, h.cache]

/-- An acceptable request that the searches for its keys read as it is meant, as a message that
reaches provisioning with all its bytes. -/
structure CommissioningMsg extends ProvisionRequest where
  opcode : UInt16
  acceptable : Acceptable toObject
  plain : ∀ f ∈ provFields, PlainFor provBlank f.key toObject
  fits : toObject.render.length < iotJsonSmallLen
  valid : iotSecurityValidateCommand (enqueued opcode toObject.render) = .ok
  provisions : (enqueued opcode toObject.render).IsProvisioning
  noUc : iotUcJsonHasKey toObject.render (txt "uc") = false

namespace CommissioningMsg

def cmd (m : CommissioningMsg) : IotCommandMsg iotJsonSmallLen := enqueued m.opcode m.render

/-- The string sent for a field, or what it held. -/
def sent (m : CommissioningMsg) (old : RuntimeCfg) (f : ProvField) : Text :=
  (stringAt m.toObject f.key).getD (f.get old)

theorem text_eq (m : CommissioningMsg) (past : List UInt8) : m.cmd.text past = m.render := by
  have htext : m.cmd.text past = cstr m.render := cstr_padTo m.fits past
  rw [htext, cstr_of_notMem m.toObject.zero_notMem]

theorem payloadLen_eq (m : CommissioningMsg) : m.cmd.payloadLen = m.render.length :=
  min_eq_left m.fits.le

/-- Executing the message stores what was sent, unless the profile takes it for its own. -/
theorem executed (m : CommissioningMsg) (profile : Profile) {P : Platform} (hP : WritesHold P)
    (hopen : P.nvsOpenWrite = 0) (past : List UInt8) {d : Device F} (h : d.sys.cfg.Coherent) :
    ((Op.command P past m.cmd).apply profile d).sys.cfg.cfg =
      if profile.Takes m.render then d.sys.cfg.cfg
      else provisionedCfg P m.render d.sys.cfg.cfg := by
  have htext := m.text_eq past
  have huc : m.cmd.hasUc past = false := by rw [IotCommandMsg.hasUc, htext, m.noUc]
  have hvalid : iotSecurityValidateCommand m.cmd = .ok := m.valid
  have hprov : m.cmd.IsProvisioning := m.provisions
  have hlen := payloadLen_ne_zero hvalid
  have happly : (Op.command P past m.cmd : Op F).apply profile d =
    (profile.cmdHook P past m.cmd d).2 := rfl
  rw [happly]
  split_ifs with htakes
  · rw [cmdHook_takes huc hlen (htext ▸ htakes)]
  · have huc' : ¬ iotUcJsonHasKey m.render (txt "uc") = true := by simp [m.noUc]
    have hcloud : d.sys.cfg.cfg.cloud < 256 := h.cache ▸ flashCfg_cloud _
    have hsave := (h.save hP (c := provisionedCfg P m.render d.sys.cfg.cfg) hcloud).2
    have hshort : ¬ (m.cmd.payloadLen = 0 ∨ 512 < m.cmd.payloadLen) := by
      have hle := m.short
      rw [m.payloadLen_eq] at hlen ⊢
      omega
    rw [if_pos hopen] at hsave
    rw [cmdHook_passes huc hlen (htext ▸ htakes)]
    simp only [iotServicesHandleCommand, if_neg (not_not_intro hvalid), htext, if_neg huc',
      if_pos hprov, iotProvisionApplyJson, if_neg hshort, h.load]
    exact hsave

theorem provisioned_get (m : CommissioningMsg) (P : Platform) {s : SysSt} (h : s.cfg.Coherent) :
    ∀ f ∈ provFields, f.get (provisionedCfg P m.render s.cfg.cfg) = m.sent s.cfg.cfg f := by
  have hstored : storedCfg P s = s.cfg.cfg := by rw [storedCfg, h.load]
  intro f hf
  have hreads : ReadsWanted f P m.toObject s :=
    readsWanted_of_plain m.toProvisionRequest hf (m.plain f hf) (m.acceptable.1 f hf)
  have hwanted := (getD_extractStr_iff hf).mpr hreads
  rw [hstored] at hwanted
  rw [provisionedCfg_get P m.toObject.zero_notMem s.cfg.cfg f hf, hwanted, ProvField.wanted,
    hstored, sent]

theorem provisioned_joins (m : CommissioningMsg) (P : Platform) {s : SysSt} (h : s.cfg.Coherent) :
    (provisionedCfg P m.render s.cfg.cfg).Joins := by
  obtain ⟨v, hv, hne⟩ := m.acceptable.2
  have hsent : m.sent s.cfg.cfg ⟨txt "ssid", 33, fun c => c.wifiSsid.text⟩ = v := by
    rw [sent, Option.mem_def.mp hv, Option.getD_some]
  have hssid : (provisionedCfg P m.render s.cfg.cfg).wifiSsid.text = v :=
    (m.provisioned_get P h _ (by simp [provFields])).trans hsent
  have hname : (provisionedCfg P m.render s.cfg.cfg).wifiSsid.text ≠ [] := by
    rw [hssid]
    exact hne
  exact ⟨decide_eq_true hname, hname⟩

/-- Links that run with the settings sent join the network that was named. -/
theorem joins_named (m : CommissioningMsg) {n : BootLinks} {old : RuntimeCfg} {v : Text}
    (hfrom : n.FromBoot) (hjoins : n.cfg.Joins)
    (hget : ∀ f ∈ provFields, f.get n.cfg = m.sent old f)
    (hv : stringAt m.toObject (txt "ssid") = some v) : n.links.wifi.ssid.text = v := by
  have hssid : n.cfg.wifiSsid.text =
      (stringAt m.toObject (txt "ssid")).getD old.wifiSsid.text :=
    hget ⟨txt "ssid", 33, fun c => c.wifiSsid.text⟩ (by simp [provFields])
  rw [(hfrom.wifi hjoins).1, hssid, hv, Option.getD_some]

end CommissioningMsg

/-- A device executes commissioning data, whatever it has gone through before and whatever happens
until the next reset, other commissioning and factory resets excepted. Then from that reset to the
one after the links run with the settings that were sent, unless the text holds a word that the
profile takes for a command of its own: then nothing has changed. -/
theorem commissioning_takes_effect (profile : Profile) (m : CommissioningMsg) {P₀ P Q : Platform}
    (hP₀ : WritesHold P₀ ∧ P₀.nvsOpenRead = 0) (hP : WritesHold P ∧ P.nvsOpenWrite = 0)
    (hQ : WritesHold Q ∧ Q.nvsOpenRead = 0) (w₀ w : Bool) (a₀ a : RadioAnswers)
    (nvs : Option NvsImage) (past : List UInt8) {before between after : List (NodeOp F)}
    (hbefore : ∀ e ∈ before, e.Sound)
    (hbetween : ∀ e ∈ between, e.Sound ∧ ¬ e.Commissions profile)
    (hafter : ∀ e ∈ after, ¬ e.IsReset) :
    let s := before.foldl (Node.apply profile) (Node.boot P₀ profile w₀ a₀ nvs)
    let s₁ := (.op (.command P past m.cmd) :: between).foldl (Node.apply profile) s
    let s₂ := (.reset Q w a :: after).foldl (Node.apply profile) s₁
    let old := s.dev.sys.cfg.cfg
    s₂.net.FromBoot ∧
      if profile.Takes m.render then s₂.net.cfg.network = old.network
      else s₂.net.cfg.Joins ∧ ∀ f ∈ provFields, f.get s₂.net.cfg = m.sent old f := by
  intro s s₁ s₂ old
  have hs : s.dev.sys.cfg.Coherent :=
    Node.run_coherent profile hbefore (boot_coherent hP₀.1 hP₀.2 profile w₀ nvs).1
  have hop : (NodeOp.op (.command P past m.cmd) : NodeOp F).Sound := by
    rintro P' ⟨⟩
    exact hP.1
  have hwrite : (s.apply profile (.op (.command P past m.cmd))).dev.sys.cfg.Coherent :=
    Node.apply_coherent profile hop hs
  have hs₁ : s₁.dev.sys.cfg.Coherent :=
    Node.run_coherent profile (fun e he => (hbetween e he).1) hwrite
  have hnetwork : s₂.net.cfg.network =
      (s.apply profile (.op (.command P past m.cmd))).dev.sys.cfg.cfg.network := by
    have hcfg : s₂.net.cfg = _ := Node.run_cfg profile hafter (s₁.apply profile (.reset Q w a))
    rw [hcfg, ← Node.run_network hbetween hwrite]
    exact boot_network hQ.1 hQ.2 profile w a hs₁
  have hfrom : s₂.net.FromBoot := Node.run_fromBoot profile after (BootLinks.boot_fromBoot _ _)
  refine ⟨hfrom, ?_⟩
  have hexec := m.executed profile hP.1 hP.2 past hs
  have hdev : (s.apply profile (.op (.command P past m.cmd))).dev =
    (Op.command P past m.cmd).apply profile s.dev := rfl
  rw [hdev, hexec] at hnetwork
  split_ifs at hnetwork ⊢
  · exact hnetwork
  · have hjoins := m.provisioned_joins P hs
    have hget := provFields_network hnetwork
    refine ⟨⟨?_, ?_⟩, fun f hf => (hget f hf).trans (m.provisioned_get P hs f hf)⟩
    · exact (congrArg RuntimeCfg.provisioned hnetwork).trans hjoins.1
    · exact (congrArg (fun c => c.wifiSsid.text) hnetwork).trans_ne hjoins.2

/-- A water meter is told the name of its network over BLE. -/
def homeMsg : CommissioningMsg where
  toProvisionRequest := homeRequest
  opcode := 0xFF01
  acceptable := by decide +kernel
  plain := by decide +kernel
  fits := by decide +kernel
  valid := by decide +kernel
  provisions := Or.inl rfl
  noUc := by decide +kernel

theorem meter_joins_home :
    let P := macPlatform fun _ => 1
    let s : Node ℚ := [.op (.diag diagSensorTimeout)].foldl (Node.apply .water)
      (Node.boot P .water false ⟨0, 0⟩ none)
    let s₁ := [.op (.command P [] homeMsg.cmd), .op (.run P .waterValveOpen .zero)].foldl
      (Node.apply .water) s
    let s₂ := [.reset P false ⟨0, 0⟩, .link .wait].foldl (Node.apply .water) s₁
    s₂.net.links.wifi.ssid.text = txt "home" := by
  intro P s s₁ s₂
  have hP : WritesHold P := macPlatform_writesHold fun _ => 1
  have hbetween : ∀ e ∈ [NodeOp.op (.run P .waterValveOpen .zero : Op ℚ)],
      e.Sound ∧ ¬ e.Commissions .water := by
    simp [NodeOp.Sound, NodeOp.Commissions, Op.platform, Op.Commissions, Op.useCase, hP]
  have hbefore : ∀ e ∈ [(.op (.diag diagSensorTimeout) : NodeOp ℚ)], e.Sound := by
    simp [NodeOp.Sound, Op.platform]
  have hafter : ∀ e ∈ [(.link .wait : NodeOp ℚ)], ¬ e.IsReset := by simp [NodeOp.IsReset]
  obtain ⟨hfrom, hset⟩ := commissioning_takes_effect (F := ℚ) .water homeMsg ⟨hP, rfl⟩ ⟨hP, rfl⟩
    ⟨hP, rfl⟩ false false ⟨0, 0⟩ ⟨0, 0⟩ none [] hbefore hbetween hafter
  have hpasses : ¬ Profile.water.Takes homeMsg.render := by decide +kernel
  have hsent : stringAt homeMsg.toObject (txt "ssid") = some (txt "home") := by decide +kernel
  rw [if_neg hpasses] at hset
  exact homeMsg.joins_named hfrom hset.1 hset.2 hsent

end IotPlatform
