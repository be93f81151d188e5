import IotPlatform.Firmware

/-!
# Which hooks act on a command that validation rejects

Six hooks look at the payload before the command bus validates it. Three of them act on what they
find: energy and industrial send a request of their own to the bus, and water moves the valve.
-/
namespace IotPlatform
open CText CFloat KeySearch

variable {F : Type} [CFloat F]

/-- What commands store or drive: registers, configuration store, OTA state, pins and PWM. -/
structure Controlled (F : Type) where
  energy : EnergySt F
  ind : IndSt F
  pm : PmSt F
  water : WaterSt F
  ev : EvSt F
  can : AutoSt
  tr : TrkSt
  ag : AgriSt
  cd : ColdSt F
  rb : RobSt
  gpio : Gpio
  pwm : Pwm
  cfg : CfgStore
  ota : OtaSt

omit [CFloat F] in
def Device.controlled (d : Device F) : Controlled F :=
  ⟨d.energy, d.ind, d.pm, d.water, d.ev, d.can, d.tr, d.ag, d.cd, d.rb, d.gpio, d.pwm,
    d.sys.cfg, d.sys.ota⟩

/-- A command that validation rejects makes the hook fail and changes nothing it controls. -/
def Gated (profile : Profile) (P : Platform) (past : List UInt8)
    (cmd : IotCommandMsg iotJsonSmallLen) (d : Device F) : Prop :=
  iotSecurityValidateCommand cmd ≠ .ok →
    (profile.cmdHook P past cmd d).1 ≠ .ok ∧
      (profile.cmdHook P past cmd d).2.controlled = d.controlled

/-- The command failed and changed nothing that commands control. -/
def Rejects (r : IotErr × Device F) (d : Device F) : Prop :=
  r.1 ≠ .ok ∧ r.2.controlled = d.controlled

/-- The commands on which a hook acts without asking validation. -/
def LegacyShortcut (past : List UInt8) (cmd : IotCommandMsg iotJsonSmallLen) (d : Device F) :
    Profile → Prop
  | .energy =>
    cmd.payloadLen ≠ 0 ∧ cmd.hasUc past = false ∧ cmd.mentions past (txt "alarm_w") = true
  | .industrial => cmd.hasUc past = false ∧ cmd.mentions past (txt "t_alarm") = true
  | .water =>
    cmd.hasUc past = false ∧ (cmd.mentions past (txt "close") = true ∨
      (cmd.mentions past (txt "open") = true ∧ d.water.tamper = false))
  | _ => False

/-- A request that begins with its `uc` member. -/
def requestText (name rest : Text) : Text := txt "\x7b\"uc\":\"" ++ (name ++ quote :: rest)

theorem sTab_name : ∀ e ∈ sTab,
    e.2 ≠ [] ∧ quote ∉ e.2 ∧ (0 : UInt8) ∉ e.2 ∧ e.2.length < 48 := by
  intro e he
  obtain ⟨⟨hall, hq, -⟩, hpoint, hlen⟩ := sTab_bytes e he
  have h0 : (0 : UInt8) ∉ e.2 := fun h => absurd (List.all_eq_true.mp hall 0 h) (by decide)
  exact ⟨List.ne_nil_of_mem hpoint, hq, h0, hlen⟩

/-- The use cases that the hooks name are in the catalog. -/
theorem hookRequests_registered : ∀ e ∈ [(IotUcId.energySetLimits, txt "energy.set_limits"),
    (.indSetLimits, txt "industrial.set_limits"), (.waterValveClose, txt "water.valve_close"),
    (.waterValveOpen, txt "water.valve_open"), (.evRejectContactor, txt "ev.reject_contactor"),
    (.autoRejectTx, txt "auto.reject_tx"), (.robotRejectMotion, txt "robot.reject_motion")],
    e ∈ sTab := by
  decide +kernel

theorem ucNameOf_request {id : IotUcId} {name : Text} (he : (id, name) ∈ sTab) (rest : Text) :
    ucNameOf (requestText name rest) = some name := by
  obtain ⟨hne, hq, -, hlen⟩ := sTab_name _ he
  have hfield : ReadsAs ucBlank (txt "uc") (requestText name rest) name := by
    refine ⟨[], quote :: rest, ⟨txt "\x7b", [], ?_, by simp, ?_⟩, by simp, hq, Or.inr ⟨rest, rfl⟩⟩
    · simp [requestText, txt, quoted, quote, colon]
    · intro n hn
      obtain rfl : n = 0 := by simpa [txt] using hn
      simp [requestText, txt, quoted, quote]
  have hstr : iotUcJsonStr (requestText name rest) (txt "uc") 48 = some name := by
    refine (fieldText_iff (by decide) ucBlank_quote).mpr ⟨name, hfield, ?_⟩
    exact (List.take_of_length_le (Nat.le_pred_of_lt hlen)).symm
  rw [ucNameOf, hstr]
  exact if_neg hne

theorem hasKey_of_ucNameOf {t name : Text} (h : ucNameOf t = some name) :
    iotUcJsonHasKey t (txt "uc") = true := by
  rw [iotUcJsonHasKey]
  cases hs : strstr t (snprintf 48 (quoted (txt "uc"))) with
  | some r => rfl
  | none => simp [ucNameOf, iotUcJsonStr, fieldText, fieldAfter, hs] at h

/-- A fixed request runs the use case it names. -/
theorem runFixed_request {P : Platform} {id : IotUcId} {name json : Text} {len : ℕ} (rest : Text)
    (he : (id, name) ∈ sTab) (hjson : json = requestText name rest) (hlen : len ≠ 0)
    (d : Device F) : runFixed P d json len =
      ((iotUcRun P id (ucInput json) d).err, (iotUcRun P id (ucInput json) d).st) := by
  have hname : ucNameOf json = some name := hjson ▸ ucNameOf_request he rest
  simp [runFixed, iotUcRunJson_of_name hlen hname, (iotUcIdFromName_name _ he).1]

theorem iotServicesHandleCommand_uc {cap : ℕ} {P : Platform} {past : List UInt8}
    {cmd : IotCommandMsg cap} (hv : iotSecurityValidateCommand cmd = .ok)
    {name : Text} (hname : ucNameOf (cmd.text past) = some name) (d : Device F) :
    iotServicesHandleCommand P past cmd d =
      ((iotUcRun P (iotUcIdFromName name) (ucInput (cmd.text past)) d).err,
        (iotUcRun P (iotUcIdFromName name) (ucInput (cmd.text past)) d).st) := by
  have hlen : cmd.payloadLen ≠ 0 := by
    intro h
    simp [iotSecurityValidateCommand, h] at hv
  simp [iotServicesHandleCommand, hv, hasKey_of_ucNameOf hname, iotUcDispatchCommand, hlen,
    iotUcRunJson_of_name hlen hname]

theorem mapped_text {cap : ℕ} (cmd : IotCommandMsg cap) (past : List UInt8) {head : Text}
    (h0 : (0 : UInt8) ∉ head) {tail : Text} (hcap : (head ++ tail).length ≤ cap) :
    ∃ more, (cmd.mapped (head ++ tail)).text past = head ++ more := by
  have hpad : padTo cap (head ++ tail) =
      head ++ (tail ++ List.replicate (cap - (head ++ tail).length) 0) := by
    rw [padTo, List.take_append, List.take_of_length_le hcap, List.take_replicate,
      List.append_assoc, min_eq_left (Nat.sub_le _ _)]
  refine ⟨cstr (tail ++ List.replicate (cap - (head ++ tail).length) 0 ++ past), ?_⟩
  change cstr (padTo cap (head ++ tail) ++ past) = _
  rw [hpad, List.append_assoc, cstr_append_of_notMem h0]

theorem mapped_validated {cap : ℕ} (cmd : IotCommandMsg cap) {tail : Text}
    (hcap : (123 :: tail).length ≤ cap) :
    iotSecurityValidateCommand (cmd.mapped (123 :: tail)) = .ok := by
  have hlen : ¬ cap < (123 :: tail).length := by omega
  have hpos : 0 < cap := Nat.lt_of_lt_of_le (by simp) hcap
  have hhead : (padTo cap (123 :: tail)).headD 0 = 123 := headD_padTo hpos _
  simp only [iotSecurityValidateCommand, IotCommandMsg.mapped, hlen, hhead]
  simp

/-- A mapped request whose name survives the buffer runs the use case it names. -/
theorem mapped_run {cap : ℕ} (P : Platform) (past : List UInt8) (cmd : IotCommandMsg cap)
    (size : ℕ) {id : IotUcId} {name t rest : Text} (he : (id, name) ∈ sTab)
    (ht : t = requestText name rest) (hsize : name.length + 8 < size) (hcap : size ≤ cap)
    (d : Device F) : ∃ inp : IotUcIn F,
      iotServicesHandleCommand P past (cmd.mapped (snprintf size t)) d =
        ((iotUcRun P id inp d).err, (iotUcRun P id inp d).st) := by
  obtain ⟨-, -, h0, -⟩ := sTab_name _ he
  have hh : (txt "\x7b\"uc\":\"").length = 7 := rfl
  have hbuf : snprintf size t =
      (txt "\x7b\"uc\":\"" ++ (name ++ [quote])) ++ rest.take (size - 1 - (name.length + 8)) := by
    have hsplit : t = (txt "\x7b\"uc\":\"" ++ (name ++ [quote])) ++ rest := by
      simp [ht, requestText]
    have hl : (txt "\x7b\"uc\":\"" ++ (name ++ [quote])).length = name.length + 8 := by
      simp [hh]; omega
    rw [snprintf, hsplit, List.take_append, List.take_of_length_le (by omega), hl]
  have hfit : (snprintf size t).length ≤ cap := by
    have := List.length_take_le (size - 1) t
    simp only [snprintf]
    omega
  rw [hbuf] at hfit ⊢
  have hv : iotSecurityValidateCommand (cmd.mapped ((txt "\x7b\"uc\":\"" ++ (name ++ [quote])) ++
      rest.take (size - 1 - (name.length + 8)))) = .ok := mapped_validated cmd hfit
  have hnul : (0 : UInt8) ∉ txt "\x7b\"uc\":\"" ++ (name ++ [quote]) := by
    simp [txt, h0, quote]
  obtain ⟨more, hm⟩ := mapped_text cmd past hnul hfit
  have hname : ucNameOf ((cmd.mapped ((txt "\x7b\"uc\":\"" ++ (name ++ [quote])) ++
      rest.take (size - 1 - (name.length + 8)))).text past) = some name := by
    rw [hm, List.append_assoc, List.append_assoc]
    exact ucNameOf_request he more
  have hrun := iotServicesHandleCommand_uc (P := P) hv hname d
  rw [(iotUcIdFromName_name _ he).1] at hrun
  exact ⟨_, hrun⟩

section
variable {P : Platform} {past : List UInt8} {cmd : IotCommandMsg iotJsonSmallLen} {d : Device F}

theorem bus_rejects (h : iotSecurityValidateCommand cmd ≠ .ok) :
    Rejects (iotServicesHandleCommand P past cmd d) d := by
  rw [iotServicesHandleCommand_rejected h]
  exact ⟨h, rfl⟩

theorem legacyNumber_isSome (word : Text) :
    (cmd.legacyNumber past word).isSome = cmd.mentions past word := by
  simp [IotCommandMsg.legacyNumber, IotCommandMsg.legacyStart, IotCommandMsg.mentions]

theorem energyCmd_shortcut (h : LegacyShortcut past cmd d .energy) :
    (iotProfileEnergyCmd P past cmd d).1 = .ok := by
  obtain ⟨hlen, huc, hword⟩ := h
  obtain ⟨n, hn⟩ := Option.isSome_iff_exists.mp ((legacyNumber_isSome _).trans hword)
  have he : (.energySetLimits, txt "energy.set_limits") ∈ sTab :=
    hookRequests_registered _ (by simp)
  have ht : txt "\x7b\"uc\":\"energy.set_limits\",\"over_w\":" ++ fmt 1 (ofNumeral n : F) ++
      txt "\x7d" = requestText (txt "energy.set_limits")
        (txt ",\"over_w\":" ++ fmt 1 (ofNumeral n : F) ++ txt "\x7d") := by
    simp [requestText, txt, quote]
  obtain ⟨inp, hrun⟩ := mapped_run P past cmd 128 he ht (by decide) (by decide) d
  simp only [iotProfileEnergyCmd, hlen, huc, hn, hrun]
  rfl

theorem industrialCmd_shortcut (h : LegacyShortcut past cmd d .industrial) :
    (iotProfileIndustrialCmd P past cmd d).1 = .ok := by
  obtain ⟨huc, hword⟩ := h
  obtain ⟨n, hn⟩ := Option.isSome_iff_exists.mp ((legacyNumber_isSome _).trans hword)
  have he : (.indSetLimits, txt "industrial.set_limits") ∈ sTab :=
    hookRequests_registered _ (by simp)
  have ht : txt "\x7b\"uc\":\"industrial.set_limits\",\"t_lim\":" ++ fmt 1 (ofNumeral n : F) ++
      txt "\x7d" = requestText (txt "industrial.set_limits")
        (txt ",\"t_lim\":" ++ fmt 1 (ofNumeral n : F) ++ txt "\x7d") := by
    simp [requestText, txt, quote]
  obtain ⟨inp, hrun⟩ := mapped_run P past cmd 96 he ht (by decide) (by decide) d
  simp only [iotProfileIndustrialCmd, huc, hn, hrun]
  rfl

theorem runFixed_close :
    (runFixed P d (txt "\x7b\"uc\":\"water.valve_close\"\x7d") 28).1 = .ok := by
  have he : (.waterValveClose, txt "water.valve_close") ∈ sTab :=
    hookRequests_registered _ (by simp)
  rw [runFixed_request (txt "\x7d") he ?_ (by decide)]
  · rfl
  · simp [requestText, txt, quote]

theorem runFixed_open (h : d.water.tamper = false) :
    (runFixed P d (txt "\x7b\"uc\":\"water.valve_open\"\x7d") 27).1 = .ok := by
  have he : (.waterValveOpen, txt "water.valve_open") ∈ sTab :=
    hookRequests_registered _ (by simp)
  rw [runFixed_request (txt "\x7d") he ?_ (by decide)]
  · simp [iotUcRun, entryFn, onWater, Handler.at, iotUcWaterValveOpen, h]
  · simp [requestText, txt, quote]

theorem runFixed_open_tamper (h : d.water.tamper = true) :
    runFixed P d (txt "\x7b\"uc\":\"water.valve_open\"\x7d") 27 =
      (.denied, { d with ucInit := true }) := by
  have he : (.waterValveOpen, txt "water.valve_open") ∈ sTab :=
    hookRequests_registered _ (by simp)
  rw [runFixed_request (txt "\x7d") he ?_ (by decide)]
  · simp [iotUcRun, entryFn, onWater, Handler.at, iotUcWaterValveOpen, h]
  · simp [requestText, txt, quote]

theorem runFixed_contactor : runFixed P d (txt "\x7b\"uc\":\"ev.reject_contactor\"\x7d") 32 =
    (.denied, { d with ucInit := true }) := by
  have he : (.evRejectContactor, txt "ev.reject_contactor") ∈ sTab :=
    hookRequests_registered _ (by simp)
  rw [runFixed_request (txt "\x7d") he ?_ (by decide)]
  · rfl
  · simp [requestText, txt, quote]

theorem runFixed_tx : runFixed P d (txt "\x7b\"uc\":\"auto.reject_tx\"\x7d") 26 =
    (.denied, { d with ucInit := true }) := by
  have he : (.autoRejectTx, txt "auto.reject_tx") ∈ sTab :=
    hookRequests_registered _ (by simp)
  rw [runFixed_request (txt "\x7d") he ?_ (by decide)]
  · rfl
  · simp [requestText, txt, quote]

theorem runFixed_motion : runFixed P d (txt "\x7b\"uc\":\"robot.reject_motion\"\x7d") 32 =
    (.denied, { d with ucInit := true }) := by
  have he : (.robotRejectMotion, txt "robot.reject_motion") ∈ sTab :=
    hookRequests_registered _ (by simp)
  rw [runFixed_request (txt "\x7d") he ?_ (by decide)]
  · rfl
  · simp [requestText, txt, quote]

theorem waterCmd_shortcut (h : LegacyShortcut past cmd d .water) :
    (iotProfileWaterCmd P past cmd d).1 = .ok := by
  obtain ⟨huc, hword⟩ := h
  by_cases hclose : cmd.mentions past (txt "close") = true
  · simp only [iotProfileWaterCmd, huc, hclose, Bool.false_eq_true, if_false, if_true,
      runFixed_close]
  · obtain ⟨hopen, htamper⟩ := hword.resolve_left hclose
    simp only [iotProfileWaterCmd, huc, hclose, hopen, Bool.false_eq_true, if_false, if_true,
      runFixed_open htamper]

theorem waterCmd_tamper (huc : cmd.hasUc past = false)
    (hclose : cmd.mentions past (txt "close") = false)
    (hopen : cmd.mentions past (txt "open") = true) (htamper : d.water.tamper = true) :
    Rejects (iotProfileWaterCmd P past cmd d) d := by
  simp only [iotProfileWaterCmd, huc, hclose, hopen, Bool.false_eq_true, if_false, if_true,
    runFixed_open_tamper htamper]
  exact ⟨by simp, rfl⟩

theorem waterCmd_rejects (hbus : Rejects (iotServicesHandleCommand P past cmd d) d)
    (h : ¬ LegacyShortcut past cmd d .water) : Rejects (iotProfileWaterCmd P past cmd d) d := by
  by_cases huc : cmd.hasUc past = true
  · rw [iotProfileWaterCmd, if_pos huc]
    exact hbus
  · have hclose : ¬ cmd.mentions past (txt "close") = true :=
      fun hc => h ⟨by simpa using huc, Or.inl hc⟩
    by_cases hopen : cmd.mentions past (txt "open") = true
    · have htamper : d.water.tamper = true := by
        by_contra ht
        exact h ⟨by simpa using huc, Or.inr ⟨hopen, by simpa using ht⟩⟩
      exact waterCmd_tamper (by simpa using huc) (by simpa using hclose) hopen htamper
    · rw [iotProfileWaterCmd, if_neg huc, if_neg hclose, if_neg hopen]
      exact hbus

theorem energyCmd_rejects (hbus : Rejects (iotServicesHandleCommand P past cmd d) d)
    (h : ¬ LegacyShortcut past cmd d .energy) : Rejects (iotProfileEnergyCmd P past cmd d) d := by
  unfold iotProfileEnergyCmd
  by_cases hlen : cmd.payloadLen = 0
  · rw [if_pos hlen]
    exact ⟨by simp, rfl⟩
  · by_cases huc : cmd.hasUc past = true
    · rw [if_neg hlen, if_pos huc]
      exact hbus
    · have hword : cmd.legacyNumber past (txt "alarm_w") = none := by
        by_contra hn
        refine h ⟨hlen, by simpa using huc, ?_⟩
        rw [← legacyNumber_isSome, Option.isSome_iff_ne_none]
        exact hn
      rw [if_neg hlen, if_neg huc, hword]
      exact hbus

theorem industrialCmd_rejects (hbus : Rejects (iotServicesHandleCommand P past cmd d) d)
    (h : ¬ LegacyShortcut past cmd d .industrial) :
    Rejects (iotProfileIndustrialCmd P past cmd d) d := by
  unfold iotProfileIndustrialCmd
  cases huc : cmd.hasUc past with
  | true => cases cmd.legacyNumber past (txt "t_alarm") <;> exact hbus
  | false =>
    have hword : cmd.legacyNumber past (txt "t_alarm") = none := by
      by_contra hn
      refine h ⟨huc, ?_⟩
      rw [← legacyNumber_isSome, Option.isSome_iff_ne_none]
      exact hn
    simpa only [hword] using hbus

theorem refusing_rejects (hbus : Rejects (iotServicesHandleCommand P past cmd d) d)
    {word json : Text} {len : ℕ}
    (hfix : runFixed P d json len = (.denied, { d with ucInit := true })) :
    Rejects (if cmd.mentions past word then runFixed P d json len
      else iotServicesHandleCommand P past cmd d) d := by
  by_cases hw : cmd.mentions past word = true
  · rw [if_pos hw, hfix]
    exact ⟨by simp, rfl⟩
  · rw [if_neg hw]
    exact hbus

theorem cmdHook_rejects (profile : Profile)
    (hbus : Rejects (iotServicesHandleCommand P past cmd d) d)
    (h : ¬ LegacyShortcut past cmd d profile) : Rejects (profile.cmdHook P past cmd d) d := by
  cases profile with
  | energy => exact energyCmd_rejects hbus h
  | industrial => exact industrialCmd_rejects hbus h
  | water => exact waterCmd_rejects hbus h
  | evCharger => exact refusing_rejects hbus runFixed_contactor
  | automotive => exact refusing_rejects hbus runFixed_tx
  | robotics => exact refusing_rejects hbus runFixed_motion
  | predictive | assetTracker | agriculture | coldchain => exact hbus

theorem cmdHook_shortcut (profile : Profile) (h : LegacyShortcut past cmd d profile) :
    (profile.cmdHook P past cmd d).1 = .ok := by
  cases profile with
  | energy => exact energyCmd_shortcut h
  | industrial => exact industrialCmd_shortcut h
  | water => exact waterCmd_shortcut h
  | _ => exact h.elim

end

/-- Validation stands before everything a hook does, unless the hook takes a legacy shortcut. -/
theorem cmdHook_gated_iff (profile : Profile) (P : Platform) (past : List UInt8)
    (cmd : IotCommandMsg iotJsonSmallLen) (d : Device F) :
    Gated profile P past cmd d ↔
      iotSecurityValidateCommand cmd = .ok ∨ ¬ LegacyShortcut past cmd d profile := by
  constructor
  · intro hg
    by_contra hn
    obtain ⟨hv, hs⟩ := not_or.mp hn
    exact (hg hv).1 (cmdHook_shortcut profile (not_not.mp hs))
  · rintro (hv | hs) hv'
    · exact absurd hv hv'
    · exact cmdHook_rejects profile (bus_rejects hv') hs

/-- On the water profile the body `close` shuts the valve although validation rejects it. -/
theorem waterCmd_close_not_gated :
    ¬ Gated .water hostPlatform [] (mqttEvent (txt "close"))
      (appMain hostPlatform .water false none : Device ℚ) := by
  intro hg
  have hs : LegacyShortcut [] (mqttEvent (txt "close"))
      (appMain hostPlatform .water false none : Device ℚ) .water :=
    ⟨by decide +kernel, Or.inl (by decide +kernel)⟩
  exact (hg (by decide +kernel)).1 (waterCmd_shortcut hs)

end IotPlatform
