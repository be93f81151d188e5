import IotPlatform.Lifecycle

/-!
# Stored credentials stay inside

The configuration holds the Wi-Fi password and the credentials of the broker. No operation answers
anything that depends on them, over any number of operations and resets, and a factory reset leaves
nothing of them.
-/
namespace IotPlatform
open CText CFloat Unwinding

variable {F : Type} [CFloat F]

/-- The configuration with blank credentials. -/
def RuntimeCfg.redacted (c : RuntimeCfg) : RuntimeCfg :=
  { c with
    wifiPass := CBuf.store 65 []
    mqttUser := CBuf.store 64 []
    mqttPass := CBuf.store 64 [] }

def NvsImage.redacted (img : NvsImage) : NvsImage :=
  { img with wifiPass := none, mqttUser := none, mqttPass := none }

def CfgStore.redacted (st : CfgStore) : CfgStore :=
  { st with cfg := st.cfg.redacted, nvs := st.nvs.map NvsImage.redacted }

def SysSt.redacted (s : SysSt) : SysSt := { s with cfg := s.cfg.redacted }

/-- Two of a kind that differ in credentials at most. -/
structure CfgStore.Alike (st st' : CfgStore) : Prop where
  ready : st.ready = st'.ready
  cfg : st.cfg.redacted = st'.cfg.redacted
  nvs : st.nvs.map NvsImage.redacted = st'.nvs.map NvsImage.redacted

theorem redacted_eq_iff {st st' : CfgStore} : st.redacted = st'.redacted ↔ st.Alike st' := by
  constructor
  · intro h
    obtain ⟨hready, hcfg, hnvs⟩ := CfgStore.mk.inj h
    exact ⟨hready, hcfg, hnvs⟩
  · rintro ⟨hready, hcfg, hnvs⟩
    simp [CfgStore.redacted, hready, hcfg, hnvs]

theorem readImage_redacted (img : NvsImage) :
    (readImage img).redacted = (readImage img.redacted).redacted := rfl

theorem readImage_alike {img img' : NvsImage} (h : img.redacted = img'.redacted) :
    (readImage img).redacted = (readImage img').redacted := by
  rw [readImage_redacted img, h, ← readImage_redacted]

theorem writeImage_alike (P : Platform) {old old' : NvsImage} {c c' : RuntimeCfg}
    (hold : old.redacted = old'.redacted) (hc : c.redacted = c'.redacted) :
    (writeImage P old c).redacted = (writeImage P old' c').redacted := by
  have hwrite : ∀ (old : NvsImage) (c : RuntimeCfg), (writeImage P old c).redacted =
      (writeImage P old.redacted c.redacted).redacted := by
    intro old c
    cases h : P.nvsCommit <;> simp only [writeImage, h] <;> rfl
  rw [hwrite old c, hwrite old' c', hold, hc]

theorem nvsReadable_alike (P : Platform) {st st' : CfgStore} (h : st.Alike st') :
    (nvsReadable P st).map NvsImage.redacted = (nvsReadable P st').map NvsImage.redacted := by
  unfold nvsReadable
  cases P.build with
  | host => rfl
  | target =>
    by_cases hopen : P.nvsOpenRead = 0
    · simpa [hopen] using h.nvs
    · simp [hopen]

theorem load_alike (P : Platform) {st st' : CfgStore} (h : st.Alike st') :
    (iotConfigLoad P zeroCfg st).1 = (iotConfigLoad P zeroCfg st').1 ∧
      (iotConfigLoad P zeroCfg st).2.1.redacted = (iotConfigLoad P zeroCfg st').2.1.redacted ∧
      (iotConfigLoad P zeroCfg st).2.2.Alike (iotConfigLoad P zeroCfg st').2.2 := by
  have hread := nvsReadable_alike P h
  unfold iotConfigLoad
  rw [← h.ready]
  cases hr : st.ready with
  | false => simpa using h
  | true =>
    cases hst : nvsReadable P st with
    | none =>
      have hst' : nvsReadable P st' = none := by simpa [hst] using hread.symm
      simpa [hst'] using ⟨h.cfg, h⟩
    | some img =>
      obtain ⟨img', hst', himg⟩ : ∃ img', nvsReadable P st' = some img' ∧
          img'.redacted = img.redacted := by simpa [hst] using hread.symm
      have hcfg := readImage_alike himg.symm
      simpa [hst'] using ⟨hcfg, ⟨rfl, hcfg, h.nvs⟩⟩

theorem save_alike (P : Platform) {c c' : RuntimeCfg} (hc : c.redacted = c'.redacted)
    {st st' : CfgStore} (h : st.Alike st') :
    (iotConfigSave P c st).1 = (iotConfigSave P c' st').1 ∧
      (iotConfigSave P c st).2.Alike (iotConfigSave P c' st').2 := by
  unfold iotConfigSave
  rw [← h.ready]
  cases hr : st.ready with
  | false => simpa using h
  | true =>
    cases P.build with
    | host => exact ⟨rfl, rfl, hc, h.nvs⟩
    | target =>
      by_cases hopen : P.nvsOpenWrite = 0
      · have hold : (st.nvs.getD NvsImage.empty).redacted =
            (st'.nvs.getD NvsImage.empty).redacted := by
          have hnvs := h.nvs
          cases hn : st.nvs <;> cases hn' : st'.nvs <;> simp_all
        have himg := writeImage_alike P hold hc
        simpa [hopen] using ⟨rfl, hc, congrArg some himg⟩
      · simpa [hopen] using h

theorem provisionedCfg_alike (P : Platform) (json : Text) {c c' : RuntimeCfg}
    (h : c.redacted = c'.redacted) :
    (provisionedCfg P json c).redacted = (provisionedCfg P json c').redacted ∧
      (provisionedCfg P json c).provisioned = (provisionedCfg P json c').provisioned := by
  have hprov : ∀ c : RuntimeCfg, (provisionedCfg P json c).redacted =
      (provisionedCfg P json c.redacted).redacted := fun _ => rfl
  have hall : (provisionedCfg P json c).redacted = (provisionedCfg P json c').redacted := by
    rw [hprov c, hprov c', h]
  have hflag : (provisionedCfg P json c).redacted.provisioned =
      (provisionedCfg P json c').redacted.provisioned := by rw [hall]
  exact ⟨hall, hflag⟩

/-- Two states of the platform modules that differ in credentials at most. -/
theorem alike_cases {s s' : SysSt} (h : s.redacted = s'.redacted) :
    ∃ st, s' = { s with cfg := st } ∧ s.cfg.Alike st := by
  cases s
  cases s'
  simp only [SysSt.redacted, SysSt.mk.injEq] at h
  obtain ⟨hcfg, rfl, rfl, rfl, rfl, rfl, rfl, rfl⟩ := h
  exact ⟨_, rfl, redacted_eq_iff.mp hcfg⟩

/-- What a call answers, and what it leaves apart from credentials, does not depend on them. -/
def Discreet {β : Type} (g : SysSt → β × SysSt) : Prop :=
  ∀ s st, s.cfg.Alike st → (g s).1 = (g { s with cfg := st }).1 ∧
    (g s).2.redacted = (g { s with cfg := st }).2.redacted

theorem sys_redacted {s : SysSt} {st st' : CfgStore} (h : st.Alike st') :
    SysSt.redacted { s with cfg := st } = SysSt.redacted { s with cfg := st' } := by
  simp only [SysSt.redacted, redacted_eq_iff.mpr h]

/-- A call that neither looks at the configuration nor stores in it. -/
theorem discreet_of_frame {β : Type} {g : SysSt → β × SysSt}
    (h : ∀ s st, (g { s with cfg := st }).1 = (g s).1 ∧
      (g { s with cfg := st }).2 = { (g s).2 with cfg := st }) : Discreet g := by
  intro s st hst
  have hs := h s s.cfg
  refine ⟨(h s st).1.symm, ?_⟩
  rw [(h s st).2, show (g s).2 = { (g s).2 with cfg := s.cfg } from (h s s.cfg).2]
  exact sys_redacted hst

theorem provision_discreet (P : Platform) (json : Text) (len : ℕ) :
    Discreet (iotProvisionApplyJson P json len) := by
  intro s st hst
  unfold iotProvisionApplyJson
  split_ifs
  · exact ⟨rfl, sys_redacted hst⟩
  · obtain ⟨-, hload, hstore⟩ := load_alike P hst
    obtain ⟨hcfg, hflag⟩ := provisionedCfg_alike P json hload
    obtain ⟨hcode, hsaved⟩ := save_alike P hcfg hstore
    simp only [hcode, hflag, SysSt.redacted, redacted_eq_iff.mpr hsaved, and_self]

/-- What a platform use case answers and leaves. -/
def Handler.sysAct (h : Handler F SysSt) (inp : IotUcIn F) (out : IotUcOut F) (s : SysSt) :
    (IotErr × IotUcOut F) × SysSt :=
  (((h inp out s).err, (h inp out s).out), (h inp out s).st)

section
variable (P : Platform) (inp : IotUcIn F) (out : IotUcOut F)

omit [CFloat F] in
theorem factoryReset_discreet : Discreet ((iotUcPltFactoryReset P).sysAct inp out) := by
  intro s st hst
  obtain ⟨hcode, hsaved⟩ := save_alike P (c := iotConfigSetDefaults) rfl hst
  simp only [Handler.sysAct, iotUcPltFactoryReset, hcode, SysSt.redacted,
    redacted_eq_iff.mpr hsaved, and_self]

theorem setSampleMs_discreet : Discreet ((iotUcPltSetSampleMs P).sysAct inp out) := by
  intro s st hst
  simp only [Handler.sysAct, iotUcPltSetSampleMs]
  split_ifs
  · exact ⟨rfl, sys_redacted hst⟩
  · obtain ⟨-, hload, hstore⟩ := load_alike P hst
    have hcfg : ∀ c c' : RuntimeCfg, c.redacted = c'.redacted →
        RuntimeCfg.redacted { c with samplePeriodMs := sampleMsAsked inp } =
          RuntimeCfg.redacted { c' with samplePeriodMs := sampleMsAsked inp } := by
      intro c c' h
      simp_all [RuntimeCfg.redacted]
    obtain ⟨hcode, hsaved⟩ := save_alike P (hcfg _ _ hload) hstore
    simp only [hcode, SysSt.redacted, redacted_eq_iff.mpr hsaved, and_self]

theorem setCloud_discreet : Discreet ((iotUcPltSetCloud P).sysAct inp out) := by
  intro s st hst
  simp only [Handler.sysAct, iotUcPltSetCloud]
  split_ifs
  · exact ⟨rfl, sys_redacted hst⟩
  · obtain ⟨-, hload, hstore⟩ := load_alike P hst
    have hcfg : ∀ c c' : RuntimeCfg, c.redacted = c'.redacted →
        RuntimeCfg.redacted { c with cloud := (cloudAsked inp).toUInt32 } =
          RuntimeCfg.redacted { c' with cloud := (cloudAsked inp).toUInt32 } := by
      intro c c' h
      simp_all [RuntimeCfg.redacted]
    obtain ⟨hcode, hsaved⟩ := save_alike P (hcfg _ _ hload) hstore
    simp only [hcode, SysSt.redacted, redacted_eq_iff.mpr hsaved, and_self]

omit [CFloat F] in
theorem pltProvision_discreet : Discreet ((iotUcPltProvision P).sysAct inp out) := by
  intro s st hst
  simp only [Handler.sysAct, iotUcPltProvision]
  split_ifs
  · exact ⟨rfl, sys_redacted hst⟩
  · obtain ⟨hcode, hleft⟩ := provision_discreet P (inp.json.getD inp.s0.text)
      (inp.json.getD inp.s0.text).length s st hst
    simp only [provisionReply, hcode, hleft, and_self]

omit [CFloat F] in
theorem pltOta_discreet : Discreet ((iotUcPltOta P).sysAct inp out) := by
  refine discreet_of_frame fun s st => ?_
  simp only [Handler.sysAct, iotUcPltOta]
  split <;> exact ⟨rfl, rfl⟩

theorem setLogLevel_discreet : Discreet (iotUcPltSetLogLevel.sysAct inp out) := by
  refine discreet_of_frame fun s st => ?_
  simp only [Handler.sysAct, iotUcPltSetLogLevel]
  split_ifs <;> exact ⟨rfl, rfl⟩

end

/-- A part of the device, without the credentials. -/
def Device.shown (d : Device F) : (k : Part) → k.View F
  | .platform => d.sys.redacted
  | k => d.view k

omit [CFloat F] in
theorem Device.shown_eq (d : Device F) {k : Part} (hk : k ≠ .platform) : d.shown k = d.view k := by
  cases k <;> first | rfl | exact absurd rfl hk

/-- A call on the platform modules that is discreet, as a call on the device. -/
def SysDiscreet (g : Act F) : Prop :=
  ∀ d d' : Device F, d.sys.redacted = d'.sys.redacted → (g d).1 = (g d').1 ∧
    (g d).2.sys.redacted = (g d').2.sys.redacted

omit [CFloat F] in
theorem Discreet.device {β : Type} {g : SysSt → β × SysSt} (hg : Discreet g)
    {f : β → IotErr × Option (IotUcOut F)} :
    SysDiscreet fun d : Device F => (f (g d.sys).1, { d with sys := (g d.sys).2 }) := by
  intro d d' h
  obtain ⟨st, hd', hst⟩ := alike_cases h
  obtain ⟨hanswer, hleft⟩ := hg d.sys st hst
  rw [← hd'] at hanswer hleft
  exact ⟨congrArg f hanswer, hleft⟩

theorem run_discreet (P : Platform) {id : IotUcId} (hid : id.part = .platform) (inp : IotUcIn F) :
    SysDiscreet fun d : Device F =>
      (((iotUcRun P id inp d).err, some (iotUcRun P id inp d).out), (iotUcRun P id inp d).st) := by
  have hof : ∀ {h : Handler F SysSt}, Discreet (h.sysAct inp .zero) →
      SysDiscreet fun d : Device F =>
      (((onSys h inp .zero { d with ucInit := true }).err,
        some (onSys h inp .zero { d with ucInit := true }).out),
        (onSys h inp .zero { d with ucInit := true }).st) := by
    intro h hh d d' hd
    exact hh.device (f := fun r => (r.1, some r.2)) { d with ucInit := true }
      { d' with ucInit := true } hd
  cases id
  case pltFactoryReset => exact hof (factoryReset_discreet P inp .zero)
  case pltSetSampleMs => exact hof (setSampleMs_discreet P inp .zero)
  case pltProvision => exact hof (pltProvision_discreet P inp .zero)
  case pltOta => exact hof (pltOta_discreet P inp .zero)
  case pltSetCloud => exact hof (setCloud_discreet P inp .zero)
  case pltSetLogLevel => exact hof (setLogLevel_discreet inp .zero)
  case pltGetDiag | pltIdentity | pltExportTopics | pltWifiBackoffPolicy | pltCmdSchema |
      pltMarkOtaValid | pltShutdown => exact hof (discreet_of_frame fun _ _ => ⟨rfl, rfl⟩)
  all_goals exact nomatch hid

theorem commandActs_discreet (P : Platform) : CommandActs (F := F) P fun r g =>
    requestPart r = .platform → SysDiscreet (codeOnly g) where
  idle _ _ _ _ h := ⟨rfl, h⟩
  refused e _ :=
    (discreet_of_frame (g := fun s => (e, { s with diag := iotDiagEvent diagCmdReject s.diag }))
      fun _ _ => ⟨rfl, rfl⟩).device (f := fun e => (e, none))
  provision json len _ := (provision_discreet P json len).device (f := fun e => (e, none))
  ota url _ :=
    (discreet_of_frame (g := iotOtaStart P url) fun _ _ => ⟨rfl, rfl⟩).device
      (f := fun e => (e, none))
  run id json hid d d' h := by
    obtain ⟨hanswer, hleft⟩ := run_discreet P hid (ucInput json) d d' h
    obtain ⟨hcode, -⟩ := Prod.mk.inj hanswer
    exact ⟨congrArg (·, none) hcode, hleft⟩

theorem runJson_discreet (P : Platform) (json : Text) (len : ℕ)
    (h : requestPart (textUseCase (F := F) json len) = .platform) :
    SysDiscreet fun d : Device F =>
      (((iotUcRunJson P json len .zero d).err, some (iotUcRunJson P json len .zero d).out),
        (iotUcRunJson P json len .zero d).st) := by
  unfold textUseCase at h
  unfold iotUcRunJson
  by_cases hlen : len = 0
  · simp only [if_pos hlen]
    exact fun _ _ hd => ⟨rfl, hd⟩
  · simp only [if_neg hlen] at h ⊢
    cases hname : ucNameOf json with
    | none => exact fun _ _ hd => ⟨rfl, hd⟩
    | some name =>
      rw [hname] at h
      exact run_discreet P h (ucInput json)

theorem Op.act_discreet {profile : Profile} {op : Op F} (h : op.part profile = .platform) :
    SysDiscreet (op.act profile) := by
  cases hs : op.sampleFn with
  | some r =>
    have hpart := (Op.act_sample hs profile).1
    rw [h] at hpart
    cases op <;> cases hs <;> cases hpart
  | none =>
    cases op with
    | command P past cmd =>
      rw [Op.part_command] at h
      exact (commandActs_discreet P).hook past cmd profile h
    | run P id inp => exact run_discreet P h inp
    | runJson P json len =>
      rw [Op.part_runJson] at h
      exact runJson_discreet P json len h
    | otaProgress state =>
      exact (discreet_of_frame (g := fun s => (IotErr.ok,
        { s with ota := { s.ota with state := state } })) fun _ _ => ⟨rfl, rfl⟩).device
          (f := fun e => (e, none))
    | diag id =>
      exact (discreet_of_frame (g := fun s => (IotErr.ok,
        { s with diag := iotDiagEvent id s.diag })) fun _ _ => ⟨rfl, rfl⟩).device
          (f := fun e => (e, none))
    | _ => exact nomatch hs

theorem Op.apply_shown_other {profile : Profile} (op : Op F) (d : Device F) {k : Part}
    (hk : k ≠ op.part profile) : (op.apply profile d).shown k = d.shown k := by
  have hview : (op.apply profile d).view k = d.view k := (op.act_confined profile).other d hk
  by_cases hplt : k = .platform
  · subst hplt
    exact congrArg SysSt.redacted hview
  · rw [Device.shown_eq _ hplt, Device.shown_eq _ hplt]
    exact hview

/-- Without the credentials the parts are as separate as they are with them. -/
theorem deviceSystem_unwinds_shown (profile : Profile) :
    Unwinds (deviceSystem (F := F) profile) (· = ·) fun k d => d.shown k where
  output_eq {d d' op} h := by
    by_cases hk : op.part profile = .platform
    · have hsys : d.shown .platform = d'.shown .platform := hk ▸ h
      exact (Op.act_discreet hk d d' hsys).1
    · have hview : d.shown (op.part profile) = d'.shown (op.part profile) := h
      rw [d.shown_eq hk, d'.shown_eq hk] at hview
      exact (op.act_confined profile).reply_eq hview
  step_eq {k d d'} op h := by
    by_cases hk : k = op.part profile
    · by_cases hplt : k = .platform
      · subst hplt
        exact (Op.act_discreet hk.symm d d' h).2
      · rw [Device.shown_eq _ hplt, Device.shown_eq _ hplt] at h ⊢
        subst hk
        exact (op.act_confined profile).view_eq h
    · exact (op.apply_shown_other d hk).trans (h.trans (op.apply_shown_other d' hk).symm)
  unseen {_ op} d h := op.apply_shown_other d (Ne.symm h)

theorem adoptDeviceId_alike (P : Platform) {st st' : CfgStore} (h : st.Alike st') :
    (adoptDeviceId P st).Alike (adoptDeviceId P st') := by
  obtain ⟨-, hload, hstore⟩ := load_alike P h
  have hid : (iotConfigLoad P zeroCfg st).2.1.redacted.deviceId =
      (iotConfigLoad P zeroCfg st').2.1.redacted.deviceId := by rw [hload]
  have hid : (iotConfigLoad P zeroCfg st).2.1.deviceId =
      (iotConfigLoad P zeroCfg st').2.1.deviceId := hid
  have hcfg : ∀ c c' : RuntimeCfg, c.redacted = c'.redacted → ∀ id : CBuf 32,
      RuntimeCfg.redacted { c with deviceId := id } =
        RuntimeCfg.redacted { c' with deviceId := id } := by
    intro c c' h id
    simp_all [RuntimeCfg.redacted]
  simp only [adoptDeviceId, hid]
  split_ifs
  · exact (save_alike P (hcfg _ _ hload _) hstore).2
  · exact hstore

theorem appMain_shown (P : Platform) (profile : Profile) (wdtReset : Bool)
    {nvs nvs' : Option NvsImage} (h : nvs.map NvsImage.redacted = nvs'.map NvsImage.redacted)
    (k : Part) : (appMain P profile wdtReset nvs : Device F).shown k =
      (appMain P profile wdtReset nvs').shown k := by
  cases k
  case platform =>
    have hstores : CfgStore.Alike ⟨true, iotConfigSetDefaults, nvs⟩
        ⟨true, iotConfigSetDefaults, nvs'⟩ := ⟨rfl, rfl, h⟩
    exact sys_redacted (s := (appMain P profile wdtReset nvs : Device F).sys)
      (adoptDeviceId_alike P hstores)
  all_goals rfl

theorem Life.apply_shown (profile : Profile) (e : Life F) {d d' : Device F}
    (h : ∀ k, d.shown k = d'.shown k) (k : Part) :
    (e.apply profile d).shown k = (e.apply profile d').shown k := by
  cases e with
  | op o => exact (deviceSystem_unwinds_shown profile).step_eq o (h k)
  | reset P wdtReset =>
    have hsys : d.sys.redacted = d'.sys.redacted := h .platform
    have hcfg : d.sys.cfg.redacted = d'.sys.cfg.redacted := congrArg SysSt.cfg hsys
    exact appMain_shown P profile wdtReset (redacted_eq_iff.mp hcfg).nvs k

/-- Devices that boot from flash contents which differ in the stored credentials alone, and then go
through the same operations and resets, cannot be told apart by any answer. -/
theorem credentials_stay_inside (P : Platform) (profile : Profile) (wdtReset : Bool)
    {nvs nvs' : Option NvsImage} (h : nvs.map NvsImage.redacted = nvs'.map NvsImage.redacted)
    (life : List (Life F)) (op : Op F) :
    op.reply profile ((appMain P profile wdtReset nvs : Device F).live profile life) =
      op.reply profile ((appMain P profile wdtReset nvs').live profile life) := by
  have hlive : ∀ d d' : Device F, (∀ k, d.shown k = d'.shown k) →
      ∀ k, (d.live profile life).shown k = (d'.live profile life).shown k := by
    induction life with
    | nil => exact fun _ _ hd => hd
    | cons e life ih => exact fun d d' hd => ih _ _ (e.apply_shown profile hd)
  exact (deviceSystem_unwinds_shown profile).output_eq
    (hlive _ _ (appMain_shown P profile wdtReset h) (op.part profile))

/-- A stored Wi-Fi password, which each boot loads, shows in no identity. -/
theorem password_not_in_identity :
    let P := macPlatform fun _ => 1
    let img := { NvsImage.empty with wifiPass := some (CBuf.store 65 (txt "secret")) }
    let op : Op ℚ := .run P .pltIdentity .zero
    ((appMain P .water false (some img)).live .water (twoChanges P)).sys.cfg.cfg.wifiPass.text =
        txt "secret" ∧
      op.reply .water ((appMain P .water false (some img)).live .water (twoChanges P)) =
        op.reply .water ((appMain P .water false (some NvsImage.empty)).live .water
          (twoChanges P)) := by
  intro P img op
  have h : (some img).map NvsImage.redacted = (some NvsImage.empty).map NvsImage.redacted := rfl
  exact ⟨by decide +kernel, credentials_stay_inside P .water false h (twoChanges P) op⟩

@[simp] theorem iotConfigSave_ready (P : Platform) (c : RuntimeCfg) (st : CfgStore) :
    (iotConfigSave P c st).2.ready = st.ready := by
  unfold iotConfigSave
  split
  · rfl
  · split
    · rfl
    · split_ifs <;> rfl

theorem provision_ready (P : Platform) (json : Text) (len : ℕ) (s : SysSt) :
    (iotProvisionApplyJson P json len s).2.cfg.ready = s.cfg.ready := by
  unfold iotProvisionApplyJson
  split_ifs <;> simp

theorem run_ready (P : Platform) (id : IotUcId) (inp : IotUcIn F) (d : Device F) :
    (iotUcRun P id inp d).st.sys.cfg.ready = d.sys.cfg.ready := by
  cases id
  case pltFactoryReset => exact iotConfigSave_ready P _ _
  case pltSetSampleMs =>
    simp only [iotUcRun, entryFn, onSys, Handler.at, iotUcPltSetSampleMs]
    split_ifs <;> simp
  case pltProvision =>
    simp only [iotUcRun, entryFn, onSys, Handler.at, iotUcPltProvision]
    split_ifs
    · rfl
    · exact provision_ready P _ _ _
  case pltOta =>
    simp only [iotUcRun, entryFn, onSys, Handler.at, iotUcPltOta]
    split <;> rfl
  case pltSetCloud =>
    simp only [iotUcRun, entryFn, onSys, Handler.at, iotUcPltSetCloud]
    split_ifs <;> simp
  case pltSetLogLevel =>
    simp only [iotUcRun, entryFn, onSys, Handler.at, iotUcPltSetLogLevel]
    split_ifs <;> rfl
  all_goals rfl

theorem commandEnds_ready (P : Platform) (d : Device F) :
    CommandEnds P d fun _ d' => d'.sys.cfg.ready = d.sys.cfg.ready where
  idle := rfl
  refused := rfl
  provision _ _ := provision_ready P _ _ _
  ota _ := rfl
  run id _ := run_ready P id _ d

theorem Op.apply_ready (profile : Profile) (op : Op F) (d : Device F) :
    (op.apply profile d).sys.cfg.ready = d.sys.cfg.ready := by
  cases op with
  | command P past cmd => exact (commandEnds_ready P d).hook past cmd profile
  | run P id inp => exact run_ready P id inp d
  | runJson P json len => exact (commandEnds_ready P d).text json len .zero
  | _ => rfl

theorem adoptDeviceId_ready (P : Platform) (st : CfgStore) :
    (adoptDeviceId P st).ready = st.ready := by
  unfold adoptDeviceId
  dsimp only
  split_ifs <;> simp

theorem reachable_ready {profile : Profile} {d : Device F} (h : Reachable profile d) :
    d.sys.cfg.ready = true := by
  induction h with
  | boot P wdtReset nvs => exact adoptDeviceId_ready P _
  | step op _ ih => exact (op.apply_ready profile _).trans ih

/-- A save that stores everything leaves nothing of what was stored before. -/
theorem writeImage_overwrites {P : Platform} (h : AllStored P) (old old' : NvsImage)
    (c : RuntimeCfg) : writeImage P old c = writeImage P old' c := by
  obtain ⟨hset, hcommit⟩ := h
  simp [writeImage, nvsPut, hset, hcommit]

/-- A boot from the defaults stores the same configuration as a boot from erased flash. -/
theorem adoptDeviceId_defaults {P : Platform} (hP : WritesHold P) (hopen : P.nvsOpenWrite = 0)
    {img : NvsImage} (himg : readImage img = iotConfigSetDefaults) :
    adoptDeviceId P ⟨true, iotConfigSetDefaults, some img⟩ =
      adoptDeviceId P ⟨true, iotConfigSetDefaults, none⟩ := by
  have hload : ∀ nvs, nvs = none ∨ nvs = some img →
      iotConfigLoad P zeroCfg ⟨true, iotConfigSetDefaults, nvs⟩ =
        (.ok, iotConfigSetDefaults, ⟨true, iotConfigSetDefaults, nvs⟩) := by
    rintro nvs (rfl | rfl) <;>
      by_cases hread : P.nvsOpenRead = 0 <;>
        simp [iotConfigLoad, nvsReadable, hP.1, hread, himg]
  have hid : iotConfigSetDefaults.deviceId.text = [] ∨
      (strstr iotConfigSetDefaults.deviceId.text (txt "unprovisioned")).isSome := by decide +kernel
  have hsave (c : RuntimeCfg) (nvs : Option NvsImage) :=
    iotConfigSave_target (c := c) hP.1 (rfl : (CfgStore.mk true iotConfigSetDefaults nvs).ready =
      true) hopen
  simp only [adoptDeviceId, hload none (Or.inl rfl), hload (some img) (Or.inr rfl), if_pos hid,
    hsave]
  rw [writeImage_overwrites hP.2 (Option.getD (some img) NvsImage.empty) (Option.getD none _)]

/-- After a factory reset that could write NVS, a reset makes the device what it would be if it
booted from erased flash, whatever it has gone through before. -/
theorem factory_reset_erases {P P' : Platform} (hP : WritesHold P) (hopen : P.nvsOpenWrite = 0)
    (hP' : WritesHold P') (hopen' : P'.nvsOpenWrite = 0) {profile : Profile} {d : Device F}
    (hd : Reachable profile d) (inp : IotUcIn F) (wdtReset : Bool) :
    Life.apply profile (iotUcRun P .pltFactoryReset inp d).st (.reset P' wdtReset) =
      appMain P' profile wdtReset none := by
  have hready : d.sys.cfg.ready = true := reachable_ready hd
  have hnvs : (iotUcRun P .pltFactoryReset inp d).st.sys.cfg.nvs =
      some (writeImage P (d.sys.cfg.nvs.getD NvsImage.empty) iotConfigSetDefaults) := by
    change (iotConfigSave P iotConfigSetDefaults d.sys.cfg).2.nvs = _
    rw [iotConfigSave_target hP.1 hready hopen]
  have himg : readImage (writeImage P (d.sys.cfg.nvs.getD NvsImage.empty) iotConfigSetDefaults) =
      iotConfigSetDefaults := (readImage_writeImage_iff hP.2 _ _).mpr (by decide)
  have hcfg := adoptDeviceId_defaults hP' hopen' himg
  have hboot : ∀ nvs, (appMain P' profile wdtReset nvs : Device F) =
      { (appMain P' profile wdtReset none : Device F) with
        sys := { (appMain P' profile wdtReset none : Device F).sys with
          cfg := adoptDeviceId P' ⟨true, iotConfigSetDefaults, nvs⟩ } } := fun _ => rfl
  rw [Life.apply, hnvs, hboot, hcfg]
  exact (hboot none).symm

/-- A meter that was provisioned, reset to the factory settings and booted again. -/
theorem provisioned_meter_erased :
    let P := macPlatform fun _ => 1
    let json := txt "\x7b\"uc\":\"plt.provision\",\"ssid\":\"home\"\x7d"
    let d : Device ℚ := (Op.runJson P json 38).apply .energy (appMain P .energy false none)
    Life.apply .energy (iotUcRun P .pltFactoryReset .zero d).st (.reset P true) =
      appMain P .energy true none := by
  intro P json d
  have hP : WritesHold P := macPlatform_writesHold fun _ => 1
  exact factory_reset_erases hP rfl hP rfl (.step _ (.boot P false none)) .zero true

end IotPlatform
