import IotPlatform.Parts
import IotPlatform.Unwinding

/-!
# The products do not interfere

Every operation is addressed to one part of the device, which its text or its kind decides. Each
part, with its pin or its PWM channel, sees only the operations addressed to it.
-/
namespace IotPlatform
open CText CFloat Unwinding

variable {F : Type} [CFloat F]

/-- What a sample runs. -/
def Op.sampleFn : Op F → Option (Part × Handler F (Device F))
  | .energyAdc mv => some (.energy, onEnergy fun _ => iotUcEnergyOnAdc mv)
  | .indSample temp vib current pressure pulses =>
    some (.industrial, onInd fun _ => iotUcIndOnSample temp vib current pressure pulses)
  | .pmSample accel => some (.predictive, onPm fun _ => iotUcPmOnSample accel)
  | .waterSample pulses tankMv => some (.water, onWater fun _ => iotUcWaterOnSample pulses tankMv)
  | .evSample mv => some (.evCharger, onEv fun _ => iotUcEvOnSample mv)
  | .autoFrame canId speed rpm coolant =>
    some (.automotive, onCan fun _ => iotUcAutoOnFrame canId speed rpm coolant)
  | .trkSample rssi battMv moving =>
    some (.assetTracker, onTr fun _ => iotUcTrkOnSample rssi battMv moving)
  | .agriSample moistPct => some (.agriculture, onAg fun _ => iotUcAgriOnSample moistPct)
  | .coldSample tC rh doorOpen => some (.coldchain, onCd fun _ => iotUcColdOnSample tC rh doorOpen)
  | .robotUart n => some (.robotics, onRb fun _ => iotUcRobotOnUart n)
  | .command .. | .run .. | .runJson .. | .otaProgress .. | .diag .. => none

/-- The part that an operation is addressed to, by its text or its kind alone. -/
def Op.part (profile : Profile) (op : Op F) : Part :=
  match op.useCase profile with
  | some (_, id, _) => id.part
  | none =>
    match op.sampleFn with
    | some (k, _) => k
    | none => .platform

/-- The code and the record with which an operation answers; `cmd_task` gets a code only. -/
def Op.reply (profile : Profile) (d : Device F) (op : Op F) : IotErr × Option (IotUcOut F) :=
  match op with
  | .command P past cmd => ((profile.cmdHook P past cmd d).1, none)
  | .run P id inp => ((iotUcRun P id inp d).err, some (iotUcRun P id inp d).out)
  | .runJson P json len =>
    ((iotUcRunJson P json len .zero d).err, some (iotUcRunJson P json len .zero d).out)
  | op =>
    match op.sampleFn with
    | some (_, fn) => (fn.act .zero .zero d).1
    | none => (.ok, none)

theorem sampleFn_keepsTo {op : Op F} {k : Part} {fn : Handler F (Device F)}
    (h : op.sampleFn = some (k, fn)) : KeepsTo k fn := by
  cases op <;> cases h
  case energyAdc mv =>
    exact onEnergy_keepsTo
      (energyMeasure_drives.of_input (adcInput mv) fun _ _ _ _ => rfl)
  case waterSample pulses tankMv =>
    let z : IotUcIn F := .zero
    let inp := { z with u := Function.update z.u 0 pulses, i := Function.update z.i 0 tankMv }
    exact onWater_keepsTo (waterMeter_drives.of_input (fun _ => inp) fun _ _ _ _ => rfl)
  case indSample => exact onInd_keepsTo _
  case pmSample => exact onPm_keepsTo _
  case evSample => exact onEv_keepsTo _
  case autoFrame => exact onCan_keepsTo _
  case trkSample => exact onTr_keepsTo _
  case agriSample => exact onAg_keepsTo _
  case coldSample => exact onCd_keepsTo _
  case robotUart => exact onRb_keepsTo _

/-- What holds of every call that a command may amount to, whatever device it meets: nothing is
done, the refusal is counted, the device is provisioned, an update started or a use case run. -/
structure CommandActs (P : Platform)
    (Q : Option (IotUcId × IotUcIn F) → (Device F → IotErr × Device F) → Prop) : Prop where
  idle : ∀ e, Q none fun d => (e, d)
  refused : ∀ e, Q none fun d => (e, d.diagEvent diagCmdReject)
  provision : ∀ json len, Q none fun d => ((iotProvisionApplyJson P json len d.sys).1,
    { d with sys := (iotProvisionApplyJson P json len d.sys).2 })
  ota : ∀ url, Q none fun d =>
    ((iotOtaStart P url d.sys).1, { d with sys := (iotOtaStart P url d.sys).2 })
  run : ∀ id json, Q (some (id, ucInput json)) fun d =>
    ((iotUcRun P id (ucInput json) d).err, (iotUcRun P id (ucInput json) d).st)

section
variable {P : Platform}
  {Q : Option (IotUcId × IotUcIn F) → (Device F → IotErr × Device F) → Prop}

theorem CommandActs.text (h : CommandActs P Q) (json : Text) (len : ℕ) (out : IotUcOut F) :
    Q (textUseCase json len) fun d =>
      ((iotUcRunJson P json len out d).err, (iotUcRunJson P json len out d).st) := by
  unfold textUseCase iotUcRunJson
  by_cases hlen : len = 0
  · simp only [if_pos hlen]
    exact h.idle _
  · simp only [if_neg hlen]
    cases ucNameOf json with
    | none => exact h.idle _
    | some name => exact h.run _ _

variable {cap : ℕ} (past : List UInt8) (cmd : IotCommandMsg cap)

theorem CommandActs.bus (h : CommandActs P Q) :
    Q (busUseCase past cmd) (iotServicesHandleCommand P past cmd) := by
  unfold busUseCase
  by_cases hv : iotSecurityValidateCommand cmd = .ok
  · have hlen : cmd.payloadLen ≠ 0 := by
      intro h
      simp [iotSecurityValidateCommand, h] at hv
    by_cases huc : cmd.hasUc past = true
    · have huc' : iotUcJsonHasKey (cmd.text past) (txt "uc") = true := huc
      rw [if_pos ⟨hv, huc⟩]
      unfold iotServicesHandleCommand
      simp only [if_neg (not_not_intro hv), if_pos huc', iotUcDispatchCommand, if_neg hlen]
      exact h.text _ _ _
    · have huc' : ¬ iotUcJsonHasKey (cmd.text past) (txt "uc") = true := huc
      rw [if_neg fun h => huc h.2]
      unfold iotServicesHandleCommand
      simp only [if_neg (not_not_intro hv), if_neg huc']
      by_cases hprov : cmd.IsProvisioning
      · simp only [if_pos hprov]
        exact h.provision _ _
      · simp only [if_neg hprov]
        cases plainOtaUrl (cmd.text past) with
        | some url => exact h.ota url
        | none => exact h.idle _
  · rw [if_neg fun h => hv h.1]
    unfold iotServicesHandleCommand
    simp only [if_pos hv]
    exact h.refused _

/-- The command hook of a profile amounts to one of these calls. -/
theorem CommandActs.hook (h : CommandActs P Q) (profile : Profile) :
    Q (hookUseCase past cmd profile) (profile.cmdHook P past cmd) := by
  have hbus : ∀ cmd : IotCommandMsg cap, Q (busUseCase past cmd) _ := fun cmd => h.bus past cmd
  have hword : ∀ word json len {rest : Option (IotUcId × IotUcIn F)}
      {g : Device F → IotErr × Device F}, Q rest g →
      Q (wordUseCase past cmd word json len rest)
        fun d => if cmd.mentions past word then runFixed P d json len else g d := by
    intro word json len rest g hrest
    unfold wordUseCase
    by_cases hm : cmd.mentions past word = true
    · simp only [if_pos hm]
      exact h.text json len .zero
    · simp only [if_neg hm]
      exact hrest
  cases profile with
  | energy =>
    unfold hookUseCase Profile.cmdHook iotProfileEnergyCmd
    by_cases hlen : cmd.payloadLen = 0
    · simp only [if_pos hlen]
      exact h.idle _
    · by_cases huc : cmd.hasUc past = true
      · simp only [if_neg hlen, if_pos huc]
        exact hbus cmd
      · simp only [if_neg hlen, if_neg huc]
        cases cmd.legacyNumber past (txt "alarm_w") with
        | none => exact hbus cmd
        | some n => exact hbus _
  | industrial =>
    unfold hookUseCase Profile.cmdHook iotProfileIndustrialCmd
    cases cmd.legacyNumber past (txt "t_alarm") with
    | none => exact hbus cmd
    | some n =>
      cases cmd.hasUc past with
      | true => exact hbus cmd
      | false => exact hbus _
  | water =>
    unfold hookUseCase Profile.cmdHook iotProfileWaterCmd
    by_cases huc : cmd.hasUc past = true
    · simp only [if_pos huc]
      exact hbus cmd
    · simp only [if_neg huc]
      exact hword _ _ _ (hword _ _ _ (hbus cmd))
  | evCharger => exact hword _ _ _ (hbus cmd)
  | automotive => exact hword _ _ _ (hbus cmd)
  | robotics => exact hword _ _ _ (hbus cmd)
  | predictive | assetTracker | agriculture | coldchain => exact hbus cmd

end

/-- A call of which only the code is handed on. -/
def codeOnly (g : Device F → IotErr × Device F) : Act F := fun d => (((g d).1, none), (g d).2)

omit [CFloat F] in
theorem sysAct_confined (g : SysSt → (IotErr × Option (IotUcOut F)) × SysSt) :
    Confined (F := F) .platform fun d => ((g d.sys).1, { d with sys := (g d.sys).2 }) where
  reply_eq {d d'} hd := congrArg (fun s => (g s).1) (show d.sys = d'.sys from hd)
  view_eq {d d'} hd := congrArg (fun s => (g s).2) (show d.sys = d'.sys from hd)
  other d j hj := by cases j <;> first | rfl | exact absurd rfl hj
  pins _ := ⟨rfl, fun _ _ _ => rfl⟩
  ready := id

/-- The part that a request goes to; a command without one concerns the platform modules. -/
def requestPart (r : Option (IotUcId × IotUcIn F)) : Part :=
  match r with
  | some (id, _) => id.part
  | none => .platform

omit [CFloat F] in
theorem Confined.codeOnly {k : Part} {g : Act F} (hg : Confined k g) :
    Confined k fun d => (((g d).1.1, none), (g d).2) where
  reply_eq hd := by rw [hg.reply_eq hd]
  view_eq := hg.view_eq
  other := hg.other
  pins := hg.pins
  ready := hg.ready

theorem commandActs_confined (P : Platform) :
    CommandActs (F := F) P fun r g => Confined (requestPart r) (codeOnly g) where
  idle e := sysAct_confined fun s => ((e, none), s)
  refused e := sysAct_confined fun s =>
    ((e, none), { s with diag := iotDiagEvent diagCmdReject s.diag })
  provision json len := sysAct_confined fun s =>
    (((iotProvisionApplyJson P json len s).1, none), (iotProvisionApplyJson P json len s).2)
  ota url := sysAct_confined fun s =>
    (((iotOtaStart P url s).1, none), (iotOtaStart P url s).2)
  run id json := (runAct_confined P id (ucInput json)).codeOnly

/-- An operation with its answer. -/
def Op.act (profile : Profile) (op : Op F) : Act F := fun d =>
  (op.reply profile d, op.apply profile d)

theorem runJson_confined (P : Platform) (json : Text) (len : ℕ) :
    Confined (requestPart (textUseCase (F := F) json len))
      fun (d : Device F) =>
        (((iotUcRunJson P json len .zero d).err, some (iotUcRunJson P json len .zero d).out),
          (iotUcRunJson P json len .zero d).st) := by
  unfold textUseCase iotUcRunJson
  by_cases hlen : len = 0
  · simp only [if_pos hlen]
    exact sysAct_confined fun s => ((.invalidArg, some .zero), s)
  · simp only [if_neg hlen]
    cases ucNameOf json with
    | none =>
      exact sysAct_confined fun s => ((.protocol, some (iotUcOutErr .zero .invalid .protocol)), s)
    | some name => exact runAct_confined P _ _

theorem Op.part_command (profile : Profile) (P : Platform) (past : List UInt8)
    (cmd : IotCommandMsg iotJsonSmallLen) : (Op.command P past cmd : Op F).part profile =
      requestPart (hookUseCase (F := F) past cmd profile) := by
  cases h : (hookUseCase past cmd profile : Option (IotUcId × IotUcIn F)) <;>
    simp [Op.part, Op.useCase, Op.sampleFn, requestPart, h]

theorem Op.part_runJson (profile : Profile) (P : Platform) (json : Text) (len : ℕ) :
    (Op.runJson P json len : Op F).part profile =
      requestPart (textUseCase (F := F) json len) := by
  cases h : (textUseCase json len : Option (IotUcId × IotUcIn F)) <;>
    simp [Op.part, Op.useCase, Op.sampleFn, requestPart, h]

theorem Op.act_sample {op : Op F} {k : Part} {fn : Handler F (Device F)}
    (h : op.sampleFn = some (k, fn)) (profile : Profile) :
    op.part profile = k ∧ op.act profile = fn.act .zero .zero := by
  cases op <;> cases h <;> exact ⟨rfl, rfl⟩

/-- An operation keeps to the part that it is addressed to. -/
theorem Op.act_confined (profile : Profile) (op : Op F) :
    Confined (op.part profile) (op.act profile) := by
  cases hs : op.sampleFn with
  | some r =>
    obtain ⟨hpart, hact⟩ := Op.act_sample hs profile
    rw [hpart, hact]
    exact sampleFn_keepsTo hs _ _
  | none =>
    cases op with
    | command P past cmd =>
      rw [Op.part_command]
      exact (commandActs_confined P).hook past cmd profile
    | run P id inp => exact runAct_confined P id inp
    | runJson P json len =>
      rw [Op.part_runJson]
      exact runJson_confined P json len
    | otaProgress state =>
      exact sysAct_confined fun s => ((.ok, none), { s with ota := { s.ota with state := state } })
    | diag id =>
      exact sysAct_confined fun s => ((.ok, none), { s with diag := iotDiagEvent id s.diag })
    | _ => exact nomatch hs

/-- The device as a system whose domains are its parts. -/
def deviceSystem (profile : Profile) :
    System (Device F) (Op F) Part (IotErr × Option (IotUcOut F)) where
  step := Op.apply profile
  output d op := op.reply profile d
  dom := Op.part profile

theorem deviceSystem_unwinds (profile : Profile) :
    Unwinds (deviceSystem (F := F) profile) (· = ·) fun k d => d.view k where
  output_eq {_ _ op} h := (op.act_confined profile).reply_eq h
  step_eq {k d d'} op h := by
    by_cases hk : k = op.part profile
    · subst hk
      exact (op.act_confined profile).view_eq h
    · exact ((op.act_confined profile).other d hk).trans
        (h.trans ((op.act_confined profile).other d' hk).symm)
  unseen {_ op} d h := (op.act_confined profile).other d (Ne.symm h)

/-- The operations that are addressed to a part, in their order. -/
def addressed (profile : Profile) (k : Part) (ops : List (Op F)) : List (Op F) :=
  ops.filter fun op => op.part profile = k

/-- After any run each part of the device is as the operations addressed to it alone would have
left it, and every operation is answered as if no others had been executed. -/
theorem products_do_not_interfere (profile : Profile) (d : Device F) (ops : List (Op F)) :
    (∀ k, (d.after profile ops).view k = (d.after profile (addressed profile k ops)).view k) ∧
      ∀ op : Op F, op.reply profile (d.after profile ops) =
        op.reply profile (d.after profile (addressed profile (op.part profile) ops)) :=
  ⟨fun k => (deviceSystem_unwinds profile).run_purge k d ops,
    fun op => (deviceSystem_unwinds profile).output_purge d ops op⟩

omit [CFloat F] in
theorem Device.eq_of_views {d d' : Device F} (hview : ∀ k, d.view k = d'.view k)
    (hpins : ∀ pin, pin ≠ iotPinLed → pin ≠ iotPinPwmOut →
      d.gpio.level pin = d'.gpio.level pin) (hinit : d.ucInit = d'.ucInit) : d = d' := by
  obtain ⟨henergy, hled⟩ := Prod.mk.inj (hview .energy)
  obtain ⟨hwater, hvalve⟩ := Prod.mk.inj (hview .water)
  obtain ⟨hag, hpwm⟩ := Prod.mk.inj (hview .agriculture)
  obtain ⟨hgpio, hled⟩ := Prod.mk.inj hled
  have hlevel : d.gpio.level = d'.gpio.level := by
    funext pin
    by_cases h1 : pin = iotPinLed
    · exact h1 ▸ hled
    · by_cases h2 : pin = iotPinPwmOut
      · exact h2 ▸ (Prod.mk.inj hvalve).2
      · exact hpins pin h1 h2
  have hg : d.gpio = d'.gpio := by
    cases hd : d.gpio
    cases hd' : d'.gpio
    simp_all
  have hind : d.ind = d'.ind := hview .industrial
  have hpm : d.pm = d'.pm := hview .predictive
  have hev : d.ev = d'.ev := hview .evCharger
  have hcan : d.can = d'.can := hview .automotive
  have htr : d.tr = d'.tr := hview .assetTracker
  have hcd : d.cd = d'.cd := hview .coldchain
  have hrb : d.rb = d'.rb := hview .robotics
  have hsys : d.sys = d'.sys := hview .platform
  cases d
  cases d'
  simp_all

/-- The answers to the operations that are addressed to a part, in their order. -/
def answersTo (profile : Profile) (k : Part) (d : Device F) (ops : List (Op F)) :
    List (IotErr × Option (IotUcOut F)) :=
  (deviceSystem profile).answers k d ops

/-- However the operations of the tasks interleave, the device and all answers are the same as long
as each part gets its own operations in the same order. -/
theorem interleavings_agree (profile : Profile) {d : Device F} (hinit : d.ucInit = true)
    {ops ops' : List (Op F)}
    (h : ∀ k, addressed profile k ops = addressed profile k ops') :
    d.after profile ops = d.after profile ops' ∧
      ∀ k, answersTo profile k d ops = answersTo profile k d ops' := by
  have hunwind := deviceSystem_unwinds (F := F) profile
  have hkept : ∀ ops : List (Op F), (d.after profile ops).ucInit = true ∧
      ∀ pin, pin ≠ iotPinLed → pin ≠ iotPinPwmOut →
        (d.after profile ops).gpio.level pin = d.gpio.level pin := by
    intro ops
    refine Device.after_keeps (Q := fun e => e.ucInit = true ∧ ∀ pin, pin ≠ iotPinLed →
      pin ≠ iotPinPwmOut → e.gpio.level pin = d.gpio.level pin) (fun op e he => ?_) ops
      ⟨hinit, fun _ _ _ => rfl⟩
    have hact := op.act_confined profile
    exact ⟨hact.ready he.1, fun pin hled hvalve =>
      ((hact.pins e).2 pin hled hvalve).trans (he.2 pin hled hvalve)⟩
  constructor
  · refine Device.eq_of_views (fun k => hunwind.run_congr k d (h k)) ?_ ?_
    · exact fun pin hled hvalve =>
        ((hkept ops).2 pin hled hvalve).trans ((hkept ops').2 pin hled hvalve).symm
    · exact (hkept ops).1.trans (hkept ops').1.symm
  · intro k
    have hpurge : (deviceSystem profile).purge (· = ·) k ops =
        (deviceSystem profile).purge (· = ·) k ops' := h k
    calc answersTo profile k d ops
        = (deviceSystem profile).answers k d ((deviceSystem profile).purge (· = ·) k ops) :=
          hunwind.answers_purge rfl rfl ops
      _ = (deviceSystem profile).answers k d ((deviceSystem profile).purge (· = ·) k ops') := by
          rw [hpurge]
      _ = answersTo profile k d ops' := (hunwind.answers_purge rfl rfl ops').symm

/-- A pulse sample and a meter reading may come in either order. -/
theorem meter_and_pulses_agree :
    let d : Device ℚ := appMain hostPlatform .water false none
    d.after .water [.waterSample 6 1650, .energyAdc 2000] =
      d.after .water [.energyAdc 2000, .waterSample 6 1650] := by
  refine (interleavings_agree .water rfl fun k => ?_).1
  cases k <;> rfl

end IotPlatform
