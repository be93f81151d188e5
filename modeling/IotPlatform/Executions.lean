import IotPlatform.Firmware
import IotPlatform.Runs

/-!
# What an operation executes

Commands and requests reach the registers through `iot_uc_run` only. An operation therefore runs
one use case, or it is a sensor hook's sample, or it changes the platform modules and nothing else.
-/
namespace IotPlatform
open CText CFloat Runs

variable {F : Type} [CFloat F]

theorem forall_request {β γ : Type*} {r : Option (β × γ)} {b : β} {c : γ} (h : r = some (b, c))
    {Q : β → γ → Prop} : (∀ b' c', r = some (b', c') → Q b' c') ↔ Q b c := by
  subst h
  constructor
  · exact fun hall => hall b c rfl
  · rintro hq b' c' ⟨⟩
    exact hq

omit [CFloat F] in
theorem forall_useCase {r : Option (Platform × IotUcId × IotUcIn F)} {P : Platform} {id : IotUcId}
    {inp : IotUcIn F} (h : r = some (P, id, inp)) {Q : IotUcId → IotUcIn F → Prop} :
    (∀ P' id' inp', r = some (P', id', inp') → Q id' inp') ↔ Q id inp := by
  subst h
  constructor
  · exact fun hall => hall P id inp rfl
  · rintro hq P' id' inp' ⟨⟩
    exact hq

/-- The use case that `iot_uc_run_json` runs, and the record it hands over. -/
def textUseCase (json : Text) (len : ℕ) : Option (IotUcId × IotUcIn F) :=
  if len = 0 then none else (ucNameOf json).map fun name => (iotUcIdFromName name, ucInput json)

def busUseCase {cap : ℕ} (past : List UInt8) (cmd : IotCommandMsg cap) :
    Option (IotUcId × IotUcIn F) :=
  if iotSecurityValidateCommand cmd = .ok ∧ cmd.hasUc past then
    textUseCase (cmd.text past) cmd.payloadLen
  else none

/-- A word in the text stands for a request of its own; without it `rest` decides. -/
def wordUseCase {cap : ℕ} (past : List UInt8) (cmd : IotCommandMsg cap) (word json : Text)
    (len : ℕ) (rest : Option (IotUcId × IotUcIn F)) : Option (IotUcId × IotUcIn F) :=
  if cmd.mentions past word then textUseCase json len else rest

/-- The use case that the command hook of a profile runs. -/
def hookUseCase {cap : ℕ} (past : List UInt8) (cmd : IotCommandMsg cap) :
    Profile → Option (IotUcId × IotUcIn F)
  | .energy =>
    if cmd.payloadLen = 0 then none
    else if cmd.hasUc past then busUseCase past cmd
    else match cmd.legacyNumber past (txt "alarm_w") with
      | some n => busUseCase past (cmd.mapped (snprintf 128
          (txt "\x7b\"uc\":\"energy.set_limits\",\"over_w\":" ++ fmt 1 (ofNumeral n : F) ++
            txt "\x7d")))
      | none => busUseCase past cmd
  | .industrial =>
    match cmd.legacyNumber past (txt "t_alarm"), cmd.hasUc past with
    | some n, false => busUseCase past (cmd.mapped (snprintf 96
        (txt "\x7b\"uc\":\"industrial.set_limits\",\"t_lim\":" ++ fmt 1 (ofNumeral n : F) ++
          txt "\x7d")))
    | _, _ => busUseCase past cmd
  | .water =>
    if cmd.hasUc past then busUseCase past cmd
    else wordUseCase past cmd (txt "close") (txt "\x7b\"uc\":\"water.valve_close\"\x7d") 28
      (wordUseCase past cmd (txt "open") (txt "\x7b\"uc\":\"water.valve_open\"\x7d") 27
        (busUseCase past cmd))
  | .evCharger =>
    wordUseCase past cmd (txt "contactor") (txt "\x7b\"uc\":\"ev.reject_contactor\"\x7d") 32
      (busUseCase past cmd)
  | .automotive =>
    wordUseCase past cmd (txt "can_tx") (txt "\x7b\"uc\":\"auto.reject_tx\"\x7d") 26
      (busUseCase past cmd)
  | .robotics =>
    wordUseCase past cmd (txt "move") (txt "\x7b\"uc\":\"robot.reject_motion\"\x7d") 32
      (busUseCase past cmd)
  | _ => busUseCase past cmd

/-- The use case that an operation executes, on its platform and with its request. -/
def Op.useCase (profile : Profile) : Op F → Option (Platform × IotUcId × IotUcIn F)
  | .command P past cmd => (hookUseCase past cmd profile).map fun r => (P, r)
  | .run P id inp => some (P, id, inp)
  | .runJson P json len => (textUseCase json len).map fun r => (P, r)
  | _ => none

/-- A sensor hook hands a sample to its use cases. -/
def Op.IsSample : Op F → Prop
  | .energyAdc .. | .indSample .. | .pmSample .. | .waterSample .. | .evSample ..
  | .autoFrame .. | .trkSample .. | .agriSample .. | .coldSample .. | .robotUart .. => True
  | _ => False

/-- Requests that `iot_uc_run_json` has filled in. -/
def FromJson (r : Option (IotUcId × IotUcIn F)) : Prop :=
  ∀ id inp, r = some (id, inp) → ∃ json, inp = ucInput json

/-- What a command without a use case may do to the platform modules: the configuration stays, or
it is provisioned. -/
def QuietSys (s s' : SysSt) : Prop :=
  s'.cfg = s.cfg ∨ ∃ P json len, s' = (iotProvisionApplyJson P json len s).2

/-- The use case has run, or only the platform modules have changed. -/
def Ran (P : Platform) (r : Option (IotUcId × IotUcIn F)) (d d' : Device F) : Prop :=
  match r with
  | some (id, inp) => d' = (iotUcRun P id inp d).st
  | none => ∃ s, d' = { d with sys := s } ∧ QuietSys d.sys s

omit [CFloat F] in
theorem quiet_refl (d : Device F) : ∃ s, d = { d with sys := s } ∧ QuietSys d.sys s :=
  ⟨d.sys, rfl, Or.inl rfl⟩

/-- What holds of every way in which a command may end: nothing is done, its refusal is counted, it
provisions the device, it starts an update, or it runs a use case. -/
structure CommandEnds (P : Platform) (d : Device F)
    (Q : Option (IotUcId × IotUcIn F) → Device F → Prop) : Prop where
  idle : Q none d
  refused : Q none (d.diagEvent diagCmdReject)
  provision : ∀ json len, Q none { d with sys := (iotProvisionApplyJson P json len d.sys).2 }
  ota : ∀ url, Q none { d with sys := (iotOtaStart P url d.sys).2 }
  run : ∀ id json, Q (some (id, ucInput json)) (iotUcRun P id (ucInput json) d).st

section
variable {P : Platform} {d : Device F} {Q : Option (IotUcId × IotUcIn F) → Device F → Prop}

theorem CommandEnds.text (h : CommandEnds P d Q) (json : Text) (len : ℕ) (out : IotUcOut F) :
    Q (textUseCase json len) (iotUcRunJson P json len out d).st := by
  unfold textUseCase iotUcRunJson
  by_cases hlen : len = 0
  · simp only [if_pos hlen]
    exact h.idle
  · simp only [if_neg hlen]
    cases ucNameOf json with
    | none => exact h.idle
    | some name => exact h.run _ _

variable {cap : ℕ} (past : List UInt8) (cmd : IotCommandMsg cap)

theorem CommandEnds.bus (h : CommandEnds P d Q) :
    Q (busUseCase past cmd) (iotServicesHandleCommand P past cmd d).2 := by
  unfold busUseCase
  by_cases hv : iotSecurityValidateCommand cmd = .ok
  · have hlen : cmd.payloadLen ≠ 0 := by
      intro h
      simp [iotSecurityValidateCommand, h] at hv
    by_cases huc : cmd.hasUc past = true
    · have huc' : iotUcJsonHasKey (cmd.text past) (txt "uc") = true := huc
      rw [if_pos ⟨hv, huc⟩]
      simp only [iotServicesHandleCommand, if_neg (not_not_intro hv), if_pos huc',
        iotUcDispatchCommand, if_neg hlen]
      exact h.text _ _ _
    · have huc' : ¬ iotUcJsonHasKey (cmd.text past) (txt "uc") = true := huc
      rw [if_neg fun h => huc h.2]
      simp only [iotServicesHandleCommand, if_neg (not_not_intro hv), if_neg huc']
      split_ifs
      · exact h.provision _ _
      · split
        · exact h.ota _
        · exact h.idle
  · rw [if_neg fun h => hv h.1, iotServicesHandleCommand_rejected hv]
    exact h.refused

/-- A profile ends a command in one of these ways, for all its own words and mappings. -/
theorem CommandEnds.hook (h : CommandEnds P d Q) (profile : Profile) :
    Q (hookUseCase past cmd profile) (profile.cmdHook P past cmd d).2 := by
  have hbus : ∀ cmd : IotCommandMsg cap, Q (busUseCase past cmd) _ := fun cmd => h.bus past cmd
  have hword : ∀ word json len {rest : Option (IotUcId × IotUcIn F)} {r : IotErr × Device F},
      Q rest r.2 → Q (wordUseCase past cmd word json len rest)
        (if cmd.mentions past word then runFixed P d json len else r).2 := by
    intro word json len rest r hrest
    unfold wordUseCase
    split_ifs
    · exact h.text json len .zero
    · exact hrest
  cases profile with
  | energy =>
    simp only [hookUseCase, Profile.cmdHook, iotProfileEnergyCmd]
    split_ifs
    · exact h.idle
    · exact hbus cmd
    · cases cmd.legacyNumber past (txt "alarm_w") with
      | none => exact hbus cmd
      | some n => exact hbus _
  | industrial =>
    simp only [hookUseCase, Profile.cmdHook, iotProfileIndustrialCmd]
    cases cmd.legacyNumber past (txt "t_alarm") with
    | none => exact hbus cmd
    | some n =>
      cases cmd.hasUc past with
      | true => exact hbus cmd
      | false => exact hbus _
  | water =>
    simp only [hookUseCase, Profile.cmdHook, iotProfileWaterCmd]
    by_cases huc : cmd.hasUc past = true
    · rw [if_pos huc, if_pos huc]
      exact hbus cmd
    · rw [if_neg huc, if_neg huc]
      exact hword _ _ _ (hword _ _ _ (hbus cmd))
  | evCharger => exact hword _ _ _ (hbus cmd)
  | automotive => exact hword _ _ _ (hbus cmd)
  | robotics => exact hword _ _ _ (hbus cmd)
  | predictive | assetTracker | agriculture | coldchain => exact hbus cmd

end

theorem commandEnds_ran (P : Platform) (d : Device F) :
    CommandEnds P d fun r d' => Ran P r d d' where
  idle := quiet_refl d
  refused := ⟨_, rfl, Or.inl rfl⟩
  provision _ _ := ⟨_, rfl, Or.inr ⟨P, _, _, rfl⟩⟩
  ota _ := ⟨_, rfl, Or.inl rfl⟩
  run _ _ := rfl

theorem commandEnds_fromJson (P : Platform) (d : Device F) :
    CommandEnds P d fun r _ => FromJson r where
  idle _ _ h := nomatch h
  refused _ _ h := nomatch h
  provision _ _ _ _ h := nomatch h
  ota _ _ _ h := nomatch h
  run _ json := by
    rintro _ _ ⟨⟩
    exact ⟨json, rfl⟩

section
variable {profile : Profile} {op : Op F}

theorem Op.apply_useCase {P : Platform} {id : IotUcId} {inp : IotUcIn F}
    (h : op.useCase profile = some (P, id, inp)) (d : Device F) :
    op.apply profile d = (iotUcRun P id inp d).st := by
  cases op with
  | command Q past cmd =>
    obtain ⟨⟨id', inp'⟩, hr, heq⟩ := Option.map_eq_some_iff.mp h
    obtain ⟨rfl, rfl, rfl⟩ : Q = P ∧ id' = id ∧ inp' = inp := by simpa using heq
    have hran := (commandEnds_ran Q d).hook past cmd profile
    rw [hr] at hran
    exact hran
  | runJson Q json len =>
    obtain ⟨⟨id', inp'⟩, hr, heq⟩ := Option.map_eq_some_iff.mp h
    obtain ⟨rfl, rfl, rfl⟩ : Q = P ∧ id' = id ∧ inp' = inp := by simpa using heq
    have hran := (commandEnds_ran Q d).text json len .zero
    rw [hr] at hran
    exact hran
  | run Q id' inp' =>
    obtain ⟨rfl, rfl, rfl⟩ : Q = P ∧ id' = id ∧ inp' = inp := by simpa [Op.useCase] using h
    rfl
  | _ => simp [Op.useCase] at h

theorem Op.apply_quiet (h : op.useCase profile = none) (hs : ¬ op.IsSample) (d : Device F) :
    ∃ s, op.apply profile d = { d with sys := s } ∧ QuietSys d.sys s := by
  cases op with
  | command P past cmd =>
    have hran := (commandEnds_ran P d).hook past cmd profile
    rw [Option.map_eq_none_iff.mp h] at hran
    exact hran
  | runJson P json len =>
    have hran := (commandEnds_ran P d).text json len .zero
    rw [Option.map_eq_none_iff.mp h] at hran
    exact hran
  | run P id inp => simp [Op.useCase] at h
  | otaProgress state => exact ⟨_, rfl, Or.inl rfl⟩
  | diag id => exact ⟨_, rfl, Or.inl rfl⟩
  | _ => exact absurd trivial hs

/-- An operation executes a use case, takes a sample, or keeps to the platform modules. -/
theorem Op.apply_cases (profile : Profile) (op : Op F) (d : Device F) :
    (∃ P id inp, op.useCase profile = some (P, id, inp) ∧
      op.apply profile d = (iotUcRun P id inp d).st) ∨
    (op.useCase profile = none ∧ op.IsSample) ∨
    (op.useCase profile = none ∧ ¬ op.IsSample ∧
      ∃ s, op.apply profile d = { d with sys := s } ∧ QuietSys d.sys s) := by
  rcases hu : op.useCase profile with _ | ⟨P, id, inp⟩
  · by_cases hs : op.IsSample
    · exact Or.inr (Or.inl ⟨rfl, hs⟩)
    · exact Or.inr (Or.inr ⟨rfl, hs, Op.apply_quiet hu hs d⟩)
  · exact Or.inl ⟨P, id, inp, rfl, Op.apply_useCase hu d⟩

/-- What every use case keeps, every sample keeps, and the platform modules do not touch, every
operation keeps. -/
theorem Op.apply_keeps {Q : Device F → Prop}
    (hrun : ∀ P id inp d, Q d → Q (iotUcRun P id inp d).st)
    (hsample : ∀ (op : Op F) d, op.IsSample → Q d → Q (op.apply profile d))
    (hsys : ∀ d s, Q d → Q { d with sys := s }) (op : Op F) {d : Device F} (h : Q d) :
    Q (op.apply profile d) := by
  rcases op.apply_cases profile d with ⟨P, id, inp, -, heq⟩ | ⟨-, hs⟩ | ⟨-, -, s, heq, -⟩
  · rw [heq]
    exact hrun P id inp d h
  · exact hsample op d hs h
  · rw [heq]
    exact hsys d s h

end

/-- An operation runs its request on a part of the device or leaves that part alone, when its
samples do. -/
theorem Op.apply_request {β : Type*} {profile : Profile} {op : Op F} {d : Device F}
    (part : Device F → β) {r : Option (IotUcId × IotUcIn F)}
    (hr : ¬ op.IsSample → r = (op.useCase profile).map Prod.snd)
    (hsample : op.IsSample → (∃ P id inp, r = some (id, inp) ∧
      part (op.apply profile d) = part (iotUcRun P id inp d).st) ∨
        (r = none ∧ part (op.apply profile d) = part d))
    (hsys : ∀ s, part { d with sys := s } = part d) :
    (∃ P id inp, r = some (id, inp) ∧
      part (op.apply profile d) = part (iotUcRun P id inp d).st) ∨
    (r = none ∧ part (op.apply profile d) = part d) := by
  by_cases hs : op.IsSample
  · exact hsample hs
  · rcases op.apply_cases profile d with ⟨P, id, inp, hu, heq⟩ | ⟨-, hs'⟩ | ⟨hu, -, s, heq, -⟩
    · exact Or.inl ⟨P, id, inp, by rw [hr hs, hu]; rfl, by rw [heq]⟩
    · exact absurd hs' hs
    · exact Or.inr ⟨by rw [hr hs, hu]; rfl, by rw [heq, hsys]⟩

/-- The record that `iot_uc_energy_on_adc` hands to `iot_uc_energy_measure`. -/
def adcInput (mv : Int32) (s : EnergySt F) : IotUcIn F :=
  let f0 := (flit 80 + flit mv.toInt * flit 0.05) * s.vScale
  let f1 := (flit 0.15 + flit (mv % 800).toInt / flit 2000) * s.iScale
  let z : IotUcIn F := .zero
  { z with f := Function.update (Function.update (Function.update z.f 0 f0) 1 f1) 2 (flit 1000) }

/-- The use case whose handler an operation executes, a reading of the ADC counted as
`energy.measure`. -/
def Op.energyRequest (profile : Profile) (s : EnergySt F) (op : Op F) :
    Option (IotUcId × IotUcIn F) :=
  match op with
  | .energyAdc mv => some (.energyMeasure, adcInput mv s)
  | op => (op.useCase profile).map Prod.snd

theorem Op.apply_energy (profile : Profile) (op : Op F) (d : Device F) :
    (∃ P id inp, op.energyRequest profile d.energy = some (id, inp) ∧
      (op.apply profile d).energy = (iotUcRun P id inp d).st.energy) ∨
    (op.energyRequest profile d.energy = none ∧ (op.apply profile d).energy = d.energy) := by
  refine op.apply_request Device.energy (fun hs => ?_) (fun hs => ?_) fun _ => rfl
  · cases op with
    | energyAdc mv => exact absurd trivial hs
    | _ => rfl
  · cases op with
    | energyAdc mv => exact Or.inl ⟨hostPlatform, _, adcInput mv d.energy, rfl, rfl⟩
    | command | run | runJson | otaProgress | diag => exact hs.elim
    | _ => exact Or.inr ⟨rfl, rfl⟩

/-- The device after a sequence of operations. -/
def Device.after (profile : Profile) (d : Device F) (ops : List (Op F)) : Device F :=
  ops.foldl (Op.apply profile) d

theorem Device.after_keeps {Q : Device F → Prop} {profile : Profile}
    (hstep : ∀ (op : Op F) d, Q d → Q (op.apply profile d)) (ops : List (Op F)) {d : Device F}
    (h : Q d) : Q (d.after profile ops) :=
  List.foldlRecOn ops _ h fun d hd op _ => hstep op d hd

end IotPlatform
