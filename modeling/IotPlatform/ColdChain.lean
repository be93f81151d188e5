import IotPlatform.Executions

/-!
# The cold-chain alarm

An alarm is never missed: a temperature above the limit or an open door shows in the flag. The
acknowledgement protocol is weaker. A sample recomputes the flag, which drops an alarm nobody
acknowledged, and only an excursion withdraws an old acknowledgement from a new alarm.
-/
namespace IotPlatform
open CText CFloat Runs

variable {F : Type} [CFloat F]

def coldUseCases : List IotUcId := [.coldSample, .coldExcursion, .coldDoor, .coldAck, .coldDatalog]

/-- The temperature a request of `cold.sample` reports. -/
def coldReading (inp : IotUcIn F) : F := inp.f32 (txt "t_c") (inp.f 0)

/-- The door position a request of `cold.door` reports. -/
def doorReading (inp : IotUcIn F) : Bool :=
  if inp.has (txt "door") then decide (inp.i32 (txt "door") 0 ≠ 0) else inp.b 0

section
variable (inp : IotUcIn F) (out : IotUcOut F) (cd : ColdSt F)

theorem coldSample_st : ∃ rh, (iotUcColdSample inp out cd).st =
    { cd with
      t := coldReading inp
      rh := rh
      alarm := decide (cd.tMax < coldReading inp ∨ cd.door = true) } := ⟨_, rfl⟩

theorem coldExcursion_hot (h : cd.tMax < cd.t) : (iotUcColdExcursion inp out cd).st =
    { cd with minutesHot := cd.minutesHot + flit 1 / flit 60, alarm := true, acked := false } := by
  simp only [iotUcColdExcursion, if_pos h]

theorem coldExcursion_cold (h : ¬ cd.tMax < cd.t) : (iotUcColdExcursion inp out cd).st = cd := by
  simp only [iotUcColdExcursion, if_neg h]

theorem coldDoor_st : (iotUcColdDoor inp out cd).st =
    { cd with
      door := doorReading inp
      alarm := if doorReading inp then true else cd.alarm } := rfl

theorem coldAck_st : (iotUcColdAck inp out cd).st =
    { cd with
      acked := true
      alarm := if !cd.door ∧ cd.t ≤ cd.tMax then false else cd.alarm } := rfl

end

/-- A condition that calls for the alarm has raised it. -/
def Alarmed (cd : ColdSt F) : Prop := cd.tMax < cd.t ∨ cd.door = true → cd.alarm = true

section
variable {cd : ColdSt F} (inp : IotUcIn F) (out : IotUcOut F)

theorem coldSample_alarmed : Alarmed (iotUcColdSample inp out cd).st := by
  obtain ⟨rh, hst⟩ := coldSample_st inp out cd
  rw [hst]
  exact fun h => decide_eq_true h

theorem coldExcursion_alarmed (h : Alarmed cd) : Alarmed (iotUcColdExcursion inp out cd).st := by
  by_cases hot : cd.tMax < cd.t
  · rw [coldExcursion_hot inp out cd hot]
    exact fun _ => rfl
  · rwa [coldExcursion_cold inp out cd hot]

theorem coldDoor_alarmed (h : Alarmed cd) : Alarmed (iotUcColdDoor inp out cd).st := by
  rw [coldDoor_st]
  cases hdoor : doorReading inp with
  | true => exact fun _ => rfl
  | false =>
    rintro (hot | hopen)
    · exact h (Or.inl hot)
    · simp at hopen

theorem coldAck_alarmed [Lawful F] (h : Alarmed cd) : Alarmed (iotUcColdAck inp out cd).st := by
  rw [coldAck_st]
  by_cases hclear : (!cd.door) = true ∧ cd.t ≤ cd.tMax
  · rintro (hot | hopen)
    · exact absurd hot (Lawful.not_lt_of_le hclear.2)
    · simp [show cd.door = true from hopen] at hclear
  · exact fun hc => (if_neg hclear).trans (h hc)

theorem coldOnSample_alarmed (tC rh : F) (doorOpen : Bool) :
    Alarmed (iotUcColdOnSample tC rh doorOpen out cd).st := by
  unfold iotUcColdOnSample
  exact coldExcursion_alarmed _ _ (coldDoor_alarmed _ _ (coldSample_alarmed _ _))

end

theorem iotUcRun_alarmed [Lawful F] (P : Platform) (id : IotUcId) (inp : IotUcIn F) (d : Device F)
    (h : Alarmed d.cd) : Alarmed (iotUcRun P id inp d).st.cd := by
  cases id
  case coldSample => exact coldSample_alarmed inp .zero
  case coldExcursion => exact coldExcursion_alarmed inp .zero h
  case coldDoor => exact coldDoor_alarmed inp .zero h
  case coldAck => exact coldAck_alarmed inp .zero h
  all_goals exact h

theorem sample_alarmed (profile : Profile) (op : Op F) (d : Device F) (hs : op.IsSample)
    (h : Alarmed d.cd) : Alarmed (op.apply profile d).cd := by
  cases op with
  | coldSample tC rh doorOpen => exact coldOnSample_alarmed .zero tC rh doorOpen
  | command | run | runJson | otaProgress | diag => exact hs.elim
  | _ => exact h

/-- Every cold-chain handler reports the flag it leaves. -/
theorem coldUseCase_alarm {id : IotUcId} (hid : id ∈ coldUseCases) (P : Platform)
    (inp : IotUcIn F) (d : Device F) :
    (iotUcRun P id inp d).out.alarm = (iotUcRun P id inp d).st.cd.alarm := by
  simp only [coldUseCases, List.mem_cons, List.not_mem_nil, or_false] at hid
  rcases hid with rfl | rfl | rfl | rfl | rfl <;> rfl

theorem appMain_alarmed [Lawful F] (P : Platform) (profile : Profile) (wdtReset : Bool)
    (nvs : Option NvsImage) : Alarmed (appMain P profile wdtReset nvs : Device F).cd := by
  rintro (hot | hopen)
  · exact absurd hot (Lawful.not_lt_of_le (Lawful.flit_le (by norm_num)))
  · simp [appMain, Device.static] at hopen

/-- In every reachable state a temperature above the limit or an open door shows in the alarm
flag, and every cold-chain output reports the flag. -/
theorem coldRun_no_missed_alarm [Lawful F] (P : Platform) (profile : Profile) (wdtReset : Bool)
    (nvs : Option NvsImage) (ops : List (Op F)) :
    let d := (appMain P profile wdtReset nvs : Device F).after profile ops
    (d.cd.tMax < d.cd.t ∨ d.cd.door = true → d.cd.alarm = true) ∧
    (∀ id ∈ coldUseCases, ∀ Q inp,
      (iotUcRun Q id inp d).out.alarm = (iotUcRun Q id inp d).st.cd.alarm) ∧
    ∀ tC rh doorOpen out, (iotUcColdOnSample tC rh doorOpen out d.cd).out.alarm =
      (iotUcColdOnSample tC rh doorOpen out d.cd).st.alarm := by
  intro d
  refine ⟨?_, fun id hid Q inp => coldUseCase_alarm hid Q inp d, fun _ _ _ _ => rfl⟩
  exact Device.after_keeps (Q := fun d => Alarmed d.cd)
    (fun op _ => op.apply_keeps iotUcRun_alarmed (sample_alarmed profile) fun _ _ h => h) ops
    (appMain_alarmed P profile wdtReset nvs)

theorem coldRun_hot_then_ack : ((appMain hostPlatform .coldchain false none : Device ℚ).after
    .coldchain [.coldSample 12 40 false, .run hostPlatform .coldAck .zero]).cd.alarm = true :=
  (coldRun_no_missed_alarm hostPlatform .coldchain false none
    [.coldSample 12 40 false, .run hostPlatform .coldAck .zero]).1 (Or.inl (by decide +kernel))

/-- An alarm ends in an acknowledgement only, and a new one is not acknowledged. -/
def AlarmProtocol (acks : Prop) (cd cd' : ColdSt F) : Prop :=
  (cd.alarm = true → cd'.alarm = false → acks) ∧
    (cd.alarm = false → cd'.alarm = true → cd'.acked = false)

/-- The handler of `cold.ack` runs. -/
def Op.Acknowledges (profile : Profile) (op : Op F) : Prop :=
  ∃ P inp, op.useCase profile = some (P, .coldAck, inp)

/-- What a request must meet for its handler to follow the protocol: a reading keeps up an alarm
that is set, and a request that raises the alarm finds no acknowledgement. -/
def RequestRespects (inp : IotUcIn F) (cd : ColdSt F) : IotUcId → Prop
  | .coldSample =>
    (cd.alarm = true → cd.tMax < coldReading inp ∨ cd.door = true) ∧
      (cd.alarm = false → cd.tMax < coldReading inp ∨ cd.door = true → cd.acked = false)
  | .coldDoor => cd.alarm = false → doorReading inp = true → cd.acked = false
  | _ => True

/-- The same for a sample of the sensor hook, where a reading above the limit is an excursion and
withdraws the acknowledgement itself. -/
def SampleRespects (t : F) (doorOpen : Bool) (cd : ColdSt F) : Prop :=
  (cd.alarm = true → cd.tMax < t ∨ cd.door = true ∨ doorOpen = true) ∧
    (cd.alarm = false → ¬ cd.tMax < t → cd.door = true ∨ doorOpen = true → cd.acked = false)

def Op.RespectsAlarm (profile : Profile) (cd : ColdSt F) (op : Op F) : Prop :=
  (∀ P id inp, op.useCase profile = some (P, id, inp) → RequestRespects inp cd id) ∧
    ∀ tC rh doorOpen, op = .coldSample tC rh doorOpen → SampleRespects tC doorOpen cd

omit [CFloat F] in
theorem AlarmProtocol.refl (acks : Prop) (cd : ColdSt F) : AlarmProtocol acks cd cd := by
  refine ⟨fun h h' => ?_, fun h h' => ?_⟩ <;> simp [h] at h'

theorem iotUcRun_protocol_iff (P : Platform) (id : IotUcId) (inp : IotUcIn F) (d : Device F) :
    AlarmProtocol (id = .coldAck) d.cd (iotUcRun P id inp d).st.cd ↔
      RequestRespects inp d.cd id := by
  cases id
  case coldSample =>
    obtain ⟨rh, hst⟩ := coldSample_st inp .zero d.cd
    have hcd : (iotUcRun P .coldSample inp d).st.cd = (iotUcColdSample inp .zero d.cd).st := rfl
    rw [hcd, hst]
    simp only [AlarmProtocol, RequestRespects, reduceCtorEq, decide_eq_false_iff_not,
      decide_eq_true_eq, imp_false, not_not]
  case coldExcursion =>
    have hcd : (iotUcRun P .coldExcursion inp d).st.cd =
      (iotUcColdExcursion inp .zero d.cd).st := rfl
    rw [hcd]
    refine iff_of_true ?_ trivial
    by_cases hot : d.cd.tMax < d.cd.t
    · rw [coldExcursion_hot inp .zero d.cd hot]
      exact ⟨fun _ h => by simp at h, fun _ _ => rfl⟩
    · rw [coldExcursion_cold inp .zero d.cd hot]
      exact .refl _ _
  case coldDoor =>
    have hcd : (iotUcRun P .coldDoor inp d).st.cd = (iotUcColdDoor inp .zero d.cd).st := rfl
    rw [hcd, coldDoor_st]
    cases hdoor : doorReading inp <;> cases ha : d.cd.alarm <;>
      simp [AlarmProtocol, RequestRespects, hdoor, ha]
  case coldAck =>
    have hcd : (iotUcRun P .coldAck inp d).st.cd = (iotUcColdAck inp .zero d.cd).st := rfl
    rw [hcd, coldAck_st]
    refine iff_of_true ⟨fun _ _ => rfl, fun h h' => ?_⟩ trivial
    simp [h] at h'
  all_goals exact iff_of_true (.refl _ _) trivial

/-- A sample of the sensor hook: the reading and the old door, the new door, then the excursion. -/
theorem coldOnSample_st (tC rh : F) (doorOpen : Bool) (out : IotUcOut F) (cd : ColdSt F) :
    ∃ out' rh', (iotUcColdOnSample tC rh doorOpen out cd).st =
      (iotUcColdExcursion .zero out' { cd with
        t := tC
        rh := rh'
        door := doorOpen
        alarm := if doorOpen then true else decide (cd.tMax < tC ∨ cd.door = true) }).st :=
  ⟨_, _, rfl⟩

theorem coldOnSample_protocol_iff (tC rh : F) (doorOpen : Bool) (out : IotUcOut F)
    (cd : ColdSt F) : AlarmProtocol False cd (iotUcColdOnSample tC rh doorOpen out cd).st ↔
      SampleRespects tC doorOpen cd := by
  obtain ⟨out', rh', hst⟩ := coldOnSample_st tC rh doorOpen out cd
  rw [hst]
  by_cases hot : cd.tMax < tC
  · rw [coldExcursion_hot .zero out' _ hot]
    refine iff_of_true ⟨fun _ h => by simp at h, fun _ _ => rfl⟩ ⟨fun _ => Or.inl hot, ?_⟩
    exact fun _ hcold => absurd hot hcold
  · rw [coldExcursion_cold .zero out' _ hot]
    cases doorOpen <;> cases hdoor : cd.door <;> cases ha : cd.alarm <;>
      simp [AlarmProtocol, SampleRespects, hot, hdoor, ha]

theorem Op.apply_protocol_iff (profile : Profile) (op : Op F) (d : Device F) :
    AlarmProtocol (op.Acknowledges profile) d.cd (op.apply profile d).cd ↔
      op.RespectsAlarm profile d.cd := by
  rcases op.apply_cases profile d with ⟨P, id, inp, hu, heq⟩ | ⟨hu, hs⟩ | ⟨hu, hs, s, heq, -⟩
  · have hack : op.Acknowledges profile ↔ id = .coldAck := by
      simp [Op.Acknowledges, hu, and_comm]
    have hsample : ∀ tC rh doorOpen, op = .coldSample tC rh doorOpen →
        SampleRespects tC doorOpen d.cd := by
      rintro tC rh doorOpen rfl
      simp [Op.useCase] at hu
    have hresp : op.RespectsAlarm profile d.cd ↔ RequestRespects inp d.cd id := by
      rw [Op.RespectsAlarm, forall_useCase hu, and_iff_left hsample]
    rw [heq, hack, hresp]
    exact iotUcRun_protocol_iff P id inp d
  · have hack : op.Acknowledges profile ↔ False := by simp [Op.Acknowledges, hu]
    rw [hack]
    cases op with
    | coldSample tC rh doorOpen =>
      have hresp : (Op.coldSample tC rh doorOpen).RespectsAlarm profile d.cd ↔
          SampleRespects tC doorOpen d.cd := by
        constructor
        · exact fun h => h.2 tC rh doorOpen rfl
        · refine fun h => ⟨fun P' id' inp' hu' => by simp [hu] at hu', ?_⟩
          rintro _ _ _ ⟨⟩
          exact h
      rw [hresp]
      exact coldOnSample_protocol_iff tC rh doorOpen .zero d.cd
    | command | run | runJson | otaProgress | diag => exact hs.elim
    | _ =>
      refine iff_of_true (.refl _ _) ⟨fun _ _ _ h => ?_, fun _ _ _ h => ?_⟩
      · simp [hu] at h
      · simp at h
  · rw [heq]
    refine iff_of_true (.refl _ _) ⟨fun _ _ _ h => by simp [hu] at h, fun tC rh doorOpen hop => ?_⟩
    exact absurd (hop ▸ trivial) hs

/-- Along a run the alarm follows the acknowledgement protocol exactly when no reading comes in
below the limit while the alarm is set, and no request raises it over an old acknowledgement. -/
theorem coldRun_protocol_iff (P : Platform) (profile : Profile) (wdtReset : Bool)
    (nvs : Option NvsImage) (ops : List (Op F)) :
    (∀ e ∈ trace (Op.apply profile) (appMain P profile wdtReset nvs) ops,
      AlarmProtocol (e.2.1.Acknowledges profile) e.1.cd e.2.2.cd) ↔
    ∀ e ∈ trace (Op.apply profile) (appMain P profile wdtReset nvs) ops,
      e.2.1.RespectsAlarm profile e.1.cd := by
  refine forall₂_congr fun e he => ?_
  rw [step_of_mem he]
  exact e.2.1.apply_protocol_iff profile e.1

theorem coldRun_sample_drops_alarm : ¬ ∀ e ∈ trace (Op.apply .coldchain)
    (appMain hostPlatform .coldchain false none : Device ℚ)
    [.coldSample 12 40 false, .coldSample 4 40 false],
    AlarmProtocol (e.2.1.Acknowledges .coldchain) e.1.cd e.2.2.cd := by
  intro h
  have hlast := h _ (List.mem_cons_of_mem _ List.mem_cons_self)
  obtain ⟨P, inp, hu⟩ := hlast.1 (by decide +kernel) (by decide +kernel)
  simp [Op.useCase] at hu

end IotPlatform
