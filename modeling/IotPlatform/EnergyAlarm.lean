import IotPlatform.Executions

/-!
# The energy alarm

`energy.measure` tests all four limits; each trip check tests its own and stores the result in the
flag they share. A check that passes therefore withdraws the alarm of another limit.
-/
namespace IotPlatform
open CText CFloat Runs

variable {F : Type} [CFloat F]

/-- The limits that the handler of a use case tests. -/
def EnergySt.Exceeds (s : EnergySt F) : IotUcId → Prop
  | .energyOverPower => s.overW < s.p
  | .energyOverVoltage => s.overV < s.vrms
  | .energyUnderVoltage => s.vrms < s.underV
  | .energyOverCurrent => s.overI < s.irms
  | _ => s.overW < s.p ∨ s.overV < s.vrms ∨ s.vrms < s.underV ∨ s.overI < s.irms

def EnergySt.ExceedsAny (s : EnergySt F) : Prop := s.Exceeds .energyMeasure

def alarmChecks : List IotUcId :=
  [.energyMeasure, .energyOverPower, .energyOverVoltage, .energyUnderVoltage, .energyOverCurrent]

theorem EnergySt.Exceeds.any {s : EnergySt F} {id : IotUcId} (h : s.Exceeds id) :
    s.ExceedsAny := by
  cases id
  case energyOverPower => exact Or.inl h
  case energyOverVoltage => exact Or.inr (Or.inl h)
  case energyUnderVoltage => exact Or.inr (Or.inr (Or.inl h))
  case energyOverCurrent => exact Or.inr (Or.inr (Or.inr h))
  all_goals exact h

/-- A trip check moves no register that a limit speaks about, and stores what it tested. -/
theorem tripCheck_alarm {id : IotUcId} (hid : id ∈ alarmChecks) (hm : id ≠ .energyMeasure)
    (P : Platform) (inp : IotUcIn F) (d : Device F) :
    ((iotUcRun P id inp d).st.energy.alarm = true ↔ d.energy.Exceeds id) ∧
      ((iotUcRun P id inp d).st.energy.ExceedsAny ↔ d.energy.ExceedsAny) := by
  simp only [alarmChecks, List.mem_cons, List.not_mem_nil, or_false] at hid
  rcases hid with rfl | rfl | rfl | rfl | rfl
  · exact absurd rfl hm
  all_goals exact ⟨decide_eq_true_iff, Iff.rfl⟩

theorem measure_alarm (P : Platform) (inp : IotUcIn F) (d : Device F) :
    (iotUcRun P .energyMeasure inp d).st.energy.alarm = true ↔
      (iotUcRun P .energyMeasure inp d).st.energy.ExceedsAny :=
  decide_eq_true_iff

theorem check_complete_iff {id : IotUcId} (hid : id ∈ alarmChecks) (P : Platform)
    (inp : IotUcIn F) (d : Device F) :
    (iotUcEnergyAlarm (iotUcRun P id inp d).st.energy = true ↔
        (iotUcRun P id inp d).st.energy.ExceedsAny) ↔
      (d.energy.ExceedsAny → d.energy.Exceeds id) := by
  by_cases hm : id = .energyMeasure
  · subst hm
    exact iff_of_true (measure_alarm P inp d) fun h => h
  · obtain ⟨halarm, hany⟩ := tripCheck_alarm hid hm P inp d
    rw [iotUcEnergyAlarm, halarm, hany]
    exact ⟨fun h => h.mpr, fun h => ⟨EnergySt.Exceeds.any, h⟩⟩

/-- After a check the flag tells whether any limit is exceeded. -/
def AlarmComplete (profile : Profile) (d : Device F) (op : Op F) (d' : Device F) : Prop :=
  ∀ id inp, op.energyRequest profile d.energy = some (id, inp) → id ∈ alarmChecks →
    (iotUcEnergyAlarm d'.energy = true ↔ d'.energy.ExceedsAny)

/-- A trip check that finds some limit exceeded finds its own exceeded. -/
def ChecksOwnLimit (profile : Profile) (d : Device F) (op : Op F) : Prop :=
  ∀ id inp, op.energyRequest profile d.energy = some (id, inp) → id ∈ alarmChecks →
    d.energy.ExceedsAny → d.energy.Exceeds id

theorem Op.alarmComplete_iff (profile : Profile) (op : Op F) (d : Device F) :
    AlarmComplete profile d op (op.apply profile d) ↔ ChecksOwnLimit profile d op := by
  rcases op.apply_energy profile d with ⟨P, id, inp, hr, heq⟩ | ⟨hr, -⟩
  · rw [AlarmComplete, ChecksOwnLimit, forall_request hr, forall_request hr, heq]
    exact forall_congr' fun hid => check_complete_iff hid P inp d
  · simp [AlarmComplete, ChecksOwnLimit, hr]

/-- Along a run every check leaves a complete alarm exactly when no trip check runs whose own limit
is kept while another one is exceeded. -/
theorem energyRun_alarm_iff (P : Platform) (profile : Profile) (wdtReset : Bool)
    (nvs : Option NvsImage) (ops : List (Op F)) :
    (∀ e ∈ trace (Op.apply profile) (appMain P profile wdtReset nvs) ops,
      AlarmComplete profile e.1 e.2.1 e.2.2) ↔
    ∀ e ∈ trace (Op.apply profile) (appMain P profile wdtReset nvs) ops,
      ChecksOwnLimit profile e.1 e.2.1 := by
  refine forall₂_congr fun e he => ?_
  rw [step_of_mem he]
  exact e.2.1.alarmComplete_iff profile e.1

/-- A reading of 280 V raises the alarm, and checking the power withdraws it. -/
theorem energyRun_overPower_drops_alarm : ¬ ∀ e ∈ trace (Op.apply .energy)
    (appMain hostPlatform .energy false none : Device ℚ)
    [.energyAdc 4000, .run hostPlatform .energyOverPower .zero],
    AlarmComplete .energy e.1 e.2.1 e.2.2 := by
  intro h
  have hlast := h _ (List.mem_cons_of_mem _ List.mem_cons_self) .energyOverPower .zero rfl
    (by decide)
  have hover : ((Op.run hostPlatform .energyOverPower .zero).apply .energy
      ((Op.energyAdc 4000).apply .energy
        (appMain hostPlatform .energy false none : Device ℚ))).energy.ExceedsAny :=
    Or.inr (Or.inl (by decide +kernel))
  exact absurd (hlast.mpr hover) (by decide +kernel)

end IotPlatform
