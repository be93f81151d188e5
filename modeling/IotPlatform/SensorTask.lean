import IotPlatform.ColdChain
import IotPlatform.EnergyMeter
import IotPlatform.Sensors

/-!
# Time integrals of the sampling loop

Energy, hot minutes and running hours are integrals over time. Each hook adds one second a call;
how far apart the calls are is decided by interrupts and timeouts.
-/
namespace IotPlatform
open CText CFloat Runs

/-- A pass of `sensor_task`, or anything else that happens to the device. -/
inductive TaskOp
  | iterate (ms : UInt32) (r : SensorReads)
  | other (op : Op ℚ)

def TaskOp.apply (profile : Profile) (t : SensorTask ℚ) : TaskOp → SensorTask ℚ
  | .iterate ms r => (sensorTask profile ms r t).2
  | .other op => { t with dev := op.apply profile t.dev }

/-- What the hook of a profile integrates: kilowatt hours, hot minutes, running hours. -/
def Profile.integral (d : Device ℚ) : Profile → ℚ
  | .energy => d.energy.kwh
  | .coldchain => d.cd.minutesHot
  | .industrial => d.ind.hours
  | _ => 0

/-- What a millisecond is worth in the condition a device is in. -/
def Profile.rate (d : Device ℚ) : Profile → ℚ
  | .energy => d.energy.p / 3600000000
  | .coldchain => if d.cd.tMax < d.cd.t then 1 / 60000 else 0
  | .industrial => if d.ind.st = .run then 1 / 3600000 else 0
  | _ => 0

/-- The measurements of a sample make the machine run. -/
def IndSt.Runs (g : IndSt ℚ) : Prop :=
  ¬ g.OverLimit ∧ ¬ g.vibLim < g.vib ∧ g.st ≠ .fault ∧ 0.4 < g.current

/-- The registers with the measurements of the industrial hook. -/
def indReads (r : SensorReads) (g : IndSt ℚ) : IndSt ℚ :=
  { g with
    temp := industrialTemp r
    vib := industrialVib r
    current := industrialCurrent r
    pressure := industrialPressure r }

/-- A sample that has nothing to integrate: no power, a temperature up to the limit, a machine that
does not run. -/
def SampleIdle (r : SensorReads) (d : Device ℚ) : Profile → Prop
  | .energy => voltFactor (adcInput r.mv d.energy) d.energy *
      ampFactor (adcInput r.mv d.energy) d.energy = 0
  | .coldchain => ¬ d.cd.tMax < coldchainTemp r
  | .industrial => ¬ (indReads r d.ind).Runs
  | _ => True

theorem indStepState_run_iff (g : IndSt ℚ) : (indStepState g).st = .run ↔ g.Runs := by
  unfold indStepState IndSt.Runs
  split_ifs with hover hvib hfault hcur
  · simp [hover]
  · simp [hvib]
  · simp [hfault]
  · exact iff_of_true rfl ⟨hover, hvib, hfault, hcur⟩
  · refine iff_of_false (by simp) ?_
    rintro ⟨-, -, -, h⟩
    exact hcur h

theorem indStepState_hours (g : IndSt ℚ) : (indStepState g).hours = g.hours := by
  unfold indStepState
  split_ifs <;> rfl

section
variable (r : SensorReads) (d : Device ℚ)

/-- A sample of the cold-chain hook ends in the excursion test of its reading. -/
theorem coldSample_cd : ∃ (out : IotUcOut ℚ) (cd : ColdSt ℚ),
    ((Profile.coldchain.sample r : Op ℚ).apply .coldchain d).cd =
      (iotUcColdExcursion .zero out cd).st ∧
    cd.t = coldchainTemp r ∧ cd.tMax = d.cd.tMax ∧ cd.minutesHot = d.cd.minutesHot := by
  obtain ⟨out, rh, hst⟩ := coldOnSample_st (coldchainTemp r) (flit 55) false .zero d.cd
  exact ⟨out, _, hst, rfl, rfl, rfl⟩

theorem coldSample_hot (h : d.cd.tMax < coldchainTemp r) :
    let cd' := ((Profile.coldchain.sample r : Op ℚ).apply .coldchain d).cd
    cd'.minutesHot = d.cd.minutesHot + 1 / 60 ∧ cd'.tMax < cd'.t := by
  obtain ⟨out, cd, hst, ht, hmax, hmin⟩ := coldSample_cd r d
  have hot : cd.tMax < cd.t := by rwa [ht, hmax]
  rw [hst, coldExcursion_hot .zero out cd hot]
  exact ⟨by simp only [flit_rat, hmin], hot⟩

theorem coldSample_cold (h : ¬ d.cd.tMax < coldchainTemp r) :
    let cd' := ((Profile.coldchain.sample r : Op ℚ).apply .coldchain d).cd
    cd'.minutesHot = d.cd.minutesHot ∧ ¬ cd'.tMax < cd'.t := by
  obtain ⟨out, cd, hst, ht, hmax, hmin⟩ := coldSample_cd r d
  have hcold : ¬ cd.tMax < cd.t := by rwa [ht, hmax]
  rw [hst, coldExcursion_cold .zero out cd hcold]
  exact ⟨hmin, hcold⟩

/-- A sample of the industrial hook steps the state machine, then counts the hours. -/
theorem indSample_st : ∃ g : IndSt ℚ, (g.Runs ↔ (indReads r d.ind).Runs) ∧
    g.hours = d.ind.hours ∧ ((Profile.industrial.sample r : Op ℚ).apply .industrial d).ind =
      if (indStepState g).st = .run then
        { indStepState g with hours := (indStepState g).hours + flit 1 / flit 3600 }
      else indStepState g :=
  ⟨{ indReads r d.ind with pulses := if 0 < r.pulses then r.pulses else d.ind.pulses },
    Iff.rfl, rfl, rfl⟩

theorem indSample_run (h : (indReads r d.ind).Runs) :
    let g' := ((Profile.industrial.sample r : Op ℚ).apply .industrial d).ind
    g'.hours = d.ind.hours + 1 / 3600 ∧ g'.st = .run := by
  obtain ⟨g, hruns, hhours, hst⟩ := indSample_st r d
  have hrun : (indStepState g).st = .run := (indStepState_run_iff g).mpr (hruns.mpr h)
  rw [hst, if_pos hrun]
  exact ⟨by simp only [indStepState_hours, hhours, flit_rat], hrun⟩

theorem indSample_rest (h : ¬ (indReads r d.ind).Runs) :
    let g' := ((Profile.industrial.sample r : Op ℚ).apply .industrial d).ind
    g'.hours = d.ind.hours ∧ g'.st ≠ .run := by
  obtain ⟨g, hruns, hhours, hst⟩ := indSample_st r d
  have hrest : (indStepState g).st ≠ .run :=
    fun hrun => h (hruns.mp ((indStepState_run_iff g).mp hrun))
  rw [hst, if_neg hrest]
  exact ⟨(indStepState_hours g).trans hhours, hrest⟩

theorem energySample_st :
    ((Profile.energy.sample r : Op ℚ).apply .energy d).energy =
      (iotUcRun hostPlatform .energyMeasure (adcInput r.mv d.energy) d).st.energy := rfl

/-- A sample adds what a second is worth in the condition it finds. -/
theorem sample_integral (profile : Profile) :
    profile.integral ((profile.sample r).apply profile d) =
      profile.integral d + profile.rate ((profile.sample r).apply profile d) * 1000 := by
  cases profile
  case energy =>
    obtain ⟨hk, -⟩ := measure_kwh hostPlatform (adcInput r.mv d.energy) d
    rw [← energySample_st] at hk
    simp only [Profile.integral, Profile.rate, hk]
    ring
  case industrial =>
    by_cases h : (indReads r d.ind).Runs
    · obtain ⟨hhours, hst⟩ := indSample_run r d h
      simp only [Profile.integral, Profile.rate, hhours, if_pos hst]
      norm_num
    · obtain ⟨hhours, hst⟩ := indSample_rest r d h
      simp only [Profile.integral, Profile.rate, hhours, if_neg hst, zero_mul, add_zero]
  case coldchain =>
    by_cases h : d.cd.tMax < coldchainTemp r
    · obtain ⟨hmin, hot⟩ := coldSample_hot r d h
      simp only [Profile.integral, Profile.rate, hmin, if_pos hot]
      norm_num
    · obtain ⟨hmin, hot⟩ := coldSample_cold r d h
      simp only [Profile.integral, Profile.rate, hmin, if_neg hot, zero_mul, add_zero]
  all_goals exact (by norm_num : (0 : ℚ) = 0 + 0 * 1000)

theorem sample_rate_iff (profile : Profile) (hpf : 0 < d.energy.pf) :
    profile.rate ((profile.sample r).apply profile d) = 0 ↔ SampleIdle r d profile := by
  cases profile
  case energy =>
    obtain ⟨v, i, hv, hi, hp⟩ := measure_factors hostPlatform (adcInput r.mv d.energy) d
    rw [← energySample_st] at hp
    have hfactor : v * voltFactor (adcInput r.mv d.energy) d.energy *
        (i * ampFactor (adcInput r.mv d.energy) d.energy) * d.energy.pf / 3600000000 =
        v * i * d.energy.pf / 3600000000 * (voltFactor (adcInput r.mv d.energy) d.energy *
          ampFactor (adcInput r.mv d.energy) d.energy) := by ring
    have hpos : v * i * d.energy.pf / 3600000000 ≠ 0 := by positivity
    rw [Profile.rate, hp, hfactor, mul_eq_zero_iff_left hpos, SampleIdle]
  case industrial =>
    by_cases h : (indReads r d.ind).Runs
    · obtain ⟨-, hst⟩ := indSample_run r d h
      rw [Profile.rate, if_pos hst]
      exact iff_of_false (by norm_num) (not_not_intro h)
    · obtain ⟨-, hst⟩ := indSample_rest r d h
      rw [Profile.rate, if_neg hst]
      exact iff_of_true rfl h
  case coldchain =>
    by_cases h : d.cd.tMax < coldchainTemp r
    · obtain ⟨-, hot⟩ := coldSample_hot r d h
      rw [Profile.rate, if_pos hot]
      exact iff_of_false (by norm_num) (not_not_intro h)
    · obtain ⟨-, hot⟩ := coldSample_cold r d h
      rw [Profile.rate, if_neg hot]
      exact iff_of_true rfl h
  all_goals exact iff_of_true rfl trivial

end

/-- What the hook adds in a step. -/
def added (profile : Profile) (e : SensorTask ℚ × TaskOp × SensorTask ℚ) : ℚ :=
  match e.2.1 with
  | .iterate .. => profile.integral e.2.2.dev - profile.integral e.1.dev
  | .other _ => 0

/-- What the time since the message before is worth in the condition that a pass finds. -/
def elapsed (profile : Profile) (e : SensorTask ℚ × TaskOp × SensorTask ℚ) : ℚ :=
  match e.2.1 with
  | .iterate .. => profile.rate e.2.2.dev * (e.2.2.unixMs - e.1.unixMs)
  | .other _ => 0

/-- A pass comes a second after the one before, or its sample has nothing to integrate. -/
def TaskOp.OnTime (profile : Profile) (t : SensorTask ℚ) : TaskOp → Prop
  | .iterate ms r => t.dev.sys.shutdown = false →
      ms.toNat - t.unixMs = 1000 ∨ SampleIdle r t.dev profile
  | .other _ => True

theorem TaskOp.apply_onTime_iff (profile : Profile) (op : TaskOp) {t : SensorTask ℚ}
    (hpf : 0 < t.dev.energy.pf) :
    added profile (t, op, op.apply profile t) = elapsed profile (t, op, op.apply profile t) ↔
      op.OnTime profile t := by
  cases op with
  | other op => exact iff_of_true rfl trivial
  | iterate ms r =>
    simp only [added, elapsed, TaskOp.apply, TaskOp.OnTime]
    cases hs : t.dev.sys.shutdown with
    | true =>
      rw [sensorTask_shutdown profile ms r hs]
      simp
    | false =>
      rw [sensorTask_running profile ms r hs]
      simp only [sample_integral, ← sample_rate_iff r t.dev profile hpf, true_implies]
      generalize profile.rate ((profile.sample r).apply profile t.dev) = rate
      have hcast : ((ms.toNat : ℤ) - t.unixMs = 1000) ↔
          (((ms.toNat : ℤ) : ℚ) - (t.unixMs : ℚ) = 1000) := by
        exact_mod_cast Iff.rfl
      rw [hcast, add_sub_cancel_left, mul_eq_mul_left_iff]
      exact or_congr eq_comm Iff.rfl

theorem TaskOp.apply_pf_pos (profile : Profile) (op : TaskOp) {t : SensorTask ℚ}
    (h : 0 < t.dev.energy.pf) : 0 < (op.apply profile t).dev.energy.pf := by
  cases op with
  | other op => exact op.apply_pf_pos profile t.dev h
  | iterate ms r =>
    simp only [TaskOp.apply]
    cases hs : t.dev.sys.shutdown with
    | true => rwa [sensorTask_shutdown profile ms r hs]
    | false =>
      rw [sensorTask_running profile ms r hs]
      exact (profile.sample r).apply_pf_pos profile t.dev h

/-- The task with the device as it boots, after a message of time `t0`. -/
def bootTask (P : Platform) (profile : Profile) (wdtReset : Bool) (nvs : Option NvsImage)
    (t0 : ℤ) : SensorTask ℚ where
  dev := appMain P profile wdtReset nvs
  seq := 0
  unixMs := t0

/-- What the hook has added is what the elapsed time is worth, after any number of passes, exactly
when every pass comes a second after the one before or has nothing to integrate. -/
theorem sensorRun_onTime_iff (P : Platform) (profile : Profile) (wdtReset : Bool)
    (nvs : Option NvsImage) (t0 : ℤ) (ops : List TaskOp) :
    (∀ pre, pre <+: trace (TaskOp.apply profile) (bootTask P profile wdtReset nvs t0) ops →
      (pre.map (added profile)).sum = (pre.map (elapsed profile)).sum) ↔
    ∀ e ∈ trace (TaskOp.apply profile) (bootTask P profile wdtReset nvs t0) ops,
      e.2.1.OnTime profile e.1 := by
  have hinv := (Run.invariant (I := fun t : SensorTask ℚ => 0 < t.dev.energy.pf)
    (C := fun _ _ _ => True)
    (by rintro t op t' ht rfl -; exact op.apply_pf_pos profile ht)
    (run_trace (TaskOp.apply profile) (bootTask P profile wdtReset nvs t0) ops)
    (appMain_pf_pos P profile wdtReset nvs) (by simp)).2
  rw [forall_prefix_sum_iff]
  refine forall₂_congr fun e he => ?_
  have hstep : e = (e.1, e.2.1, e.2.1.apply profile e.1) := by rw [← step_of_mem he]
  rw [← TaskOp.apply_onTime_iff profile e.2.1 (hinv e he).1, ← hstep]

/-- At the 200 ms of the semaphore's timeout the energy hook adds five times what has passed. -/
theorem sensorRun_timeout_adds_a_second : ¬ ∀ pre, pre <+: trace (TaskOp.apply .energy)
    (bootTask hostPlatform .energy false none 0)
    [.iterate 200 { mv := 2000, i2cOk := true, raw0 := 0, raw1 := 0, pulses := 0, rx := fun _ => 0,
                    uartN := 0 }] →
      (pre.map (added .energy)).sum = (pre.map (elapsed .energy)).sum := by
  intro h
  have hall := h _ List.prefix_rfl
  revert hall
  decide +kernel

end IotPlatform
