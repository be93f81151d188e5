import IotPlatform.Executions

/-!
# The energy meter

Two handlers integrate power, in exact arithmetic here. `energy.measure` adds one second of the
power it has just computed to both registers; `energy.accum` adds to the total alone, a thousand
times what the duration it is given is worth.
-/
namespace IotPlatform
open CText CFloat Runs

section
variable {F : Type} [CFloat F]

/-- The duration in milliseconds that a request of `energy.accum` names. -/
def accumAsked (inp : IotUcIn F) : F :=
  if inp.has (txt "dt_ms") then inp.f32 (txt "dt_ms") (inp.f 0) else inp.f 0

/-- The duration that a struct stands for; one without a positive entry stands for a second. -/
def accumDefault (inp : IotUcIn F) : F := if flit 0 < inp.f 0 then inp.f 0 else flit 1000

/-- The duration that `iot_uc_energy_accum` works with. -/
def accumMs (inp : IotUcIn F) : F :=
  if inp.has (txt "dt_ms") then inp.f32 (txt "dt_ms") (accumDefault inp) else accumDefault inp

/-- The voltage and the current of a request of `energy.measure`, before they are scaled. -/
def measureAsked (inp : IotUcIn F) : F × F :=
  if inp.has (txt "v") then (inp.f32 (txt "v") (inp.f 0), inp.f32 (txt "i") (inp.f 1))
  else (inp.f 0, inp.f 1)

variable (P : Platform) (inp : IotUcIn F) (d : Device F)

theorem measure_st :
    let s' := (iotUcRun P .energyMeasure inp d).st.energy
    s'.kwh = d.energy.kwh + s'.p / flit 3600000 ∧
      s'.kwhDay = d.energy.kwhDay + s'.p / flit 3600000 ∧
      s'.p = s'.vrms * s'.irms * d.energy.pf ∧ s'.pf = d.energy.pf ∧
      s'.vrms = (if flit 0 < (measureAsked inp).1 then (measureAsked inp).1 * d.energy.vScale
        else d.energy.vrms) ∧
      s'.irms = (if flit 0 ≤ (measureAsked inp).2 then (measureAsked inp).2 * d.energy.iScale
        else d.energy.irms) :=
  ⟨rfl, rfl, rfl, rfl, rfl, rfl⟩

theorem accum_st : (iotUcRun P .energyAccum inp d).st.energy =
    { d.energy with
      kwh := d.energy.kwh + d.energy.p * (accumMs inp / flit 3600000000) * flit 1000 } := rfl

/-- Of the energy use cases only measuring, accumulating and the daily reset touch the registers. -/
theorem other_kwh {id : IotUcId} (hm : id ≠ .energyMeasure) (ha : id ≠ .energyAccum) :
    (iotUcRun P id inp d).st.energy.kwh = d.energy.kwh ∧
      (id ≠ .energyResetDaily →
        (iotUcRun P id inp d).st.energy.kwhDay = d.energy.kwhDay) := by
  cases id
  case energyMeasure => exact absurd rfl hm
  case energyAccum => exact absurd rfl ha
  case energyResetDaily => exact ⟨rfl, fun h => absurd rfl h⟩
  case energySetLimits =>
    simp only [iotUcRun, entryFn, onEnergy, Handler.at, iotUcEnergySetLimits]
    split <;> exact ⟨rfl, fun _ => rfl⟩
  case energyCalibrate =>
    simp only [iotUcRun, entryFn, onEnergy, Handler.at, iotUcEnergyCalibrate]
    split <;> exact ⟨rfl, fun _ => rfl⟩
  case energyPf =>
    simp only [iotUcRun, entryFn, onEnergy, Handler.at, iotUcEnergyPf]
    split <;> exact ⟨rfl, fun _ => rfl⟩
  all_goals exact ⟨rfl, fun _ => rfl⟩

end

section
variable (P : Platform) (inp : IotUcIn ℚ) (d : Device ℚ)

theorem measure_kwh :
    let s' := (iotUcRun P .energyMeasure inp d).st.energy
    s'.kwh = d.energy.kwh + s'.p / 3600000 ∧ s'.kwhDay = d.energy.kwhDay + s'.p / 3600000 := by
  obtain ⟨hk, hd, -⟩ := measure_st P inp d
  exact ⟨hk, hd⟩

theorem accum_kwh :
    (iotUcRun P .energyAccum inp d).st.energy.kwh =
        d.energy.kwh + d.energy.p * (accumMs inp / 3600000000) * 1000 ∧
      (iotUcRun P .energyAccum inp d).st.energy.kwhDay = d.energy.kwhDay := by
  rw [accum_st]
  simp only [flit_rat, and_self]

theorem accumDefault_pos : 0 < accumDefault inp := by
  unfold accumDefault
  split_ifs with hpos
  · exact hpos
  · exact (by norm_num : (0 : ℚ) < 1000)

/-- Only a text that names the duration zero makes the handler work with it. -/
theorem accumAsked_of_accumMs_zero (h : accumMs inp = 0) : accumAsked inp = 0 := by
  have hne := (accumDefault_pos inp).ne'
  cases hh : inp.has (txt "dt_ms") with
  | false =>
    rw [accumMs, hh, if_neg Bool.false_ne_true] at h
    exact absurd h hne
  | true =>
    rw [accumMs, hh, if_pos rfl] at h
    rw [accumAsked, hh, if_pos rfl]
    rcases inp.f32_cases (txt "dt_ms") with hkeep | ⟨x, hx⟩
    · exact absurd ((hkeep _).symm.trans h) hne
    · rw [hx] at h ⊢
      exact h

/-- The request adds `p * dt_ms / 3.6e9` to both registers. -/
def AccumExact : Prop :=
  let s' := (iotUcRun P .energyAccum inp d).st.energy
  s'.kwh = d.energy.kwh + d.energy.p * accumAsked inp / 3600000000 ∧
    s'.kwhDay = d.energy.kwhDay + d.energy.p * accumAsked inp / 3600000000

/-- The device after a sequence of samples. -/
def measured (samples : List (IotUcIn ℚ)) : Device ℚ :=
  samples.foldl (fun d inp => (iotUcRun P .energyMeasure inp d).st) d

/-- Every sample finds the power that the one before it found. -/
def ConstantPower (P : Platform) : Device ℚ → List (IotUcIn ℚ) → Prop
  | _, [] => True
  | d, inp :: samples =>
    let d' := (iotUcRun P .energyMeasure inp d).st
    d'.energy.p = d.energy.p ∧ ConstantPower P d' samples

/-- A request of `1000 * n` milliseconds leaves the registers that `n` samples at constant power
would leave. -/
def AccumAsSamples : Prop :=
  ∀ samples, ConstantPower P d samples → accumAsked inp = 1000 * samples.length →
    (iotUcRun P .energyAccum inp d).st.energy.kwh = (measured P d samples).energy.kwh ∧
      (iotUcRun P .energyAccum inp d).st.energy.kwhDay = (measured P d samples).energy.kwhDay

theorem measured_constant {samples : List (IotUcIn ℚ)} (h : ConstantPower P d samples) :
    (measured P d samples).energy.kwh = d.energy.kwh + samples.length * d.energy.p / 3600000 ∧
      (measured P d samples).energy.kwhDay =
        d.energy.kwhDay + samples.length * d.energy.p / 3600000 := by
  induction samples generalizing d with
  | nil => simp [measured]
  | cons inp samples ih =>
    obtain ⟨hp, hrest⟩ := h
    obtain ⟨hk, hday⟩ := ih _ hrest
    obtain ⟨hk', hday'⟩ := measure_kwh P inp d
    have hcons : measured P d (inp :: samples) =
      measured P (iotUcRun P .energyMeasure inp d).st samples := rfl
    rw [hcons, hk, hday, hk', hday', hp, List.length_cons]
    push_cast
    constructor <;> ring

theorem accum_consistent_iff :
    AccumExact P inp d ∧ AccumAsSamples P inp d ↔ d.energy.p = 0 ∨ accumMs inp = 0 := by
  obtain ⟨hk, hday⟩ := accum_kwh P inp d
  constructor
  · rintro ⟨⟨hk', hday'⟩, -⟩
    have hasked : d.energy.p * accumAsked inp = 0 := by linarith
    have hms : d.energy.p * accumMs inp = 0 := by linarith
    exact mul_eq_zero.mp hms
  · intro h
    have hms : d.energy.p * accumMs inp = 0 := mul_eq_zero.mpr h
    have hasked : d.energy.p * accumAsked inp = 0 := by
      rcases h with h | h
      · rw [h, zero_mul]
      · rw [accumAsked_of_accumMs_zero inp h, mul_zero]
    refine ⟨⟨by linarith, by linarith⟩, fun samples hconst hlen => ?_⟩
    obtain ⟨hsk, hsday⟩ := measured_constant P d hconst
    rw [hlen] at hasked
    constructor <;> linarith

end

/-- A device, and what its total was at the last daily reset or at boot. -/
structure Daily where
  dev : Device ℚ
  base : ℚ

def Daily.apply (profile : Profile) (m : Daily) (op : Op ℚ) : Daily :=
  let d := op.apply profile m.dev
  { dev := d
    base :=
      if (op.energyRequest profile m.dev.energy).map Prod.fst = some .energyResetDaily then
        d.energy.kwh
      else m.base }

def bootDaily (P : Platform) (profile : Profile) (wdtReset : Bool) (nvs : Option NvsImage) :
    Daily where
  dev := appMain P profile wdtReset nvs
  base := (appMain P profile wdtReset nvs : Device ℚ).energy.kwh

/-- The daily register holds what the total has grown by since the reset. -/
def DayAccrued (m : Daily) : Prop := m.dev.energy.kwhDay = m.dev.energy.kwh - m.base

/-- An accumulation finds no power, or names no time. -/
def AccumIdle (profile : Profile) (s : EnergySt ℚ) (op : Op ℚ) : Prop :=
  ∀ inp, op.energyRequest profile s = some (.energyAccum, inp) → s.p = 0 ∨ accumMs inp = 0

theorem Daily.apply_accrued_iff {profile : Profile} {m : Daily} (h : DayAccrued m) (op : Op ℚ) :
    DayAccrued (m.apply profile op) ↔ AccumIdle profile m.dev.energy op := by
  rcases op.apply_energy profile m.dev with ⟨P, id, inp, hr, heq⟩ | ⟨hr, heq⟩
  · have hidle : AccumIdle profile m.dev.energy op ↔
        (id = .energyAccum → m.dev.energy.p = 0 ∨ accumMs inp = 0) := by
      simp only [AccumIdle, hr, Option.some.injEq, Prod.mk.injEq]
      grind
    rw [hidle]
    simp only [DayAccrued, Daily.apply, hr, heq, Option.map_some, Option.some.injEq] at h ⊢
    by_cases hm : id = .energyMeasure
    · subst hm
      obtain ⟨hk, hday⟩ := measure_kwh P inp m.dev
      simp only [reduceCtorEq, if_false, false_implies, iff_true]
      linarith
    · by_cases ha : id = .energyAccum
      · subst ha
        obtain ⟨hk, hday⟩ := accum_kwh P inp m.dev
        simp only [reduceCtorEq, if_false, true_implies, hk, hday, ← mul_eq_zero]
        constructor <;> intro hz <;> linarith
      · obtain ⟨hk, hday⟩ := other_kwh P inp m.dev hm ha
        refine iff_of_true ?_ fun h' => absurd h' ha
        by_cases hreset : id = .energyResetDaily
        · subst hreset
          rw [if_pos rfl, sub_self]
          rfl
        · rw [if_neg hreset, hday hreset, hk, h]
  · refine iff_of_true ?_ fun inp h' => by simp [hr] at h'
    simp only [DayAccrued, Daily.apply, hr, heq]
    exact h

/-- An accumulation adds what `n` samples add, to both registers, exactly when there is no power
or no time to add; and along a run the daily register is what the total has grown by since the
last reset, in every state, exactly when every accumulation is of that kind. -/
theorem energyMeter_consistent_iff (P : Platform) (inp : IotUcIn ℚ) (d : Device ℚ)
    (profile : Profile) (wdtReset : Bool) (nvs : Option NvsImage) (ops : List (Op ℚ)) :
    (AccumExact P inp d ∧ AccumAsSamples P inp d ↔ d.energy.p = 0 ∨ accumMs inp = 0) ∧
    ((∀ e ∈ trace (Daily.apply profile) (bootDaily P profile wdtReset nvs) ops,
        DayAccrued e.2.2) ↔
      ∀ e ∈ trace (Daily.apply profile) (bootDaily P profile wdtReset nvs) ops,
        AccumIdle profile e.1.dev.energy e.2.1) := by
  refine ⟨accum_consistent_iff P inp d, ?_⟩
  have hboot : DayAccrued (bootDaily P profile wdtReset nvs) := (sub_self _).symm
  refine Run.forall_iff (I := DayAccrued) (C := fun _ _ m' => DayAccrued m')
    (G := fun m op _ => AccumIdle profile m.dev.energy op) ?_ ?_ (run_trace _ _ _) hboot
  · rintro m op m' hm rfl
    exact m.apply_accrued_iff hm op
  · rintro m op m' - rfl hc
    exact hc

/-- One second accumulated after a reading reaches the total and not the daily register. -/
theorem energyRun_accum_skips_day : ¬ ∀ e ∈ trace (Daily.apply .energy)
    (bootDaily hostPlatform .energy false none)
    [.energyAdc 2000, .run hostPlatform .energyAccum .zero], DayAccrued e.2.2 := by
  intro h
  have hlast := h _ (List.mem_cons_of_mem _ List.mem_cons_self)
  revert hlast
  unfold DayAccrued
  decide +kernel

/-- The register that scales the voltage of a sample, or keeps it. -/
def voltFactor (inp : IotUcIn ℚ) (s : EnergySt ℚ) : ℚ :=
  if 0 < (measureAsked inp).1 then s.vScale else s.vrms

/-- The register that scales the current of a sample, or keeps it; zero for no current. -/
def ampFactor (inp : IotUcIn ℚ) (s : EnergySt ℚ) : ℚ :=
  if 0 < (measureAsked inp).2 then s.iScale
  else if (measureAsked inp).2 = 0 then 0 else s.irms

/-- A sample scales voltage and current by registers of one sign, and an accumulation names a
duration of the sign of the power. -/
def RequestForward (inp : IotUcIn ℚ) (s : EnergySt ℚ) : IotUcId → Prop
  | .energyMeasure => 0 ≤ voltFactor inp s * ampFactor inp s
  | .energyAccum => 0 ≤ s.p * accumMs inp
  | _ => True

def Op.MovesForward (profile : Profile) (s : EnergySt ℚ) (op : Op ℚ) : Prop :=
  ∀ id inp, op.energyRequest profile s = some (id, inp) → RequestForward inp s id

section
variable (P : Platform) (inp : IotUcIn ℚ) (d : Device ℚ)

theorem measure_factors : ∃ v i : ℚ, 0 < v ∧ 0 < i ∧
    (iotUcRun P .energyMeasure inp d).st.energy.p =
      v * voltFactor inp d.energy * (i * ampFactor inp d.energy) * d.energy.pf := by
  obtain ⟨-, -, hp, -, hv, hi⟩ := measure_st P inp d
  have hvolt : ∃ v : ℚ, 0 < v ∧
      (iotUcRun P .energyMeasure inp d).st.energy.vrms = v * voltFactor inp d.energy := by
    rw [hv, voltFactor]
    by_cases h : 0 < (measureAsked inp).1
    · exact ⟨(measureAsked inp).1, h, by simp only [flit_rat, if_pos h]⟩
    · exact ⟨1, one_pos, by simp only [flit_rat, if_neg h, one_mul]⟩
  have hamp : ∃ i : ℚ, 0 < i ∧
      (iotUcRun P .energyMeasure inp d).st.energy.irms = i * ampFactor inp d.energy := by
    rw [hi, ampFactor]
    rcases lt_trichotomy 0 (measureAsked inp).2 with h | h | h
    · exact ⟨(measureAsked inp).2, h, by simp only [flit_rat, if_pos h, if_pos h.le]⟩
    · refine ⟨1, one_pos, ?_⟩
      simp only [flit_rat, ← h, le_refl, if_true, lt_irrefl, if_false, zero_mul, mul_zero]
    · refine ⟨1, one_pos, ?_⟩
      simp only [flit_rat, if_neg h.not_gt, if_neg h.not_ge, if_neg h.ne, one_mul]
  obtain ⟨v, hvpos, hvolt⟩ := hvolt
  obtain ⟨i, hipos, hamp⟩ := hamp
  exact ⟨v, i, hvpos, hipos, by rw [hp, hvolt, hamp]⟩

theorem iotUcRun_forward_iff (id : IotUcId) (hpf : 0 < d.energy.pf) :
    d.energy.kwh ≤ (iotUcRun P id inp d).st.energy.kwh ↔ RequestForward inp d.energy id := by
  by_cases hm : id = .energyMeasure
  · subst hm
    obtain ⟨hk, -⟩ := measure_kwh P inp d
    obtain ⟨v, i, hv, hi, hp⟩ := measure_factors P inp d
    have hfactor : v * voltFactor inp d.energy * (i * ampFactor inp d.energy) * d.energy.pf /
        3600000 = v * i * d.energy.pf / 3600000 * (voltFactor inp d.energy *
          ampFactor inp d.energy) := by ring
    have hpos : 0 < v * i * d.energy.pf / 3600000 := by positivity
    rw [hk, hp, hfactor, le_add_iff_nonneg_right, RequestForward]
    exact mul_nonneg_iff_of_pos_left hpos
  · by_cases ha : id = .energyAccum
    · subst ha
      obtain ⟨hk, -⟩ := accum_kwh P inp d
      have hfactor : d.energy.p * (accumMs inp / 3600000000) * 1000 =
          1 / 3600000 * (d.energy.p * accumMs inp) := by ring
      rw [hk, hfactor, le_add_iff_nonneg_right, RequestForward]
      exact mul_nonneg_iff_of_pos_left (by norm_num)
    · obtain ⟨hk, -⟩ := other_kwh P inp d hm ha
      rw [hk]
      refine iff_of_true le_rfl ?_
      cases id
      case energyMeasure => exact absurd rfl hm
      case energyAccum => exact absurd rfl ha
      all_goals exact trivial

end

/-- The power factor is only replaced by one that passed its range test. -/
theorem iotUcRun_pf_pos (P : Platform) (id : IotUcId) (inp : IotUcIn ℚ) (d : Device ℚ)
    (h : 0 < d.energy.pf) : 0 < (iotUcRun P id inp d).st.energy.pf := by
  cases id
  case energySetLimits =>
    simp only [iotUcRun, entryFn, onEnergy, Handler.at, iotUcEnergySetLimits]
    split <;> exact h
  case energyCalibrate =>
    simp only [iotUcRun, entryFn, onEnergy, Handler.at, iotUcEnergyCalibrate]
    split <;> exact h
  case energyPf =>
    simp only [iotUcRun, entryFn, onEnergy, Handler.at, iotUcEnergyPf]
    split
    · exact h
    · next hr =>
      have hlow : (0.5 : ℚ) ≤ pfAsked inp := not_lt.mp fun hlt => hr (Or.inl hlt)
      exact lt_of_lt_of_le (by norm_num) hlow
  all_goals exact h

theorem Op.apply_pf_pos (profile : Profile) (op : Op ℚ) (d : Device ℚ) (h : 0 < d.energy.pf) :
    0 < (op.apply profile d).energy.pf := by
  rcases op.apply_energy profile d with ⟨P, id, inp, -, heq⟩ | ⟨-, heq⟩ <;> rw [heq]
  · exact iotUcRun_pf_pos P id inp d h
  · exact h

theorem Op.apply_forward_iff (profile : Profile) (op : Op ℚ) (d : Device ℚ)
    (h : 0 < d.energy.pf) :
    d.energy.kwh ≤ (op.apply profile d).energy.kwh ↔ op.MovesForward profile d.energy := by
  rcases op.apply_energy profile d with ⟨P, id, inp, hr, heq⟩ | ⟨hr, heq⟩
  · rw [heq, Op.MovesForward, forall_request hr]
    exact iotUcRun_forward_iff P inp d id h
  · rw [heq]
    exact iff_of_true le_rfl fun id inp h' => by simp [hr] at h'

theorem appMain_pf_pos (P : Platform) (profile : Profile) (wdtReset : Bool)
    (nvs : Option NvsImage) : 0 < (appMain P profile wdtReset nvs : Device ℚ).energy.pf :=
  (by norm_num : (0 : ℚ) < 0.95)

/-- Along a run the total never falls exactly when every sample scales voltage and current by
registers of one sign and every accumulation names a duration of the sign of the power. -/
theorem energyRun_forward_iff (P : Platform) (profile : Profile) (wdtReset : Bool)
    (nvs : Option NvsImage) (ops : List (Op ℚ)) :
    (∀ e ∈ trace (Op.apply profile) (appMain P profile wdtReset nvs) ops,
      e.1.energy.kwh ≤ e.2.2.energy.kwh) ↔
    ∀ e ∈ trace (Op.apply profile) (appMain P profile wdtReset nvs) ops,
      e.2.1.MovesForward profile e.1.energy := by
  refine Run.forall_iff (I := fun d : Device ℚ => 0 < d.energy.pf)
    (C := fun (d : Device ℚ) _ (d' : Device ℚ) => d.energy.kwh ≤ d'.energy.kwh)
    (G := fun (d : Device ℚ) (op : Op ℚ) _ => op.MovesForward profile d.energy) ?_ ?_
    (run_trace _ _ _) (appMain_pf_pos P profile wdtReset nvs)
  · rintro d op d' hd rfl
    exact op.apply_forward_iff profile d hd
  · rintro d op d' hd rfl -
    exact op.apply_pf_pos profile d hd

/-- After a reading, one text that names a negative duration takes energy off the total. -/
theorem energyRun_negative_duration : ¬ ∀ e ∈ trace (Op.apply .energy)
    (appMain hostPlatform .energy false none : Device ℚ)
    [.energyAdc 2000,
      .runJson hostPlatform (txt "\x7b\"uc\":\"energy.accum\",\"dt_ms\":-60000\x7d") 37],
    e.1.energy.kwh ≤ e.2.2.energy.kwh := by
  intro h
  have hlast := h _ (List.mem_cons_of_mem _ List.mem_cons_self)
  revert hlast
  decide +kernel

/-- No scale and no duration that the request names is negative. -/
def RequestNonneg (inp : IotUcIn ℚ) (s : EnergySt ℚ) : IotUcId → Prop
  | .energyCalibrate => 0 ≤ (calibrateScales inp s).1 ∧ 0 ≤ (calibrateScales inp s).2
  | .energyAccum => 0 ≤ accumMs inp
  | _ => True

structure EnergySt.Nonneg (s : EnergySt ℚ) : Prop where
  vScale : 0 ≤ s.vScale
  iScale : 0 ≤ s.iScale
  vrms : 0 ≤ s.vrms
  irms : 0 ≤ s.irms
  p : 0 ≤ s.p
  pf : 0 < s.pf

section
variable (P : Platform) (inp : IotUcIn ℚ) {d : Device ℚ}

theorem measure_nonneg (h : d.energy.Nonneg) :
    (iotUcRun P .energyMeasure inp d).st.energy.Nonneg := by
  obtain ⟨-, -, hp, hpf, hv, hi⟩ := measure_st P inp d
  have hvrms : 0 ≤ (iotUcRun P .energyMeasure inp d).st.energy.vrms := by
    rw [hv]
    split_ifs with hpos
    · exact mul_nonneg (le_of_lt hpos) h.vScale
    · exact h.vrms
  have hirms : 0 ≤ (iotUcRun P .energyMeasure inp d).st.energy.irms := by
    rw [hi]
    split_ifs with hpos
    · exact mul_nonneg hpos h.iScale
    · exact h.irms
  refine ⟨h.vScale, h.iScale, hvrms, hirms, ?_, by rw [hpf]; exact h.pf⟩
  rw [hp]
  exact mul_nonneg (mul_nonneg hvrms hirms) h.pf.le

theorem iotUcRun_nonneg (id : IotUcId) (h : d.energy.Nonneg)
    (hreq : RequestNonneg inp d.energy id) : (iotUcRun P id inp d).st.energy.Nonneg := by
  cases id
  case energyMeasure => exact measure_nonneg P inp h
  case energySetLimits =>
    simp only [iotUcRun, entryFn, onEnergy, Handler.at, iotUcEnergySetLimits]
    split <;> exact ⟨h.vScale, h.iScale, h.vrms, h.irms, h.p, h.pf⟩
  case energyCalibrate =>
    simp only [iotUcRun, entryFn, onEnergy, Handler.at, iotUcEnergyCalibrate]
    split <;> exact ⟨hreq.1, hreq.2, h.vrms, h.irms, h.p, h.pf⟩
  case energyPf =>
    have hpf := iotUcRun_pf_pos P .energyPf inp d h.pf
    revert hpf
    simp only [iotUcRun, entryFn, onEnergy, Handler.at, iotUcEnergyPf]
    split
    · exact fun _ => h
    · exact fun hpf => ⟨h.vScale, h.iScale, h.vrms, h.irms,
        mul_nonneg (mul_nonneg h.vrms h.irms) hpf.le, hpf⟩
  all_goals exact ⟨h.vScale, h.iScale, h.vrms, h.irms, h.p, h.pf⟩

theorem RequestNonneg.forward {id : IotUcId} (h : d.energy.Nonneg)
    (hreq : RequestNonneg inp d.energy id) : RequestForward inp d.energy id := by
  cases id
  case energyMeasure =>
    refine mul_nonneg ?_ ?_
    · unfold voltFactor
      split_ifs
      · exact h.vScale
      · exact h.vrms
    · unfold ampFactor
      split_ifs
      · exact h.iScale
      · exact le_rfl
      · exact h.irms
  case energyAccum => exact mul_nonneg h.p hreq
  all_goals exact trivial

end

def Op.NamesNonneg (profile : Profile) (s : EnergySt ℚ) (op : Op ℚ) : Prop :=
  ∀ id inp, op.energyRequest profile s = some (id, inp) → RequestNonneg inp s id

theorem Op.apply_nonneg (profile : Profile) (op : Op ℚ) {d : Device ℚ} (h : d.energy.Nonneg)
    (hop : op.NamesNonneg profile d.energy) :
    (op.apply profile d).energy.Nonneg ∧ op.MovesForward profile d.energy := by
  rcases op.apply_energy profile d with ⟨P, id, inp, hr, heq⟩ | ⟨hr, heq⟩
  · have hreq := (forall_request hr).mp hop
    rw [heq, Op.MovesForward, forall_request hr]
    exact ⟨iotUcRun_nonneg P inp id h hreq, hreq.forward inp h⟩
  · rw [heq]
    exact ⟨h, fun id inp h' => by simp [hr] at h'⟩

theorem appMain_nonneg (P : Platform) (profile : Profile) (wdtReset : Bool)
    (nvs : Option NvsImage) : (appMain P profile wdtReset nvs : Device ℚ).energy.Nonneg where
  vScale := (by norm_num : (0 : ℚ) ≤ 1)
  iScale := (by norm_num : (0 : ℚ) ≤ 1)
  vrms := (by norm_num : (0 : ℚ) ≤ 230)
  irms := (by norm_num : (0 : ℚ) ≤ 0.4)
  p := le_refl (0 : ℚ)
  pf := appMain_pf_pos P profile wdtReset nvs

/-- As long as no calibration names a negative scale and no accumulation a negative duration, the
total never falls, whatever the readings. -/
theorem energyRun_forward_of_requests (P : Platform) (profile : Profile) (wdtReset : Bool)
    (nvs : Option NvsImage) {ops : List (Op ℚ)}
    (h : ∀ e ∈ trace (Op.apply profile) (appMain P profile wdtReset nvs) ops,
      e.2.1.NamesNonneg profile e.1.energy) :
    ∀ e ∈ trace (Op.apply profile) (appMain P profile wdtReset nvs) ops,
      e.1.energy.kwh ≤ e.2.2.energy.kwh := by
  have hinv := (Run.invariant (I := fun d : Device ℚ => d.energy.Nonneg)
    (C := fun (d : Device ℚ) (op : Op ℚ) _ => op.NamesNonneg profile d.energy)
    (by rintro d op d' hd rfl hop; exact (op.apply_nonneg profile hd hop).1)
    (run_trace _ _ _) (appMain_nonneg P profile wdtReset nvs) h).2
  intro e he
  have hd := (hinv e he).1
  rw [step_of_mem he]
  exact (e.2.1.apply_forward_iff profile e.1 hd.pf).mpr
    (e.2.1.apply_nonneg profile hd (h e he)).2

end IotPlatform
