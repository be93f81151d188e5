import IotPlatform.Executions

/-!
# The crest factor

The peak hold follows the largest reading and the rms register averages the readings, so the
average stays below the peak. Clearing the peak hold leaves the average where it is.
-/
namespace IotPlatform
open CText CFloat Runs

/-- The magnitude of the acceleration in a request of `predictive.features`. -/
def accelAsked (inp : IotUcIn ℚ) : ℚ :=
  |if inp.has (txt "accel") then inp.f32 (txt "accel") (inp.f 0) else inp.f 0|

/-- The record that `iot_uc_pm_on_sample` hands to `iot_uc_pm_features`. -/
def pmSampleInput {F : Type} [CFloat F] (accel : F) : IotUcIn F :=
  let z : IotUcIn F := .zero
  { z with f := Function.update z.f 0 accel }

/-- The use case whose handler an operation executes, a sample of the hook counted as
`predictive.features`. -/
def Op.pmRequest {F : Type} [CFloat F] (profile : Profile) (op : Op F) :
    Option (IotUcId × IotUcIn F) :=
  match op with
  | .pmSample accel => some (.pmFeatures, pmSampleInput accel)
  | op => (op.useCase profile).map Prod.snd

/-- A device, and whether its peak hold covers what the rms register averages: it has not been
cleared, or a reading of at least the rms has come since. -/
structure PeakHold where
  dev : Device ℚ
  covers : Bool

def PeakHold.apply (profile : Profile) (m : PeakHold) (op : Op ℚ) : PeakHold where
  dev := op.apply profile m.dev
  covers :=
    match op.pmRequest profile with
    | some (.pmFeatures, inp) => m.covers || decide (m.dev.pm.rms ≤ accelAsked inp)
    | some (.pmResetPeak, _) => false
    | _ => m.covers

def bootPeakHold (P : Platform) (profile : Profile) (wdtReset : Bool) (nvs : Option NvsImage) :
    PeakHold where
  dev := appMain P profile wdtReset nvs
  covers := true

/-- Behind a features call with an rms above 0.01 the crest factor is the peak over the rms, and
at least 1. -/
def CrestMeaningful (profile : Profile) (op : Op ℚ) (pm' : PmSt ℚ) : Prop :=
  ∀ inp, op.pmRequest profile = some (.pmFeatures, inp) → 0.01 < pm'.rms →
    pm'.crest = pm'.peak / pm'.rms ∧ 1 ≤ pm'.crest

/-- The reading is at least the rms, or the peak held is at least the next rms. -/
def PeakCovers (inp : IotUcIn ℚ) (pm : PmSt ℚ) : Prop :=
  pm.rms ≤ accelAsked inp ∨ 9 * pm.rms + accelAsked inp ≤ 10 * pm.peak

/-- What a features call leaves when its rms is above 0.01. -/
structure CrestLaw (m : PeakHold) (inp : IotUcIn ℚ) (m' : PeakHold) : Prop where
  ratio : m'.dev.pm.crest = m'.dev.pm.peak / m'.dev.pm.rms
  one_le_iff : 1 ≤ m'.dev.pm.crest ↔ m'.dev.pm.rms ≤ m'.dev.pm.peak
  covers_iff : 1 ≤ m'.dev.pm.crest ↔ PeakCovers inp m.dev.pm
  of_covers : m'.covers = true → 1 ≤ m'.dev.pm.crest

theorem Op.apply_pm (profile : Profile) (op : Op ℚ) (d : Device ℚ) :
    (∃ P id inp, op.pmRequest profile = some (id, inp) ∧
      (op.apply profile d).pm = (iotUcRun P id inp d).st.pm) ∨
    (op.pmRequest profile = none ∧ (op.apply profile d).pm = d.pm) := by
  refine op.apply_request Device.pm (fun hs => ?_) (fun hs => ?_) fun _ => rfl
  · cases op with
    | pmSample accel => exact absurd trivial hs
    | _ => rfl
  · cases op with
    | pmSample accel => exact Or.inl ⟨hostPlatform, _, pmSampleInput accel, rfl, rfl⟩
    | command | run | runJson | otaProgress | diag => exact hs.elim
    | _ => exact Or.inr ⟨rfl, rfl⟩

section
variable (P : Platform) (inp : IotUcIn ℚ) (d : Device ℚ)

theorem features_pm :
    let pm' := (iotUcRun P .pmFeatures inp d).st.pm
    pm'.rms = d.pm.rms * 0.9 + accelAsked inp * 0.1 ∧
      pm'.peak = max d.pm.peak (accelAsked inp) ∧
      pm'.crest = if 0.01 < pm'.rms then pm'.peak / pm'.rms else 0 := by
  refine ⟨rfl, ?_, ?_⟩
  · have hmax := max_def_lt d.pm.peak (accelAsked inp)
    exact (ite_congr rfl (fun _ => rfl) fun _ => rfl).trans hmax.symm
  · exact ite_congr rfl (fun _ => rfl) fun _ => rfl

/-- The other use cases keep rms and peak, except that one of them clears the peak. -/
theorem other_pm {id : IotUcId} (hf : id ≠ .pmFeatures) :
    (iotUcRun P id inp d).st.pm.rms = d.pm.rms ∧
      (id ≠ .pmResetPeak → (iotUcRun P id inp d).st.pm.peak = d.pm.peak) := by
  cases id
  case pmFeatures => exact absurd rfl hf
  case pmResetPeak => exact ⟨rfl, fun h => absurd rfl h⟩
  all_goals exact ⟨rfl, fun _ => rfl⟩

end

/-- The average is below the peak that covers both its parts, and above a peak that covers
neither. -/
theorem average_le_max_iff {r a p : ℚ} :
    r * 0.9 + a * 0.1 ≤ max p a ↔ r ≤ a ∨ 9 * r + a ≤ 10 * p := by
  rw [le_max_iff, or_comm]
  refine or_congr ?_ ?_ <;> constructor <;> intro h <;> linarith

/-- The peak covers the average. -/
def PeakHold.Inv (m : PeakHold) : Prop := m.covers = true → m.dev.pm.rms ≤ m.dev.pm.peak

section
variable {profile : Profile} {m : PeakHold} {op : Op ℚ} {inp : IotUcIn ℚ}

/-- A features call with a peak hold that covers the average leaves one that does. -/
theorem PeakCovers.of_covers (hm : m.Inv) (h : op.pmRequest profile = some (.pmFeatures, inp))
    (hc : (m.apply profile op).covers = true) : PeakCovers inp m.dev.pm := by
  simp only [PeakHold.apply, h, Bool.or_eq_true, decide_eq_true_eq] at hc
  rcases hc with hc | hle
  · have hpeak := hm hc
    rcases le_total m.dev.pm.rms (accelAsked inp) with hle | hle
    · exact Or.inl hle
    · exact Or.inr (by linarith)
  · exact Or.inl hle

theorem features_st (h : op.pmRequest profile = some (.pmFeatures, inp)) :
    ∃ P, (m.apply profile op).dev.pm = (iotUcRun P .pmFeatures inp m.dev).st.pm := by
  rcases op.apply_pm profile m.dev with ⟨P, id, inp', hr, heq⟩ | ⟨hr, -⟩
  · obtain ⟨rfl, rfl⟩ : id = .pmFeatures ∧ inp' = inp := by simpa using hr.symm.trans h
    exact ⟨P, heq⟩
  · simp [hr] at h

theorem features_peak_iff (h : op.pmRequest profile = some (.pmFeatures, inp)) :
    (m.apply profile op).dev.pm.rms ≤ (m.apply profile op).dev.pm.peak ↔
      PeakCovers inp m.dev.pm := by
  obtain ⟨P, heq⟩ := features_st h
  obtain ⟨hrms, hpeak, -⟩ := features_pm P inp m.dev
  rw [heq, hrms, hpeak]
  exact average_le_max_iff

theorem PeakHold.apply_inv (hm : m.Inv) : (m.apply profile op).Inv := by
  intro hc
  rcases op.apply_pm profile m.dev with ⟨P, id, inp, hr, heq⟩ | ⟨hr, heq⟩
  · by_cases hf : id = .pmFeatures
    · subst hf
      exact (features_peak_iff hr).mpr (.of_covers hm hr hc)
    · obtain ⟨hrms, hpeak⟩ := other_pm P inp m.dev hf
      by_cases hreset : id = .pmResetPeak
      · subst hreset
        simp [PeakHold.apply, hr] at hc
      · have hcovers : (m.apply profile op).covers = m.covers := by
          simp only [PeakHold.apply, hr]
          split <;> simp_all
        have hpm := hm (hcovers ▸ hc)
        change (op.apply profile m.dev).pm.rms ≤ (op.apply profile m.dev).pm.peak
        rwa [heq, hrms, hpeak hreset]
  · have hcovers : (m.apply profile op).covers = m.covers := by simp [PeakHold.apply, hr]
    change (op.apply profile m.dev).pm.rms ≤ (op.apply profile m.dev).pm.peak
    rw [heq]
    exact hm (hcovers ▸ hc)

theorem features_crest (hm : m.Inv) (h : op.pmRequest profile = some (.pmFeatures, inp))
    (hrms : 0.01 < (m.apply profile op).dev.pm.rms) : CrestLaw m inp (m.apply profile op) := by
  have hratio : (m.apply profile op).dev.pm.crest =
      (m.apply profile op).dev.pm.peak / (m.apply profile op).dev.pm.rms := by
    obtain ⟨P, heq⟩ := features_st (m := m) h
    obtain ⟨-, -, hcrest⟩ := features_pm P inp m.dev
    rw [heq] at hrms ⊢
    rw [hcrest, if_pos hrms]
  have hone : 1 ≤ (m.apply profile op).dev.pm.crest ↔
      (m.apply profile op).dev.pm.rms ≤ (m.apply profile op).dev.pm.peak := by
    rw [hratio]
    exact one_le_div (by linarith)
  have hcovers := hone.trans (features_peak_iff h)
  exact ⟨hratio, hone, hcovers, fun hc => hcovers.mpr (.of_covers hm h hc)⟩

end

/-- Along a run from boot the crest factor is the peak over the rms. It is at least 1 as long as
the peak hold covers what is averaged, and otherwise exactly when the call's own reading or the
peak held makes up for it. -/
theorem pmRun_crest (P : Platform) (profile : Profile) (wdtReset : Bool) (nvs : Option NvsImage)
    (ops : List (Op ℚ)) :
    ∀ e ∈ trace (PeakHold.apply profile) (bootPeakHold P profile wdtReset nvs) ops,
      ∀ inp, e.2.1.pmRequest profile = some (.pmFeatures, inp) → 0.01 < e.2.2.dev.pm.rms →
        CrestLaw e.1 inp e.2.2 := by
  have hinv := (Run.invariant (I := PeakHold.Inv) (C := fun _ _ _ => True)
    (by rintro m op m' hm rfl -; exact PeakHold.apply_inv hm)
    (run_trace (PeakHold.apply profile) (bootPeakHold P profile wdtReset nvs) ops)
    (fun _ => le_refl (0 : ℚ)) fun _ _ => trivial).2
  intro e he inp hreq hrms
  have hstep := step_of_mem he
  rw [hstep] at hrms ⊢
  exact features_crest (hinv e he).1 hreq hrms

theorem pmRun_crest_third :
    let ops : List (Op ℚ) := [.pmSample 10, .pmSample 3, .pmSample 20]
    let m' := ops.foldl (PeakHold.apply .predictive)
      (bootPeakHold hostPlatform .predictive false none)
    m'.dev.pm.peak = 20 ∧ m'.dev.pm.crest = m'.dev.pm.peak / m'.dev.pm.rms ∧
      1 ≤ m'.dev.pm.crest := by
  intro ops m'
  have hlaw := pmRun_crest hostPlatform .predictive false none ops (_, _, m')
    (List.mem_cons_of_mem _ (List.mem_cons_of_mem _ List.mem_cons_self)) _ rfl (by decide +kernel)
  exact ⟨by decide +kernel, hlaw.ratio, hlaw.of_covers (by decide +kernel)⟩

/-- After a reading of 10 the peak is cleared; the next reading of 0 finds an rms of 0.9. -/
theorem pmRun_crest_below_one : ¬ ∀ e ∈ trace (Op.apply .predictive)
    (appMain hostPlatform .predictive false none)
    [.pmSample 10, .run hostPlatform .pmResetPeak .zero, .pmSample 0],
    CrestMeaningful .predictive e.2.1 e.2.2.pm := by
  intro h
  have hlast := h _ (List.mem_cons_of_mem _ (List.mem_cons_of_mem _ List.mem_cons_self))
  have hone := (hlast _ rfl (by decide +kernel)).2
  revert hone
  decide +kernel

end IotPlatform
