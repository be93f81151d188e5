import IotPlatform.PinMirrors
import IotPlatform.WaterBilling

/-!
# The billing freeze

The meter has two totals, and a flag that freezes billing. What is metered while the flag is set
reaches neither of them.
-/
namespace IotPlatform
open CText CFloat Runs

/-- The litres of a metering request: the pulses since the last one over the pulses per litre. -/
def meterLitres (inp : IotUcIn ℚ) (w : WaterSt ℚ) : ℚ :=
  if 0.01 < w.kPpl then (meterDelta (meterPulses inp) w.lastPulses).toNat / w.kPpl else 0

/-- The litres that an operation meters. -/
def Op.litres (profile : Profile) (w : WaterSt ℚ) (op : Op ℚ) : ℚ :=
  match op.waterRequest profile with
  | some (.waterMeter, inp) => meterLitres inp w
  | _ => 0

/-- The litres of a step. -/
def metered (profile : Profile) (e : Device ℚ × Op ℚ × Device ℚ) : ℚ :=
  e.2.1.litres profile e.1.water

/-- The litres of a step that finds billing unfrozen. -/
def billable (profile : Profile) (e : Device ℚ × Op ℚ × Device ℚ) : ℚ :=
  if e.1.water.frozen then 0 else metered profile e

/-- Billing is frozen and the request meters something: its counter is above the stored one, and
`k` is large enough to divide by. -/
def MetersFrozen (profile : Profile) (w : WaterSt ℚ) (op : Op ℚ) : Prop :=
  w.frozen = true ∧ ∃ inp, op.waterRequest profile = some (.waterMeter, inp) ∧
    w.lastPulses < meterPulses inp ∧ 0.01 < w.kPpl

/-- After every part of the run the litres are all that was metered, and billing is what was
metered unfrozen; no step changes a frozen billing register. -/
def FreezeExact (profile : Profile) (d : Device ℚ) (ops : List (Op ℚ)) : Prop :=
  (∀ pre, pre <+: ops →
    (d.after profile pre).water.liters =
        d.water.liters + ((trace (Op.apply profile) d pre).map (metered profile)).sum ∧
      (d.after profile pre).water.billing =
        d.water.billing + ((trace (Op.apply profile) d pre).map (billable profile)).sum) ∧
  ∀ e ∈ trace (Op.apply profile) d ops,
    e.1.water.frozen = true → e.2.2.water.billing = e.1.water.billing

theorem Op.apply_water {F : Type} [CFloat F] (profile : Profile) (op : Op F) (d : Device F) :
    (∃ P id inp, op.waterRequest profile = some (id, inp) ∧
      (op.apply profile d).water = (iotUcRun P id inp d).st.water) ∨
    (op.waterRequest profile = none ∧ (op.apply profile d).water = d.water) := by
  refine op.apply_request Device.water (fun hs => ?_) (fun hs => ?_) fun _ => rfl
  · cases op with
    | waterSample pulses tankMv => exact absurd trivial hs
    | _ => rfl
  · cases op with
    | waterSample pulses tankMv =>
      exact Or.inl ⟨hostPlatform, _, waterSampleInput pulses tankMv, rfl, rfl⟩
    | command | run | runJson | otaProgress | diag => exact hs.elim
    | _ => exact Or.inr ⟨rfl, rfl⟩

theorem meterDelta_pos_iff {pulses last : UInt32} :
    0 < (meterDelta pulses last).toNat ↔ last < pulses := by
  unfold meterDelta
  split_ifs with h
  · rw [UInt32.toNat_sub_of_le _ _ h, Nat.sub_pos_iff_lt, UInt32.lt_iff_toNat_lt]
  · rw [UInt32.le_iff_toNat_le] at h
    rw [UInt32.lt_iff_toNat_lt]
    simp only [UInt32.toNat_zero, lt_irrefl, false_iff]
    omega

theorem meterLitres_ne_zero_iff (inp : IotUcIn ℚ) (w : WaterSt ℚ) :
    meterLitres inp w ≠ 0 ↔ w.lastPulses < meterPulses inp ∧ 0.01 < w.kPpl := by
  unfold meterLitres
  split_ifs with hk
  · have hpos : w.kPpl ≠ 0 := by linarith
    rw [Ne, div_eq_zero_iff, or_iff_left hpos, Nat.cast_eq_zero, ← Ne, ← Nat.pos_iff_ne_zero,
      meterDelta_pos_iff]
    exact (and_iff_left hk).symm
  · simp [hk]

/-- What a metering request adds to both totals. -/
def meterAdds (inp : IotUcIn ℚ) (w : WaterSt ℚ) : ℚ := if w.frozen then 0 else meterLitres inp w

theorem waterCount_adds (inp : IotUcIn ℚ) (tankMv : Int32) (w : WaterSt ℚ) :
    (waterCount (meterPulses inp) tankMv w).liters = w.liters + meterAdds inp w ∧
      (waterCount (meterPulses inp) tankMv w).billing = w.billing + meterAdds inp w := by
  unfold waterCount meterAdds meterLitres
  cases w.frozen <;> dsimp only <;> split_ifs <;> simp_all

theorem waterMeter_adds (P : Platform) (inp : IotUcIn ℚ) (d : Device ℚ) :
    (iotUcRun P .waterMeter inp d).st.water.liters = d.water.liters + meterAdds inp d.water ∧
      (iotUcRun P .waterMeter inp d).st.water.billing =
        d.water.billing + meterAdds inp d.water := by
  have ht := waterMeter_totals inp .zero (d.water, d.gpio)
  simp only [WaterSt.totals, Prod.mk.injEq] at ht
  obtain ⟨hl, hb, -⟩ := ht
  obtain ⟨hl', hb'⟩ := waterCount_adds inp (inp.i 0) d.water
  exact ⟨hl.trans hl', hb.trans hb'⟩

/-- An operation adds to both totals what it meters unfrozen. -/
theorem Op.apply_adds (profile : Profile) (op : Op ℚ) (d : Device ℚ) :
    let litres := billable profile (d, op, op.apply profile d)
    (op.apply profile d).water.liters = d.water.liters + litres ∧
      (op.apply profile d).water.billing = d.water.billing + litres := by
  rcases op.apply_water profile d with ⟨P, id, inp, hr, heq⟩ | ⟨hr, heq⟩
  · by_cases hid : id = .waterMeter
    · subst hid
      simp only [billable, metered, Op.litres, hr, heq]
      exact waterMeter_adds P inp d
    · have hnone : billable profile (d, op, op.apply profile d) = 0 := by
        simp only [billable, metered, Op.litres, hr, ite_eq_left_iff]
        cases id <;> simp_all
      obtain ⟨hl, hb, -⟩ := iotUcRun_totals P hid inp d
      simp only [hnone, heq, hl, hb, add_zero, and_self]
  · simp [billable, metered, Op.litres, hr, heq]

/-- What is billable is all that is metered unless the step meters frozen. -/
theorem billable_eq_metered_iff (profile : Profile) (e : Device ℚ × Op ℚ × Device ℚ) :
    billable profile e = metered profile e ↔ ¬ MetersFrozen profile e.1.water e.2.1 := by
  unfold billable MetersFrozen
  cases hf : e.1.water.frozen with
  | false => simp
  | true =>
    simp only [if_true, true_and, metered, Op.litres]
    split
    · rename_i inp hr
      rw [eq_comm, ← not_iff_not, not_not, ← Ne, meterLitres_ne_zero_iff, hr]
      simp
    · rename_i hr
      refine iff_of_true rfl ?_
      rintro ⟨inp, hr', -⟩
      exact hr inp hr'

/-- The law of the freeze holds along a run exactly when nothing is metered while billing is
frozen. -/
theorem waterRun_freezeExact_iff (profile : Profile) (d : Device ℚ) (ops : List (Op ℚ)) :
    FreezeExact profile d ops ↔
      ∀ e ∈ trace (Op.apply profile) d ops, ¬ MetersFrozen profile e.1.water e.2.1 := by
  have hstep : ∀ e ∈ trace (Op.apply profile) d ops,
      e.2.2.water.liters = e.1.water.liters + billable profile e ∧
        e.2.2.water.billing = e.1.water.billing + billable profile e := by
    intro e he
    obtain ⟨s, op, s'⟩ := e
    obtain rfl : s' = op.apply profile s := step_of_mem he
    exact op.apply_adds profile s
  have hliters := forall_prefix_register_iff (Op.apply profile)
    (fun d : Device ℚ => d.water.liters) (metered profile) d ops
  have hbilling := (forall_prefix_register_iff (Op.apply profile)
    (fun d : Device ℚ => d.water.billing) (billable profile) d ops).mpr
    fun e he => (hstep e he).2
  have hfrozen : ∀ e ∈ trace (Op.apply profile) d ops,
      e.1.water.frozen = true → e.2.2.water.billing = e.1.water.billing := by
    intro e he hf
    rw [(hstep e he).2, billable, hf, if_pos rfl, add_zero]
  have hexact : FreezeExact profile d ops ↔ ∀ e ∈ trace (Op.apply profile) d ops,
      e.2.2.water.liters = e.1.water.liters + metered profile e := by
    rw [← hliters]
    constructor
    · exact fun h pre hpre => (h.1 pre hpre).1
    · exact fun h => ⟨fun pre hpre => ⟨h pre hpre, hbilling pre hpre⟩, hfrozen⟩
  rw [hexact]
  refine forall₂_congr fun e he => ?_
  rw [(hstep e he).1, add_right_inj, billable_eq_metered_iff]

/-- Four pulses counted while billing is frozen are missing from the litres. -/
theorem waterRun_freeze_drops_litres : ¬ FreezeExact .water
    (appMain hostPlatform .water false none : Device ℚ)
    [.run hostPlatform .waterBillingFreeze .zero, .waterSample 4 0] := by
  rintro ⟨hall, -⟩
  obtain ⟨hliters, -⟩ := hall _ List.prefix_rfl
  revert hliters
  decide +kernel

end IotPlatform
