import IotPlatform.EnergyMeter
import IotPlatform.NumericCommands

/-!
# Scales and limits of the energy meter

A reading of the ADC is scaled before it is handed to the measurement, which scales what it is
given. Limits are checked for their sign on one of the two paths that set them.
-/
namespace IotPlatform
open CText CFloat KeySearch FlatJson

/-- The voltage that stands for a reading of the ADC, before it is scaled. -/
def adcVolts (mv : Int32) : ℚ := 80 + mv.toInt * 0.05

/-- The current that stands for a reading of the ADC, before it is scaled. -/
def adcAmps (mv : Int32) : ℚ := 0.15 + (mv % 800).toInt / 2000

/-- The registers that a measurement sets. -/
def EnergySt.readings (s : EnergySt ℚ) : ℚ × ℚ × ℚ × ℚ × ℚ :=
  (s.vrms, s.irms, s.p, s.kwh, s.kwhDay)

/-- The reading leaves what `energy.measure` leaves for the request, and each scale is applied
once. -/
def ScaledOnce (P : Platform) (profile : Profile) (d : Device ℚ) (mv : Int32)
    (inp : IotUcIn ℚ) : Prop :=
  let s := ((Op.energyAdc mv).apply profile d).energy
  s.readings = (iotUcRun P .energyMeasure inp d).st.energy.readings ∧
    s.vrms = adcVolts mv * d.energy.vScale ∧ s.irms = adcAmps mv * d.energy.iScale

/-- Scaling the voltage again leaves it alone, or leaves none to store and the register holds it
already. -/
def VoltsOnce (mv : Int32) (s : EnergySt ℚ) : Prop :=
  s.vScale = 1 ∨ s.vScale ≤ 0 ∧ s.vrms = adcVolts mv * s.vScale

/-- The same of the current, which is stored when it is zero. -/
def AmpsOnce (mv : Int32) (s : EnergySt ℚ) : Prop :=
  s.iScale = 0 ∨ s.iScale = 1 ∨ s.iScale < 0 ∧ s.irms = adcAmps mv * s.iScale

section
variable {mv : Int32}

theorem adcVolts_pos (hmv : 0 ≤ mv.toInt) : 0 < adcVolts mv := by
  have hcast : (0 : ℚ) ≤ mv.toInt := by exact_mod_cast hmv
  unfold adcVolts
  linarith

theorem adcAmps_pos (hmv : 0 ≤ mv.toInt) : 0 < adcAmps mv := by
  have hmod : 0 ≤ (mv % 800).toInt := by
    rw [Int32.toInt_mod]
    exact Int.tmod_nonneg _ hmv
  have hcast : (0 : ℚ) ≤ (mv % 800).toInt := by exact_mod_cast hmod
  unfold adcAmps
  linarith

/-- What a measurement stores of a voltage that has been scaled before. -/
theorem volts_twice_iff {v k kept : ℚ} {_ : Decidable (0 < v * k)} (hv : 0 < v) :
    (if 0 < v * k then v * k * k else kept) = v * k ↔ k = 1 ∨ k ≤ 0 ∧ kept = v * k := by
  by_cases hk : 0 < k
  · have hvk := mul_pos hv hk
    rw [if_pos hvk, mul_eq_left₀ hvk.ne', or_iff_left fun h => absurd h.1 hk.not_ge]
  · have hvk : ¬ 0 < v * k := fun h => hk ((mul_pos_iff_of_pos_left hv).mp h)
    have hone : k ≠ 1 := by
      rintro rfl
      exact hk one_pos
    rw [if_neg hvk, or_iff_right hone, and_iff_right (not_lt.mp hk)]

theorem amps_twice_iff {i k kept : ℚ} {_ : Decidable (0 ≤ i * k)} (hi : 0 < i) :
    (if 0 ≤ i * k then i * k * k else kept) = i * k ↔
      k = 0 ∨ k = 1 ∨ k < 0 ∧ kept = i * k := by
  rcases lt_trichotomy k 0 with hk | rfl | hk
  · have hik : ¬ 0 ≤ i * k := not_le.mpr (mul_neg_of_pos_of_neg hi hk)
    have hone : k ≠ 1 := (hk.trans one_pos).ne
    rw [if_neg hik, or_iff_right hk.ne, or_iff_right hone, and_iff_right hk]
  · simp
  · have hik := mul_pos hi hk
    rw [if_pos hik.le, mul_eq_left₀ hik.ne', or_iff_right hk.ne',
      or_iff_left fun h => absurd h.1 hk.not_gt]

end

section
variable (P : Platform) (profile : Profile) (d : Device ℚ) (mv : Int32) (inp : IotUcIn ℚ)

theorem adc_measureAsked : measureAsked (adcInput mv d.energy) =
    (adcVolts mv * d.energy.vScale, adcAmps mv * d.energy.iScale) := rfl

theorem energyAdc_st : ((Op.energyAdc mv).apply profile d).energy =
    (iotUcRun hostPlatform .energyMeasure (adcInput mv d.energy) d).st.energy := rfl

/-- Two measurements leave the same readings exactly when they leave the same voltage and
current. -/
theorem measure_readings_iff (inp' : IotUcIn ℚ) (P' : Platform) :
    (iotUcRun P .energyMeasure inp d).st.energy.readings =
        (iotUcRun P' .energyMeasure inp' d).st.energy.readings ↔
      (iotUcRun P .energyMeasure inp d).st.energy.vrms =
          (iotUcRun P' .energyMeasure inp' d).st.energy.vrms ∧
        (iotUcRun P .energyMeasure inp d).st.energy.irms =
          (iotUcRun P' .energyMeasure inp' d).st.energy.irms := by
  obtain ⟨hk, hday, hp, -, -, -⟩ := measure_st P inp d
  obtain ⟨hk', hday', hp', -, -, -⟩ := measure_st P' inp' d
  simp only [EnergySt.readings, Prod.mk.injEq]
  constructor
  · rintro ⟨hv, hi, -⟩
    exact ⟨hv, hi⟩
  · rintro ⟨hv, hi⟩
    have hpower := hp.trans ((congrArg₂ (· * · * _) hv hi).trans hp'.symm)
    exact ⟨hv, hi, hpower, by rw [hk, hk', hpower], by rw [hday, hday', hpower]⟩

/-- A reading of the ADC is measured as the unscaled request is exactly when neither scale changes
what it is applied to a second time. -/
theorem energyAdc_scaledOnce_iff (hmv : 0 ≤ mv.toInt)
    (hinp : measureAsked inp = (adcVolts mv, adcAmps mv)) :
    ScaledOnce P profile d mv inp ↔ VoltsOnce mv d.energy ∧ AmpsOnce mv d.energy := by
  obtain ⟨-, -, -, -, hv, hi⟩ := measure_st P inp d
  obtain ⟨-, -, -, -, hv', hi'⟩ := measure_st hostPlatform (adcInput mv d.energy) d
  have hvpos := adcVolts_pos hmv
  have hipos := adcAmps_pos hmv
  simp only [hinp, flit_rat, if_pos hvpos, if_pos hipos.le] at hv hi
  simp only [adc_measureAsked, flit_rat] at hv' hi'
  rw [ScaledOnce, energyAdc_st, measure_readings_iff hostPlatform d _ inp P, hv, hi, hv', hi']
  exact and_self_iff.trans (and_congr (volts_twice_iff hvpos) (amps_twice_iff hipos))

end

/-- A request of `energy.measure` with the values that stand for a reading of the ADC. -/
def unscaledInput (mv : Int32) : IotUcIn ℚ :=
  let z : IotUcIn ℚ := .zero
  { z with f := Function.update (Function.update z.f 0 (adcVolts mv)) 1 (adcAmps mv) }

theorem unscaledInput_asked (mv : Int32) :
    measureAsked (unscaledInput mv) = (adcVolts mv, adcAmps mv) := by
  simp [measureAsked, unscaledInput, IotUcIn.has, IotUcIn.zero]

theorem energyAdc_scaledOnce_boot :
    ScaledOnce hostPlatform .energy (appMain hostPlatform .energy false none) 2400
      (unscaledInput 2400) := by
  exact (energyAdc_scaledOnce_iff hostPlatform .energy _ 2400 _ (by decide)
    (unscaledInput_asked 2400)).mpr ⟨Or.inl rfl, Or.inr (Or.inl rfl)⟩

/-- With a voltage scale of 2 stored, a reading that stands for 200 V is kept as 800 V. -/
theorem energyAdc_scaled_twice : ¬ ∀ d : Device ℚ, Reachable .energy d →
    ∀ (mv : Int32) (inp : IotUcIn ℚ), 0 ≤ mv.toInt →
      measureAsked inp = (adcVolts mv, adcAmps mv) →
      ScaledOnce hostPlatform .energy d mv inp := by
  intro h
  have hboot : Reachable .energy (appMain (F := ℚ) hostPlatform .energy false none) :=
    .boot hostPlatform false none
  have hreach := hboot.step
    (.runJson hostPlatform (txt "\x7b\"uc\":\"energy.calibrate\",\"v_scale\":2\x7d") 38)
  obtain ⟨-, hv, -⟩ := h _ hreach 2400 _ (by decide) (unscaledInput_asked 2400)
  revert hv
  decide +kernel

inductive Limit
  | overW | overV | underV | overI
  deriving DecidableEq, Repr

namespace Limit

def key : Limit → Text
  | overW => txt "over_w"
  | overV => txt "over_v"
  | underV => txt "under_v"
  | overI => txt "over_i"

/-- Its place among the numbers of a request without a text. -/
def index : Limit → Fin 8
  | overW => 0
  | overV => 1
  | underV => 2
  | overI => 3

variable {F : Type} [CFloat F]

def get (s : EnergySt F) : Limit → F
  | overW => s.overW
  | overV => s.overV
  | underV => s.underV
  | overI => s.overI

end Limit

/-- Written as JSON writes numbers: no plus sign, no zero in front of other digits, and digits on
either side of a point. -/
def Decimal.IsJson (d : Decimal) : Prop :=
  d.sign ≠ .plus ∧ d.whole ≠ [] ∧ (d.whole.head?.map Fin.val = some 0 → d.whole.length = 1) ∧
    d.fraction ≠ some []

instance (d : Decimal) : Decidable d.IsJson := inferInstanceAs (Decidable (_ ∧ _))

def Decimal.lit (d : Decimal) : Value := .scalar ⟨d.text, d.text_scalar⟩

section
variable {F : Type} [CFloat F]

/-- The member of a name is a number, and `x` is its value. -/
def Supplies (o : Object) (name : Text) (x : F) : Prop :=
  ∃ m ∈ o.members, m.name = name ∧
    ∃ d : Decimal, d.IsJson ∧ m.value = d.lit ∧ x = ofNumeral (.fin d.value)

/-- The number that a request supplies for a limit: what its object has under the name, or its entry
when there is no text. -/
def Limit.Supplied (inp : IotUcIn F) (o : Option Object) (l : Limit) (x : F) : Prop :=
  match o with
  | some o => Supplies o l.key x
  | none => x = inp.f l.index

/-- A limit becomes the positive number that is supplied for it; without one it stays. -/
def LimitAfter (supplied : F → Prop) (old new : F) : Prop :=
  (supplied new ∧ flit 0 < new) ∨ ((∀ x, supplied x → ¬ flit 0 < x) ∧ new = old)

/-- The limits that the request leaves are positive, and positive numbers that it supplies have
replaced them, and nothing else. -/
def LimitsFollow (P : Platform) (inp : IotUcIn F) (o : Option Object) (d : Device F) : Prop :=
  let s' := (iotUcRun P .energySetLimits inp d).st.energy
  ∀ l : Limit, flit 0 < l.get s' ∧ LimitAfter (l.Supplied inp o) (l.get d.energy) (l.get s')

/-- What the text has behind the first quoted key is the number that the limit is to become; or the
key does not occur, and the limit is to stay. -/
def Limit.Told (o : Object) (s : EnergySt F) (l : Limit) : Prop :=
  (∃ rest, FieldAt l.key o.render rest ∧
      LimitAfter (Supplies o l.key) (l.get s) (ofNumeral (Numeral.strtod rest))) ∨
    ((∀ rest, ¬ FieldAt l.key o.render rest) ∧
      LimitAfter (Supplies o l.key) (l.get s) (l.get s))

theorem Limit.key_isWord (l : Limit) : IsWord l.key ∧ l.key.length + 2 < 48 := by
  cases l <;> decide +kernel

theorem LimitAfter.pos {supplied : F → Prop} {old new : F} (h : LimitAfter supplied old new)
    (hold : flit 0 < old) : flit 0 < new := by
  rcases h with ⟨-, hpos⟩ | ⟨-, rfl⟩
  · exact hpos
  · exact hold

variable (P : Platform) (inp : IotUcIn F) (d : Device F)

theorem setLimits_text {json : Text} (h : inp.json = some json) (l : Limit) :
    l.get (iotUcRun P .energySetLimits inp d).st.energy =
      (iotUcJsonF32 json l.key).getD (l.get d.energy) := by
  cases l <;>
    simp [iotUcRun, entryFn, onEnergy, Handler.at, iotUcEnergySetLimits, Limit.get, Limit.key,
      IotUcIn.f32, h]

theorem setLimits_struct (h : inp.json = none) (l : Limit) :
    l.get (iotUcRun P .energySetLimits inp d).st.energy =
      if flit 0 < inp.f l.index then inp.f l.index else l.get d.energy := by
  cases l <;>
    simp only [iotUcRun, entryFn, onEnergy, Handler.at, iotUcEnergySetLimits, Limit.get,
      Limit.index, h] <;>
    rfl

/-- What a text leaves for a limit is right exactly when the text tells it. -/
theorem stored_iff (o : Object) (s : EnergySt F) (l : Limit) :
    LimitAfter (Supplies o l.key) (l.get s) ((iotUcJsonF32 o.render l.key).getD (l.get s)) ↔
      l.Told o s := by
  have hfield (rest : Text) : fieldAfter 48 o.render l.key = some rest ↔
      FieldAt l.key o.render rest := fieldAfter_iff l.key_isWord.2
  rw [iotUcJsonF32, iotUcJsonNum, Limit.Told]
  simp only [← hfield]
  cases fieldAfter 48 o.render l.key <;> simp

/-- From positive limits a request leaves positive limits and replaces them by the positive numbers
it supplies, and by no others, exactly when it has no text or its text tells each limit. -/
theorem energySetLimits_follow_iff (o : Option Object) (hjson : inp.json = o.map Object.render)
    (hpos : ∀ l : Limit, flit 0 < l.get d.energy) :
    LimitsFollow P inp o d ↔ ∀ r ∈ o, ∀ l : Limit, l.Told r d.energy := by
  have hafter : LimitsFollow P inp o d ↔ ∀ l : Limit, LimitAfter (l.Supplied inp o)
      (l.get d.energy) (l.get (iotUcRun P .energySetLimits inp d).st.energy) :=
    forall_congr' fun l => and_iff_right_of_imp fun h => h.pos (hpos l)
  rw [hafter]
  cases o with
  | none =>
    refine iff_of_true (fun l => ?_) fun r hr => by cases hr
    rw [setLimits_struct P inp d hjson]
    split_ifs with hx
    · exact Or.inl ⟨rfl, hx⟩
    · refine Or.inr ⟨?_, rfl⟩
      rintro x rfl
      exact hx
  | some r =>
    simp only [Option.mem_some_iff, forall_eq', setLimits_text P inp d hjson]
    exact forall_congr' fun l => stored_iff r d.energy l

/-- A text in which nothing else spells the key tells a limit that it leaves out or gives a positive
number. -/
theorem told_of_clean {o : Object} {l : Limit} (hclean : Clean l.key o)
    (hnumber : ∀ m ∈ o.members, m.name = l.key → raw m.key = l.key ∧
      ∃ d : Decimal, d.IsJson ∧ m.value = d.lit ∧ flit 0 < (ofNumeral (.fin d.value) : F))
    (s : EnergySt F) : l.Told o s := by
  obtain ⟨hword, hcap⟩ := l.key_isWord
  by_cases h : ∃ m ∈ o.members, m.name = l.key
  · obtain ⟨m, hm, hname⟩ := h
    obtain ⟨hraw, d, hd, hvalue, hpos⟩ := hnumber m hm hname
    obtain ⟨b, t, hb, hfield⟩ := fieldAfter_of_mem hword hclean hcap hm hraw
    have hread : Numeral.strtod (m.field ++ b :: t) = .fin d.value := by
      rw [strtod_field m hb, numberRead, hvalue]
      exact Numeral.strtod_text d
    exact Or.inl ⟨_, (fieldAfter_iff hcap).mp hfield, Or.inl
      ⟨⟨m, hm, hname, d, hd, hvalue, by rw [hread]⟩, by rwa [hread]⟩⟩
  · have habsent : ∀ m ∈ o.members, m.name ≠ l.key := fun m hm hname => h ⟨m, hm, hname⟩
    have hnone := fieldAfter_of_absent hword hclean hcap
      fun m hm hraw => habsent m hm (name_of_raw hword hraw)
    refine Or.inr ⟨fun rest hrest => ?_, Or.inr ⟨?_, rfl⟩⟩
    · rw [(fieldAfter_iff hcap).mpr hrest] at hnone
      cases hnone
    · rintro x ⟨m, hm, hname, -⟩
      exact absurd hname (habsent m hm)

end

/-- The limits of boot are positive. -/
theorem bootLimits_pos (l : Limit) :
    flit 0 < l.get (appMain hostPlatform .energy false none : Device ℚ).energy := by
  cases l <;> decide +kernel

/-- A power limit of 2500 W and an undervoltage limit of 190.5 V. -/
def twoLimits : Object :=
  tightObject [tight (txt "uc") (.str (plainString (txt "energy.set_limits"))),
    tight (txt "over_w") (.scalar ⟨txt "2500", by decide +kernel⟩),
    tight (txt "under_v") (.scalar ⟨txt "190.5", by decide +kernel⟩)] (by decide +kernel)

theorem energySetLimits_follow_two :
    LimitsFollow hostPlatform (ucInput twoLimits.render) (some twoLimits)
      (appMain hostPlatform .energy false none : Device ℚ) := by
  refine (energySetLimits_follow_iff hostPlatform (ucInput twoLimits.render) _ (some twoLimits) rfl
    bootLimits_pos).mpr ?_
  rintro r ⟨⟩ l
  have hnumber : ∀ m ∈ twoLimits.members, m.name = l.key → raw m.key = l.key ∧
      ∃ d : Decimal, d.IsJson ∧ m.value = d.lit ∧ flit 0 < (ofNumeral (.fin d.value) : ℚ) := by
    have hraw : ∀ m ∈ twoLimits.members, m.name = l.key → raw m.key = l.key := by
      cases l <;> decide +kernel
    have huc : (tight (txt "uc") (.str (plainString (txt "energy.set_limits")))).name ≠ l.key := by
      cases l <;> decide +kernel
    intro m hm hname
    refine ⟨hraw m hm hname, ?_⟩
    rcases List.mem_cons.mp hm with rfl | hm
    · exact absurd hname huc
    rcases List.mem_pair.mp hm with rfl | rfl
    · exact ⟨⟨.none, [2, 5, 0, 0], none, none, by decide⟩, by decide, by decide +kernel,
        by decide +kernel⟩
    · exact ⟨⟨.none, [1, 9, 0], some [5], none, by decide⟩, by decide, by decide +kernel,
        by decide +kernel⟩
  exact told_of_clean (by cases l <;> decide +kernel) hnumber _

/-- A power limit of zero is stored. -/
def zeroLimitRequest : Object :=
  tightObject [tight (txt "uc") (.str (plainString (txt "energy.set_limits"))),
    tight (txt "over_w") (.scalar ⟨txt "0", by decide +kernel⟩)] (by decide +kernel)

theorem energySetLimits_zero : ¬ ∀ (inp : IotUcIn ℚ) (o : Option Object) (d : Device ℚ),
    inp.json = o.map Object.render → (∀ l : Limit, flit 0 < l.get d.energy) →
      LimitsFollow hostPlatform inp o d := by
  intro h
  obtain ⟨hpos, -⟩ := h (ucInput zeroLimitRequest.render) (some zeroLimitRequest) _ rfl
    bootLimits_pos .overW
  revert hpos
  decide +kernel

end IotPlatform
