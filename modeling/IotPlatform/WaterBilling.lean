import IotPlatform.Firmware
import IotPlatform.Runs

/-!
# Conservation of billed volume

Runs of pulse-counter samples and cloud commands on the water registers, in exact arithmetic. The
totals follow the hardware counter as long as no command moves the stored counter and the 32-bit
counter does not wrap between two samples.
-/
namespace IotPlatform
open CText CFloat Runs

/-- A device, and the pulses its hardware counter has counted since boot. -/
structure Metered where
  dev : Device ℚ
  pulses : ℕ

/-- A sample after `n` further pulses, or a command text. -/
inductive WaterOp
  | sample (n : ℕ) (tankMv : Int32)
  | command (P : Platform) (json : Text) (len : ℕ)

def WaterOp.apply (m : Metered) : WaterOp → Metered
  | .sample n tankMv =>
    { dev := (Op.waterSample (UInt32.ofNat (m.pulses + n)) tankMv).apply .water m.dev
      pulses := m.pulses + n }
  | .command P json len => { m with dev := (iotUcRunJson P json len .zero m.dev).st }

/-- Fewer than 2^32 pulses arrive between samples, and no command freezes billing or sets `k`. -/
def WaterOp.Admitted (m : Metered) (op : WaterOp) (m' : Metered) : Prop :=
  match op with
  | .sample n _ => n < 2 ^ 32
  | .command _ _ _ => m'.dev.water.frozen = m.dev.water.frozen ∧
      m'.dev.water.kPpl = m.dev.water.kPpl

/-- The counter does not wrap before a sample, and `water.meter` reads the stored counter value:
zero, when the command names no pulses. -/
def WaterOp.KeepsCount (m : Metered) (op : WaterOp) (_ : Metered) : Prop :=
  match op with
  | .sample n _ => m.pulses % 2 ^ 32 + n < 2 ^ 32
  | .command _ json _ => (ucNameOf json).map iotUcIdFromName = some .waterMeter →
      meterPulses (ucInput json : IotUcIn ℚ) = m.dev.water.lastPulses

instance (op : WaterOp) (m m' : Metered) : Decidable (op.Admitted m m') :=
  match op with
  | .sample _ _ => inferInstanceAs (Decidable (_ < _))
  | .command _ _ _ => inferInstanceAs (Decidable (_ ∧ _))

instance (op : WaterOp) (m m' : Metered) : Decidable (op.KeepsCount m m') :=
  match op with
  | .sample _ _ => inferInstanceAs (Decidable (_ < _))
  | .command _ _ _ => inferInstanceAs (Decidable (_ → _))

/-- Both totals are the pulses counted so far over the pulses per litre. -/
def Conserved (m : Metered) : Prop :=
  m.dev.water.liters = m.pulses / m.dev.water.kPpl ∧
    m.dev.water.billing = m.pulses / m.dev.water.kPpl

/-- What a run keeps: the totals, and a stored counter that agrees with the hardware. -/
structure Counting (m : Metered) : Prop where
  conserved : Conserved m
  last : m.dev.water.lastPulses.toNat = m.pulses % 2 ^ 32
  metering : m.dev.water.frozen = false
  kPos : (0.01 : ℚ) < m.dev.water.kPpl

theorem iotUcRun_totals (P : Platform) {id : IotUcId} (hid : id ≠ .waterMeter) (inp : IotUcIn ℚ)
    (d : Device ℚ) :
    (iotUcRun P id inp d).st.water.liters = d.water.liters ∧
      (iotUcRun P id inp d).st.water.billing = d.water.billing ∧
      (iotUcRun P id inp d).st.water.lastPulses = d.water.lastPulses := by
  have hparts : ∀ {w w' : WaterSt ℚ}, w'.totals = w.totals →
      w'.liters = w.liters ∧ w'.billing = w.billing ∧ w'.lastPulses = w.lastPulses := by
    intro w w' h
    simp only [WaterSt.totals, Prod.mk.injEq] at h
    exact ⟨h.1, h.2.1, h.2.2.1⟩
  cases id
  case waterMeter => exact absurd rfl hid
  case waterBurst => exact hparts (waterBurst_totals _ _ _)
  case waterValveOpen => exact hparts (waterValveOpen_totals _ _ _)
  case waterSetK =>
    simp only [iotUcRun, entryFn, onWater, Handler.at, iotUcWaterSetK]
    split <;> exact ⟨rfl, rfl, rfl⟩
  all_goals exact ⟨rfl, rfl, rfl⟩

theorem waterMeter_counting {m : Metered} (h : Counting m) (inp : IotUcIn ℚ) (out : IotUcOut ℚ) :
    (iotUcWaterMeter inp out (m.dev.water, m.dev.gpio)).st.1.totals =
      (m.dev.water.liters + (meterDelta (meterPulses inp) m.dev.water.lastPulses).toNat /
          m.dev.water.kPpl,
        m.dev.water.billing + (meterDelta (meterPulses inp) m.dev.water.lastPulses).toNat /
          m.dev.water.kPpl,
        meterPulses inp, false, m.dev.water.kPpl) := by
  rw [waterMeter_totals, waterCount_totals h.metering h.kPos, h.metering]
  rfl

theorem Counting.of_totals {m : Metered} {dev : Device ℚ} {pulses : ℕ} {last : UInt32}
    (h : Counting m)
    (ht : dev.water.totals = ((pulses : ℚ) / m.dev.water.kPpl, (pulses : ℚ) / m.dev.water.kPpl,
      last, false, m.dev.water.kPpl)) (hlast : last.toNat = pulses % 2 ^ 32) :
    Counting ⟨dev, pulses⟩ := by
  simp only [WaterSt.totals, Prod.mk.injEq] at ht
  obtain ⟨hl, hb, hp, hf, hk⟩ := ht
  exact ⟨⟨by rw [hl, hk], by rw [hb, hk]⟩, by rw [hp, hlast], hf, by rw [hk]; exact h.kPos⟩

theorem sample_counting {m : Metered} (h : Counting m) {n : ℕ}
    (hn : m.pulses % 2 ^ 32 + n < 2 ^ 32) (tankMv : Int32) :
    Counting ((WaterOp.sample n tankMv).apply m) := by
  let z : IotUcIn ℚ := .zero
  have hmeter := waterMeter_counting h
    { z with
      u := Function.update z.u 0 (UInt32.ofNat (m.pulses + n))
      i := Function.update z.i 0 tankMv } .zero
  have hpulses : meterPulses { z with
      u := Function.update z.u 0 (UInt32.ofNat (m.pulses + n))
      i := Function.update z.i 0 tankMv } = UInt32.ofNat (m.pulses + n) := by
    simp [z, meterPulses, IotUcIn.has, IotUcIn.zero]
  have hadd : (m.pulses : ℚ) / m.dev.water.kPpl + n / m.dev.water.kPpl =
      ((m.pulses + n : ℕ) : ℚ) / m.dev.water.kPpl := by
    push_cast
    ring
  rw [hpulses, meterDelta_exact h.last hn, h.conserved.1, h.conserved.2, hadd] at hmeter
  exact h.of_totals hmeter (UInt32.toNat_ofNat' ..)

theorem command_counting {m : Metered} (h : Counting m) {P : Platform} {json : Text} {len : ℕ}
    (hadm : (WaterOp.command P json len).Admitted m ((WaterOp.command P json len).apply m))
    (hkeep : (WaterOp.command P json len).KeepsCount m ((WaterOp.command P json len).apply m)) :
    Counting ((WaterOp.command P json len).apply m) := by
  obtain ⟨hf, hk⟩ := hadm
  have hsame : ∀ d : Device ℚ, ((WaterOp.command P json len).apply m).dev = d →
      d.water.liters = m.dev.water.liters → d.water.billing = m.dev.water.billing →
      d.water.lastPulses = m.dev.water.lastPulses →
      Counting ((WaterOp.command P json len).apply m) := by
    rintro d rfl hl hb hp
    exact ⟨⟨by rw [hl, hk]; exact h.conserved.1, by rw [hb, hk]; exact h.conserved.2⟩,
      by rw [hp]; exact h.last, by rw [hf]; exact h.metering, by rw [hk]; exact h.kPos⟩
  by_cases hlen : len = 0
  · refine hsame m.dev ?_ rfl rfl rfl
    simp [WaterOp.apply, iotUcRunJson, hlen]
  · cases hname : ucNameOf json with
    | none =>
      refine hsame m.dev ?_ rfl rfl rfl
      simp [WaterOp.apply, iotUcRunJson, hlen, hname]
    | some name =>
      have hrun : ((WaterOp.command P json len).apply m).dev =
          (iotUcRun P (iotUcIdFromName name) (ucInput json) m.dev).st := by
        simp [WaterOp.apply, iotUcRunJson_of_name hlen hname]
      by_cases hid : iotUcIdFromName name = .waterMeter
      · have hpulses := hkeep (by rw [hname, Option.map_some, hid])
        have ht := waterMeter_counting h (ucInput json) .zero
        rw [hpulses, meterDelta_self] at ht
        simp only [WaterSt.totals, Prod.mk.injEq, UInt32.toNat_zero, Nat.cast_zero, zero_div,
          add_zero] at ht
        rw [hid] at hrun
        exact hsame _ hrun ht.1 ht.2.1 ht.2.2.1
      · obtain ⟨hl, hb, hp⟩ := iotUcRun_totals P hid (ucInput json) m.dev
        exact hsame _ hrun hl hb hp

theorem WaterOp.apply_counting {m : Metered} (h : Counting m) {op : WaterOp}
    (hadm : op.Admitted m (op.apply m)) (hkeep : op.KeepsCount m (op.apply m)) :
    Counting (op.apply m) := by
  cases op with
  | sample n tankMv => exact sample_counting h hkeep tankMv
  | command P json len => exact command_counting h hadm hkeep

def bootMetered (P : Platform) (profile : Profile) (wdtReset : Bool) (nvs : Option NvsImage) :
    Metered where
  dev := appMain P profile wdtReset nvs
  pulses := 0

theorem bootMetered_counting (P : Platform) (profile : Profile) (wdtReset : Bool)
    (nvs : Option NvsImage) : Counting (bootMetered P profile wdtReset nvs) where
  conserved := by simp [Conserved, bootMetered, appMain, Device.static]
  last := rfl
  metering := rfl
  kPos := by
    change (0.01 : ℚ) < 2
    norm_num

/-- Along a run from boot whose steps keep the count, every state bills what was counted. -/
theorem waterRun_conserved (P : Platform) (profile : Profile) (wdtReset : Bool)
    (nvs : Option NvsImage) (ops : List WaterOp)
    (hadm : ∀ e ∈ trace WaterOp.apply (bootMetered P profile wdtReset nvs) ops,
      e.2.1.Admitted e.1 e.2.2)
    (hkeep : ∀ e ∈ trace WaterOp.apply (bootMetered P profile wdtReset nvs) ops,
      e.2.1.KeepsCount e.1 e.2.2) :
    Conserved (ops.foldl WaterOp.apply (bootMetered P profile wdtReset nvs)) ∧
      ∀ e ∈ trace WaterOp.apply (bootMetered P profile wdtReset nvs) ops,
        Conserved e.1 ∧ Conserved e.2.2 := by
  obtain ⟨hend, hall⟩ := Run.invariant (I := Counting)
    (C := fun m op m' => op.Admitted m m' ∧ op.KeepsCount m m')
    (by
      rintro m op m' hm rfl ⟨ha, hk⟩
      exact WaterOp.apply_counting hm ha hk)
    (run_trace _ _ ops) (bootMetered_counting P profile wdtReset nvs)
    fun e he => ⟨hadm e he, hkeep e he⟩
  exact ⟨hend.conserved, fun e he => ⟨(hall e he).1.conserved, (hall e he).2.conserved⟩⟩

theorem waterRun_conserved_leak : Conserved
    ([.sample 5 0, .command hostPlatform (txt "\x7b\"uc\":\"water.leak\"\x7d") 19,
      .sample 3 0].foldl WaterOp.apply (bootMetered hostPlatform .water false none)) := by
  exact (waterRun_conserved hostPlatform .water false none _ (by decide +kernel)
    (by decide +kernel)).1

/-- A `water.meter` command without pulses makes the next sample bill everything again. -/
theorem waterRun_meter_bills_twice :
    ¬ ((∀ e ∈ trace WaterOp.apply (bootMetered hostPlatform .water false none)
        [.sample 100 0, .command hostPlatform (txt "\x7b\"uc\":\"water.meter\"\x7d") 20,
          .sample 0 0], e.2.1.Admitted e.1 e.2.2) →
      Conserved ([.sample 100 0, .command hostPlatform (txt "\x7b\"uc\":\"water.meter\"\x7d") 20,
        .sample 0 0].foldl WaterOp.apply (bootMetered hostPlatform .water false none))) := by
  intro h
  obtain ⟨hliters, -⟩ := h (by decide +kernel)
  revert hliters
  decide +kernel

end IotPlatform
