import IotPlatform.Executions

/-!
# The pulse register of the industrial profile

Samples bring the value of a counter, `industrial.pulse` brings an increment. One register takes
both.
-/
namespace IotPlatform
open CText CFloat Runs

variable {F : Type} [CFloat F]

/-- The pulses that a request of `industrial.pulse` adds. -/
def pulseIncrement (inp : IotUcIn F) : UInt32 := if inp.u 0 ≠ 0 then inp.u 0 else 1

/-- A device, the last value of the pulse counter, and the sum of the increments so far. -/
structure PulseLedger (F : Type) where
  dev : Device F
  counter : ℕ
  added : ℕ

def PulseLedger.apply (profile : Profile) (m : PulseLedger F) (op : Op F) : PulseLedger F where
  dev := op.apply profile m.dev
  counter :=
    match op with
    | .indSample _ _ _ _ pulses => pulses.toNat
    | _ => m.counter
  added :=
    match op.useCase profile with
    | some (_, .indPulse, inp) => m.added + (pulseIncrement inp).toNat
    | _ => m.added

def bootPulses (P : Platform) (profile : Profile) (wdtReset : Bool) (nvs : Option NvsImage) :
    PulseLedger F where
  dev := appMain P profile wdtReset nvs
  counter := 0
  added := 0

/-- A sample whose counter is not below the last one, or a request of `industrial.pulse`. -/
def PulseLedger.Mixes (profile : Profile) (m : PulseLedger F) (op : Op F) : Prop :=
  match op with
  | .indSample _ _ _ _ pulses => m.counter ≤ pulses.toNat
  | op => ∃ P inp, op.useCase profile = some (P, .indPulse, inp)

/-- The register is the counter plus the increments. -/
def PulseLedger.Exact (m : PulseLedger F) : Prop :=
  m.dev.ind.pulses.toNat = m.counter + m.added

/-- The step has not lowered the register, and it is exact afterwards. -/
def PulsesKept (m m' : PulseLedger F) : Prop :=
  m.dev.ind.pulses ≤ m'.dev.ind.pulses ∧ m'.Exact

/-- A sample with a counter above zero comes before any increment. -/
def CountsFirst (m : PulseLedger F) (op : Op F) : Prop :=
  match op with
  | .indSample _ _ _ _ pulses => pulses = 0 ∨ m.added = 0
  | _ => True

section
variable (profile : Profile) (d : Device F)

theorem indSample_pulses (temp vib current pressure : F) (pulses : UInt32) :
    ((Op.indSample temp vib current pressure pulses).apply profile d).ind.pulses =
      if 0 < pulses then pulses else d.ind.pulses := by
  have hstep : ∀ g : IndSt F, (indStepState g).pulses = g.pulses := by
    intro g
    unfold indStepState
    split_ifs <;> rfl
  simp only [Op.apply, sampled, onInd, Handler.at, iotUcIndOnSample, iotUcIndSample]
  split_ifs <;> simp_all [indMeasure]

theorem indPulse_pulses {op : Op F} {P : Platform} {inp : IotUcIn F}
    (h : op.useCase profile = some (P, .indPulse, inp)) :
    (op.apply profile d).ind.pulses = d.ind.pulses + pulseIncrement inp := by
  rw [Op.apply_useCase h]
  rfl

end

section
variable {profile : Profile} {m : PulseLedger F} {op : Op F}

theorem sample_kept_iff {temp vib current pressure : F} {pulses : UInt32} (hm : m.Exact)
    (hmono : m.counter ≤ pulses.toNat) :
    PulsesKept m (m.apply profile (.indSample temp vib current pressure pulses)) ↔
      pulses = 0 ∨ m.added = 0 := by
  have hreg := indSample_pulses profile m.dev temp vib current pressure pulses
  have hpulses : 0 < pulses ↔ 0 < pulses.toNat := UInt32.lt_iff_toNat_lt
  have hzero : pulses = 0 ↔ pulses.toNat = 0 := by rw [← UInt32.toNat_inj, UInt32.toNat_zero]
  simp only [PulsesKept, PulseLedger.Exact, PulseLedger.apply, Op.useCase, hreg,
    UInt32.le_iff_toNat_le, hzero] at hm ⊢
  split_ifs with hpos <;> rw [hpulses] at hpos <;> omega

theorem pulse_kept {P : Platform} {inp : IotUcIn F} (hm : m.Exact)
    (h : op.useCase profile = some (P, .indPulse, inp))
    (hfits : (m.apply profile op).counter + (m.apply profile op).added < 2 ^ 32) :
    PulsesKept m (m.apply profile op) := by
  have hreg := indPulse_pulses profile m.dev h
  have hcounter : (m.apply profile op).counter = m.counter := by
    cases op with
    | indSample => simp [Op.useCase] at h
    | _ => rfl
  have hadded : (m.apply profile op).added = m.added + (pulseIncrement inp).toNat := by
    simp only [PulseLedger.apply, h]
  have hdev : (m.apply profile op).dev.ind.pulses = m.dev.ind.pulses + pulseIncrement inp := hreg
  rw [hcounter, hadded] at hfits
  have hsum : (m.dev.ind.pulses + pulseIncrement inp).toNat =
      m.dev.ind.pulses.toNat + (pulseIncrement inp).toNat := by
    rw [UInt32.toNat_add, Nat.mod_eq_of_lt]
    rw [PulseLedger.Exact] at hm
    omega
  rw [PulsesKept, PulseLedger.Exact, hdev, hcounter, hadded, UInt32.le_iff_toNat_le, hsum]
  rw [PulseLedger.Exact] at hm
  omega

theorem PulseLedger.apply_kept_iff (hm : m.Exact) (hmix : m.Mixes profile op)
    (hfits : (m.apply profile op).counter + (m.apply profile op).added < 2 ^ 32) :
    PulsesKept m (m.apply profile op) ↔ CountsFirst m op := by
  cases op with
  | indSample temp vib current pressure pulses => exact sample_kept_iff hm hmix
  | _ =>
    obtain ⟨P, inp, h⟩ := hmix
    exact iff_of_true (pulse_kept hm h hfits) trivial

end

/-- A step of the runs considered: it mixes the two sources, and the totals fit the register. -/
def PulseLedger.Admits (profile : Profile) (m : PulseLedger F) (op : Op F) (m' : PulseLedger F) :
    Prop :=
  m.Mixes profile op ∧ m'.counter + m'.added < 2 ^ 32

/-- Along a run of samples with a rising counter and of `industrial.pulse`, with totals that fit
the register, it never falls and is always the last counter value plus all increments exactly when
no sample with a counter above zero comes after an increment. -/
theorem pulseRun_kept_iff (P : Platform) (profile : Profile) (wdtReset : Bool)
    (nvs : Option NvsImage) (ops : List (Op F))
    (hmix : ∀ e ∈ trace (PulseLedger.apply profile) (bootPulses P profile wdtReset nvs) ops,
      e.1.Admits profile e.2.1 e.2.2) :
    (∀ e ∈ trace (PulseLedger.apply profile) (bootPulses P profile wdtReset nvs) ops,
      PulsesKept e.1 e.2.2) ↔
    ∀ e ∈ trace (PulseLedger.apply profile) (bootPulses P profile wdtReset nvs) ops,
      CountsFirst e.1 e.2.1 := by
  have hboot : (bootPulses P profile wdtReset nvs : PulseLedger F).Exact := rfl
  have hiff := Run.forall_iff (I := PulseLedger.Exact)
    (C := fun m op m' => m.Admits profile op m' ∧ PulsesKept m m')
    (G := fun m op m' => m.Admits profile op m' ∧ CountsFirst m op)
    (by
      rintro m op m' hm rfl
      exact and_congr_right fun h => PulseLedger.apply_kept_iff hm h.1 h.2)
    (by
      rintro m op m' - rfl ⟨-, hkept⟩
      exact hkept.2)
    (run_trace (PulseLedger.apply profile) (bootPulses P profile wdtReset nvs) ops) hboot
  constructor
  · exact fun h e he => (hiff.mp (fun e he => ⟨hmix e he, h e he⟩) e he).2
  · exact fun h e he => (hiff.mpr (fun e he => ⟨hmix e he, h e he⟩) e he).2

theorem pulseRun_kept_sample :
    let m := (bootPulses hostPlatform .industrial false none : PulseLedger ℚ).apply .industrial
      (.indSample 25 0 1 1 10)
    PulsesKept m (m.apply .industrial (.run hostPlatform .indPulse .zero)) := by
  have hkept := (pulseRun_kept_iff hostPlatform .industrial false none
    [.indSample 25 0 1 1 10, .run hostPlatform .indPulse (.zero : IotUcIn ℚ)]
    (by
      simp [trace, PulseLedger.Admits, PulseLedger.Mixes, PulseLedger.apply, bootPulses,
        Op.useCase, pulseIncrement, IotUcIn.zero])).mpr
    (by simp [trace, CountsFirst, PulseLedger.apply, bootPulses, Op.useCase])
  exact hkept _ (List.mem_cons_of_mem _ List.mem_cons_self)

/-- A sample of the counter at 10 drops the increment that came before it. -/
theorem pulseRun_drops_increment : ¬ ∀ ops : List (Op ℚ),
    (∀ e ∈ trace (PulseLedger.apply .industrial)
      (bootPulses hostPlatform .industrial false none) ops, e.1.Admits .industrial e.2.1 e.2.2) →
    ∀ e ∈ trace (PulseLedger.apply .industrial)
      (bootPulses hostPlatform .industrial false none) ops, PulsesKept e.1 e.2.2 := by
  intro h
  have hkept := h [.run hostPlatform .indPulse .zero, .indSample 25 0 1 1 10] (by
    simp [trace, PulseLedger.Admits, PulseLedger.Mixes, PulseLedger.apply, bootPulses,
      Op.useCase, pulseIncrement, IotUcIn.zero])
  obtain ⟨-, hexact⟩ := hkept _ (List.mem_cons_of_mem _ List.mem_cons_self)
  revert hexact
  simp [PulseLedger.Exact, PulseLedger.apply, bootPulses, Op.useCase, pulseIncrement,
    IotUcIn.zero, indSample_pulses]

end IotPlatform
