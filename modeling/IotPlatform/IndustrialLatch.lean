import IotPlatform.Firmware
import IotPlatform.Runs

/-!
# The industrial FAULT latch

Runs of use cases and samples, and the steps on which the vibration branch of `ind_step_state`
takes a machine out of FAULT.
-/
namespace IotPlatform
open CText CFloat Runs

variable {F : Type} [CFloat F]

/-- A use case run with any input, or a sensor sample. -/
inductive IndOp (F : Type)
  | run (P : Platform) (id : IotUcId) (inp : IotUcIn F)
  | onSample (temp vib current pressure : F) (pulses : UInt32)

def IndOp.apply (d : Device F) : IndOp F → Device F
  | .run P id inp => (iotUcRun P id inp d).st
  | .onSample temp vib current pressure pulses =>
    (Op.indSample temp vib current pressure pulses).apply .industrial d

/-- The registers on which an operation runs `ind_step_state`, if it does. -/
def IndOp.stepsOn (g : IndSt F) : IndOp F → Option (IndSt F)
  | .run _ .indSample inp => some (indMeasure inp g)
  | .run _ .indStateMachine _ => some g
  | .run _ _ _ => none
  | .onSample temp vib current pressure pulses =>
    let z : IotUcIn F := .zero
    let f := Function.update (Function.update (Function.update (Function.update z.f 0 temp)
      1 vib) 2 current) 3 pressure
    some (indMeasure { z with f := f, u := Function.update z.u 0 pulses } g)

def IndOp.IsAck : IndOp F → Prop
  | .run _ .indAckAlarm _ => True
  | _ => False

/-- `ack_needed` is set exactly in FAULT. -/
def AckIffFault (d : Device F) : Prop := d.ind.ackNeeded = 1 ↔ d.ind.st = .fault

/-- A step keeps FAULT unless it acknowledges, and leaves `ack_needed` in agreement. -/
def Latched (d : Device F) (op : IndOp F) (d' : Device F) : Prop :=
  (d.ind.st = .fault → d'.ind.st = .fault ∨ op.IsAck) ∧ AckIffFault d'

/-- The step does not find a machine in FAULT within every limit but the vibration limit. -/
def NoVibrationOnFault (d : Device F) (op : IndOp F) (_ : Device F) : Prop :=
  d.ind.st = .fault → ∀ g ∈ op.stepsOn d.ind, g.OverLimit ∨ ¬ g.vibLim < g.vib

/-- The three outcomes of `ind_step_state` on a machine that agrees with `ack_needed`. -/
theorem indStepState_latch {g : IndSt F} (h : g.ackNeeded = 1 ↔ g.st = .fault) :
    ((g.st = .fault → g.OverLimit ∨ ¬ g.vibLim < g.vib) ↔
      (g.st = .fault → (indStepState g).st = .fault) ∧
        ((indStepState g).ackNeeded = 1 ↔ (indStepState g).st = .fault)) := by
  unfold indStepState
  by_cases hover : g.OverLimit
  · simp [hover]
  · by_cases hvib : g.vibLim < g.vib
    · simp [hover, hvib, h]
    · by_cases hf : g.st = .fault
      · simp [hover, hvib, hf, h]
      · have hrun : (if flit 0.4 < g.current then IndState.run else IndState.idle) ≠ .fault := by
          split <;> simp
        simp [hover, hvib, hf, h, hrun]

theorem IndOp.apply_steps {d : Device F} {op : IndOp F} {g : IndSt F}
    (h : op.stepsOn d.ind = some g) : (op.apply d).ind.st = (indStepState g).st ∧
      (op.apply d).ind.ackNeeded = (indStepState g).ackNeeded := by
  have hours : ∀ g' : IndSt F, ∀ q : F,
      (if g'.st = .run then { g' with hours := q } else g').st = g'.st ∧
        (if g'.st = .run then { g' with hours := q } else g').ackNeeded = g'.ackNeeded := by
    intro g' q
    split <;> exact ⟨rfl, rfl⟩
  cases op with
  | run P id inp =>
    cases id <;> simp only [IndOp.stepsOn, Option.some.injEq, reduceCtorEq] at h <;> subst h
    · exact hours _ _
    · exact ⟨rfl, rfl⟩
  | onSample temp vib current pressure pulses =>
    simp only [IndOp.stepsOn, Option.some.injEq] at h
    subst h
    exact hours _ _

theorem IndOp.stepsOn_keeps {g g' : IndSt F} {op : IndOp F} (h : op.stepsOn g = some g') :
    g'.st = g.st ∧ g'.ackNeeded = g.ackNeeded := by
  cases op with
  | run P id inp =>
    cases id <;> simp only [IndOp.stepsOn, Option.some.injEq, reduceCtorEq] at h <;> subst h <;>
      exact ⟨rfl, rfl⟩
  | onSample temp vib current pressure pulses =>
    simp only [IndOp.stepsOn, Option.some.injEq] at h
    subst h
    exact ⟨rfl, rfl⟩

theorem IndOp.apply_quiet {d : Device F} {op : IndOp F} (h : op.stepsOn d.ind = none)
    (hack : ¬ op.IsAck) :
    (op.apply d).ind.st = d.ind.st ∧ (op.apply d).ind.ackNeeded = d.ind.ackNeeded := by
  cases op with
  | onSample temp vib current pressure pulses => simp [IndOp.stepsOn] at h
  | run P id inp =>
    cases id
    case indSample | indStateMachine => simp [IndOp.stepsOn] at h
    case indAckAlarm => exact absurd trivial hack
    case indHoursTick =>
      change (ite _ _ _ : IndSt F).st = _ ∧ (ite _ _ _ : IndSt F).ackNeeded = _
      split <;> exact ⟨rfl, rfl⟩
    all_goals exact ⟨rfl, rfl⟩

theorem IndOp.apply_ack {d : Device F} {op : IndOp F} (hack : op.IsAck) (h : AckIffFault d) :
    AckIffFault (op.apply d) := by
  cases op with
  | onSample temp vib current pressure pulses => exact hack.elim
  | run P id inp =>
    cases id <;> simp only [IndOp.IsAck] at hack
    change AckIffFault { d with ind := ite _ _ _, ucInit := true }
    by_cases hf : d.ind.st = .fault
    · simp [AckIffFault, hf]
    · simpa [AckIffFault, hf] using h

theorem IndOp.latched_iff {d : Device F} (h : AckIffFault d) (op : IndOp F) :
    NoVibrationOnFault d op (op.apply d) ↔ Latched d op (op.apply d) := by
  by_cases hack : op.IsAck
  · have hnone : op.stepsOn d.ind = none := by
      cases op with
      | onSample => exact hack.elim
      | run P id inp => cases id <;> simp_all [IndOp.IsAck, IndOp.stepsOn]
    simp [NoVibrationOnFault, Latched, hnone, hack, IndOp.apply_ack hack h]
  · cases hs : op.stepsOn d.ind with
    | none =>
      obtain ⟨hst, hn⟩ := IndOp.apply_quiet hs hack
      have hsame : AckIffFault (op.apply d) := by rwa [AckIffFault, hst, hn]
      have hkeep : d.ind.st = .fault → (op.apply d).ind.st = .fault ∨ op.IsAck :=
        fun hf => Or.inl (hst.trans hf)
      have hno : NoVibrationOnFault d op (op.apply d) := by simp [NoVibrationOnFault, hs]
      exact iff_of_true hno ⟨hkeep, hsame⟩
    | some g =>
      obtain ⟨hst, hn⟩ := IndOp.apply_steps hs
      obtain ⟨hg, hgn⟩ := IndOp.stepsOn_keeps hs
      have hlatch := indStepState_latch (g := g) (by rw [hgn, hg]; exact h)
      simpa [NoVibrationOnFault, Latched, AckIffFault, hs, hst, hn, hg, hack] using hlatch

/-- Along a run from boot the latch holds at every step exactly when no step finds a faulted
machine with only its vibration above the limit. -/
theorem indRun_latched_iff (P : Platform) (profile : Profile) (wdtReset : Bool)
    (nvs : Option NvsImage) (ops : List (IndOp F)) :
    (∀ e ∈ trace IndOp.apply (appMain P profile wdtReset nvs) ops, Latched e.1 e.2.1 e.2.2) ↔
      ∀ e ∈ trace IndOp.apply (appMain P profile wdtReset nvs) ops,
        NoVibrationOnFault e.1 e.2.1 e.2.2 := by
  have hboot : AckIffFault (appMain P profile wdtReset nvs : Device F) := by
    simp [AckIffFault, appMain, Device.static]
  refine (Run.forall_iff (I := AckIffFault) ?_ ?_ (run_trace _ _ _) hboot).symm
  · rintro d op d' hd rfl
    exact IndOp.latched_iff hd op
  · rintro d op d' hd rfl hc
    exact ((IndOp.latched_iff hd op).mp hc).2

theorem indRun_vibration_clears_fault :
    ¬ ∀ e ∈ trace IndOp.apply (appMain hostPlatform .industrial false none : Device ℚ)
      [.onSample 90 0 0 0 0, .onSample 20 50 0 0 0], Latched e.1 e.2.1 e.2.2 := by
  intro h
  have hlast := h _ (List.mem_cons_of_mem _ List.mem_cons_self)
  have hfault : ((IndOp.onSample 90 0 0 0 0).apply
      (appMain hostPlatform .industrial false none : Device ℚ)).ind.st = .fault := by
    decide +kernel
  rcases hlast.1 hfault with hw | hack
  · revert hw
    decide +kernel
  · exact hack

end IotPlatform
