import IotPlatform.Interlocks
import IotPlatform.Isolation

/-!
# What the registers keep

Since a handler keeps to its part, a condition on the registers of one product holds in every
reachable state as soon as the product's own handlers keep it. Each product has such conditions:
ranges, and registers that only make sense together.
-/
namespace IotPlatform
open CText CFloat

section
variable {F : Type} [CFloat F] {profile : Profile}

/-- Only the handlers of a product have to keep a condition on its registers. -/
theorem Reachable.view {k : Part} (hk : k ≠ .platform) {I : k.View F → Prop}
    (hboot : ∀ P wdtReset nvs, I ((appMain P profile wdtReset nvs : Device F).view k))
    (hrun : ∀ P id fn inp d, id.part = k → entryFn P id = some fn → I (Device.view d k) →
      I (Device.view (fn inp .zero d).st k))
    (hsample : ∀ (op : Op F) fn d, op.sampleFn = some (k, fn) → I (Device.view d k) →
      I (Device.view (sampled fn d) k))
    {d : Device F} (h : Reachable profile d) : I (d.view k) := by
  induction h with
  | boot P wdtReset nvs => exact hboot P wdtReset nvs
  | @step d op _ ih =>
    by_cases hpart : k = op.part profile
    · subst hpart
      cases hu : op.useCase profile with
      | some r =>
        obtain ⟨P, id, inp⟩ := r
        have hid : id.part = op.part profile := by rw [Op.part, hu]
        rw [Op.apply_useCase hu, iotUcRun]
        have hready := (congrArg I (Device.view_ucInit d _)).mpr ih
        cases hfn : (entryFn P id : Option (Handler F (Device F))) with
        | none => exact hready
        | some fn => exact hrun P id fn inp _ hid hfn hready
      | none =>
        cases hs : op.sampleFn with
        | none => exact absurd (by rw [Op.part, hu, hs]) hk
        | some r =>
          obtain ⟨k, fn⟩ := r
          obtain ⟨hpart, hact⟩ := Op.act_sample hs profile
          have happly : op.apply profile d = sampled fn d :=
            congrArg (fun g : Act F => (g d).2) hact
          rw [happly]
          exact hsample op fn d (by rw [hs, hpart]) ih
    · have hother := (op.act_confined profile).other d hpart
      exact (congrArg I hother).mpr ih

end

section
variable {F : Type} [CFloat F]

variable {c : AutoSt} (inp : IotUcIn F) (out : IotUcOut F)

end

section
variable {F : Type} [CFloat F]

variable {rb : RobSt} (inp : IotUcIn F) (out : IotUcOut F)

end

section
variable {g : IndSt ℚ} (inp : IotUcIn ℚ) (out : IotUcOut ℚ)

end

section
variable {pm : PmSt ℚ} (inp : IotUcIn ℚ) (out : IotUcOut ℚ)

end

section
variable {w : WaterSt ℚ} (g : Gpio) (inp : IotUcIn ℚ) (out : IotUcOut ℚ)

end

section
variable {cd : ColdSt ℚ} (inp : IotUcIn ℚ) (out : IotUcOut ℚ)

end

end IotPlatform
