import IotPlatform.Executions

/-!
# The fault of the EV charger

`ev.fault` sets the flag and the state together. A sample recomputes the flag alone, and a start
changes the state alone.
-/
namespace IotPlatform
open CText CFloat Runs

variable {F : Type} [CFloat F]

/-- The state never shows a charge under a fault, nor a fault without its flag. -/
def EvConsistent (ev : EvSt F) : Prop :=
  ¬ (ev.state = evState "Charging" ∧ ev.fault = 1) ∧ ¬ (ev.state = evState "Fault" ∧ ev.fault = 0)

/-- The test by which a sample of `mv` sets the flag. -/
def EvOverTemp (F : Type) [CFloat F] (mv : Int32) : Prop :=
  (flit 70 : F) < flit 25 + flit (mv % 200).toInt / flit 20

instance (mv : Int32) : Decidable (EvOverTemp F mv) := inferInstanceAs (Decidable (_ < _))

/-- The record that `iot_uc_ev_on_sample` hands to `iot_uc_ev_sample`. -/
def evSampleInput (mv : Int32) : IotUcIn F :=
  let z : IotUcIn F := .zero
  { z with i := Function.update z.i 0 mv }

/-- The use case whose handler an operation executes, a sample of the hook counted as
`ev.sample`. -/
def Op.evRequest (profile : Profile) (op : Op F) : Option (IotUcId × IotUcIn F) :=
  match op with
  | .evSample mv => some (.evSample, evSampleInput mv)
  | op => (op.useCase profile).map Prod.snd

/-- The device, with a note whether `ev.fault` has been executed. -/
def evRunStep (profile : Profile) (s : Device F × Bool) (op : Op F) : Device F × Bool :=
  (op.apply profile s.1,
    s.2 || ((op.evRequest profile).map Prod.fst == some IotUcId.evFaultLatch))

/-- A sample or a start request has kept a latched fault, and the state is consistent. -/
def KeepsFault (profile : Profile) (s : Device F × Bool) (op : Op F) (s' : Device F × Bool) :
    Prop :=
  (s.2 = true → ∀ id inp, op.evRequest profile = some (id, inp) →
    id = .evSample ∨ id = .evStartReq → s'.1.ev.fault = 1) ∧ EvConsistent s'.1.ev

/-- The requests that do not touch a fault. -/
def EvRequestSafe (s : Device F × Bool) (id : IotUcId) (inp : IotUcIn F) : Prop :=
  match id with
  | .evSample =>
    if EvOverTemp F (inp.i 0) then s.1.ev.state ≠ evState "Charging" else s.2 = false
  | .evStartReq => mentionsContactor inp = true ∨ s.1.ev.fault = 0
  | _ => True

def EvOpSafe (profile : Profile) (s : Device F × Bool) (op : Op F) : Prop :=
  ∀ id inp, op.evRequest profile = some (id, inp) → EvRequestSafe s id inp

theorem Op.apply_ev (profile : Profile) (op : Op F) (d : Device F) :
    (∃ P id inp, op.evRequest profile = some (id, inp) ∧
      (op.apply profile d).ev = (iotUcRun P id inp d).st.ev) ∨
    (op.evRequest profile = none ∧ (op.apply profile d).ev = d.ev) := by
  refine op.apply_request Device.ev (fun hs => ?_) (fun hs => ?_) fun _ => rfl
  · cases op with
    | evSample mv => exact absurd trivial hs
    | _ => rfl
  · cases op with
    | evSample mv => exact Or.inl ⟨hostPlatform, _, evSampleInput mv, rfl, rfl⟩
    | command | run | runJson | otaProgress | diag => exact hs.elim
    | _ => exact Or.inr ⟨rfl, rfl⟩

/-- The `op` of a session request; zero ends the session. -/
def sessionAsked (inp : IotUcIn F) : Int32 :=
  if inp.has (txt "session") then inp.i32 (txt "session") 1 else 1

/-- The registers that the consistency of the state is about. -/
def EvSt.display (ev : EvSt F) : CBuf 16 × Int32 := (ev.state, ev.fault)

/-- What a use case does to the state and the flag. -/
def evDisplay (id : IotUcId) (inp : IotUcIn F) (ev : EvSt F) : CBuf 16 × Int32 :=
  match id with
  | .evSample => (ev.state, if EvOverTemp F (inp.i 0) then 1 else 0)
  | .evStartReq => if mentionsContactor inp then ev.display else (evState "Charging", ev.fault)
  | .evStopReq => (evState "Idle", ev.fault)
  | .evSession =>
    if sessionAsked inp = 0 then (evState "Idle", ev.fault) else ev.display
  | .evFaultLatch => (evState "Fault", 1)
  | _ => ev.display

theorem iotUcRun_evDisplay (P : Platform) (id : IotUcId) (inp : IotUcIn F) (d : Device F) :
    (iotUcRun P id inp d).st.ev.display = evDisplay id inp d.ev := by
  cases id
  case evStartReq =>
    simp only [iotUcRun, entryFn, onEv, Handler.at, iotUcEvStart, evDisplay]
    split_ifs <;> rfl
  case evSession =>
    simp only [iotUcRun, entryFn, onEv, Handler.at, iotUcEvSession, evDisplay, sessionAsked]
    split_ifs <;> rfl
  all_goals rfl

/-- The flag is a bit, a latched fault has set it, and only a latched fault shows. -/
structure EvInv (s : Device F × Bool) : Prop where
  flag : s.1.ev.fault = 0 ∨ s.1.ev.fault = 1
  latched : s.2 = true → s.1.ev.fault = 1
  shown : s.1.ev.state = evState "Fault" → s.2 = true
  charging : s.1.ev.state = evState "Charging" → s.1.ev.fault = 0

section
variable {s s' : Device F × Bool} {id : IotUcId} {inp : IotUcIn F}

omit [CFloat F] in
theorem EvInv.consistent (hi : EvInv s) : EvConsistent s.1.ev := by
  constructor
  · rintro ⟨hst, hf⟩
    exact absurd (hf.symm.trans (hi.charging hst)) (by decide)
  · rintro ⟨hst, hf⟩
    exact absurd (hf.symm.trans (hi.latched (hi.shown hst))) (by decide)

omit [CFloat F] in
/-- A step that leaves the state and the flag alone. -/
theorem EvInv.keep (hi : EvInv s) (hd : s'.1.ev.display = s.1.ev.display) (hb : s'.2 = s.2) :
    EvInv s' := by
  obtain ⟨hst, hfl⟩ := Prod.ext_iff.mp hd
  simp only [EvSt.display] at hst hfl
  exact ⟨by rw [hfl]; exact hi.flag, fun h => hfl.trans (hi.latched (hb.symm.trans h)),
    fun h => hb.trans (hi.shown (hst.symm.trans h)),
    fun h => hfl.trans (hi.charging (hst.symm.trans h))⟩

omit [CFloat F] in
/-- A step that shows a state of its own and leaves the flag alone. -/
theorem EvInv.show {name : String} (hi : EvInv s)
    (hd : s'.1.ev.display = (evState name, s.1.ev.fault)) (hb : s'.2 = s.2)
    (hfault : evState name ≠ evState "Fault")
    (hcharging : evState name = evState "Charging" → s.1.ev.fault = 0) : EvInv s' := by
  obtain ⟨hst, hfl⟩ := Prod.ext_iff.mp hd
  simp only [EvSt.display] at hst hfl
  exact ⟨by rw [hfl]; exact hi.flag, fun h => hfl.trans (hi.latched (hb.symm.trans h)),
    fun h => absurd (hst.symm.trans h) hfault, fun h => hfl.trans (hcharging (hst.symm.trans h))⟩

theorem EvInv.sample (hi : EvInv s) (hd : s'.1.ev.display = evDisplay .evSample inp s.1.ev)
    (hb : s'.2 = s.2) (hc : EvRequestSafe s .evSample inp) : EvInv s' := by
  obtain ⟨hst, hfl⟩ := Prod.ext_iff.mp hd
  have hshown : s'.1.ev.state = evState "Fault" → s'.2 = true :=
    fun h => hb.trans (hi.shown (hst.symm.trans h))
  simp only [EvRequestSafe] at hc
  simp only [evDisplay, EvSt.display] at hst hfl
  split_ifs at hc hfl with hot
  · exact ⟨Or.inr hfl, fun _ => hfl, hshown, fun h => absurd (hst.symm.trans h) hc⟩
  · refine ⟨Or.inl hfl, fun h => ?_, hshown, fun _ => hfl⟩
    have hlatched : s.2 = true := hb.symm.trans h
    simp [hc] at hlatched

/-- A request that is safe keeps the invariant. -/
theorem EvInv.request (hi : EvInv s) (hd : s'.1.ev.display = evDisplay id inp s.1.ev)
    (hb : s'.2 = (s.2 || some id == some IotUcId.evFaultLatch)) (hc : EvRequestSafe s id inp) :
    EvInv s' := by
  by_cases hlatch : id = .evFaultLatch
  · subst hlatch
    obtain ⟨hst, hfl⟩ := Prod.ext_iff.mp hd
    simp only [EvSt.display, evDisplay] at hst hfl
    exact ⟨Or.inr hfl, fun _ => hfl, fun _ => by simp [hb],
      fun h => absurd (hst.symm.trans h) (by decide)⟩
  · have hb' : s'.2 = s.2 := by simpa [beq_eq_false_iff_ne.mpr hlatch] using hb
    cases id
    case evFaultLatch => exact absurd rfl hlatch
    case evSample => exact hi.sample hd hb' hc
    case evStartReq =>
      simp only [evDisplay] at hd
      split_ifs at hd with hm
      · exact hi.keep hd hb'
      · exact hi.show hd hb' (by decide) fun _ => hc.resolve_left hm
    case evStopReq => exact hi.show hd hb' (by decide) fun h => absurd h (by decide)
    case evSession =>
      simp only [evDisplay] at hd
      split_ifs at hd
      · exact hi.show hd hb' (by decide) fun h => absurd h (by decide)
      · exact hi.keep hd hb'
    all_goals exact hi.keep hd hb'

/-- A request that keeps the fault and the consistency is safe. -/
theorem evRequestSafe_of_keeps (hi : EvInv s) (hd : s'.1.ev.display = evDisplay id inp s.1.ev)
    (hkept : s.2 = true → id = .evSample ∨ id = .evStartReq → s'.1.ev.fault = 1)
    (hcons : EvConsistent s'.1.ev) : EvRequestSafe s id inp := by
  obtain ⟨hst, hfl⟩ := Prod.ext_iff.mp hd
  cases id
  case evSample =>
    simp only [evDisplay, EvSt.display] at hst hfl
    simp only [EvRequestSafe]
    split_ifs at hfl ⊢ with hot
    · exact fun h => hcons.1 ⟨hst.trans h, hfl⟩
    · by_contra hlatched
      have hone := hkept (Bool.not_eq_false _ ▸ hlatched) (Or.inl rfl)
      exact absurd (hfl.symm.trans hone) (by decide)
  case evStartReq =>
    by_contra hunsafe
    obtain ⟨hm, hf⟩ := not_or.mp hunsafe
    simp only [evDisplay, if_neg hm, EvSt.display] at hst hfl
    exact hcons.1 ⟨hst, hfl.trans (hi.flag.resolve_left hf)⟩
  all_goals trivial

end

theorem evRunStep_safe_iff {profile : Profile} {s : Device F × Bool} {op : Op F} (hi : EvInv s) :
    (EvOpSafe profile s op ↔ KeepsFault profile s op (evRunStep profile s op)) ∧
      (EvOpSafe profile s op → EvInv (evRunStep profile s op)) := by
  rcases op.apply_ev profile s.1 with ⟨P, id, inp, hreq, hev⟩ | ⟨hreq, hev⟩
  · have hd : (evRunStep profile s op).1.ev.display = evDisplay id inp s.1.ev :=
      (congrArg EvSt.display hev).trans (iotUcRun_evDisplay P id inp s.1)
    have hb : (evRunStep profile s op).2 = (s.2 || some id == some IotUcId.evFaultLatch) := by
      simp [evRunStep, hreq]
    have hsafe : EvOpSafe profile s op ↔ EvRequestSafe s id inp := forall_request hreq
    have hinv := fun hc => hi.request hd hb (hsafe.mp hc)
    refine ⟨⟨fun hc => ⟨fun hl _ _ _ _ => ?_, (hinv hc).consistent⟩, fun ⟨hkept, hcons⟩ => ?_⟩,
      hinv⟩
    · exact (hinv hc).latched (by simp [hb, hl])
    · exact hsafe.mpr (evRequestSafe_of_keeps hi hd (fun hl => hkept hl id inp hreq) hcons)
  · have hb : (evRunStep profile s op).2 = s.2 := by simp [evRunStep, hreq]
    have hinv := hi.keep (congrArg EvSt.display hev) hb
    refine ⟨iff_of_true (fun _ _ h => ?_) ⟨fun _ _ _ h => ?_, hinv.consistent⟩, fun _ => hinv⟩ <;>
      simp [hreq] at h

/-- Along a run from boot a latched fault survives samples and starts and the state stays
consistent, exactly when no sample follows a latched fault and no charge starts under a fault. -/
theorem ev_keeps_fault_iff (P : Platform) (profile : Profile) (wdtReset : Bool)
    (nvs : Option NvsImage) (ops : List (Op F)) :
    let tr := trace (evRunStep profile) (appMain P profile wdtReset nvs, false) ops
    (∀ e ∈ tr, EvOpSafe profile e.1 e.2.1) ↔ ∀ e ∈ tr, KeepsFault profile e.1 e.2.1 e.2.2 := by
  refine (run_trace _ _ ops).forall_iff (I := EvInv)
    (C := fun s op _ => EvOpSafe profile s op) ?_ ?_ ?_
  · rintro s op s' hi rfl
    exact (evRunStep_safe_iff hi).1
  · rintro s op s' hi rfl hc
    exact (evRunStep_safe_iff hi).2 hc
  · refine ⟨Or.inl rfl, fun h => by simp at h, fun h => ?_, fun _ => rfl⟩
    have hidle : evState "Idle" = evState "Fault" := h
    exact absurd hidle (by decide)

/-- A sample of 0 mV after `ev.fault` clears the flag under the state Fault. -/
theorem sample_clears_latched_fault : ¬ ∀ ops : List (Op ℚ),
    ∀ e ∈ trace (evRunStep .evCharger) (appMain hostPlatform .evCharger false none, false) ops,
      KeepsFault .evCharger e.1 e.2.1 e.2.2 := by
  intro h
  have hall := h [.run hostPlatform .evFaultLatch .zero, .evSample 0]
  have hlast := (hall _ (List.mem_cons_of_mem _ List.mem_cons_self)).1 rfl _ _ rfl
    (Or.inl rfl)
  revert hlast
  decide +kernel

end IotPlatform
