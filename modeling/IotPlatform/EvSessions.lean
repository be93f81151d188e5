import IotPlatform.EvFault

/-!
# The session counter of the EV charger

One register is the counter from which sessions are numbered and the mark that none is active. A
session request numbers a session or clears the register, and a start without a session numbers it
1.
-/
namespace IotPlatform
open CText CFloat Runs

variable {F : Type} [CFloat F]

/-- The request allocates a session on these registers: a session request for anything but zero, or
a start that is not refused and finds no session. -/
def SessionRequest (id : IotUcId) (inp : IotUcIn F) (ev : EvSt F) : Prop :=
  match id with
  | .evSession => sessionAsked inp ≠ 0
  | .evStartReq => mentionsContactor inp = false ∧ ev.session = 0
  | _ => False

instance (id : IotUcId) (inp : IotUcIn F) (ev : EvSt F) : Decidable (SessionRequest id inp ev) := by
  unfold SessionRequest
  split <;> infer_instance

/-- The operation allocates a session. -/
def Op.allocates (profile : Profile) (op : Op F) (d : Device F) : Bool :=
  match op.evRequest profile with
  | some (id, inp) => SessionRequest id inp d.ev
  | none => false

/-- The device, with the sessions allocated so far. -/
def sessionStep (profile : Profile) (s : Device F × List UInt32) (op : Op F) :
    Device F × List UInt32 :=
  let d := op.apply profile s.1
  (d, if op.allocates profile s.1 then d.ev.session :: s.2 else s.2)

/-- A session that the step allocates has a number, and no earlier session had it. -/
def FreshSession (profile : Profile) (s : Device F × List UInt32) (op : Op F)
    (s' : Device F × List UInt32) : Prop :=
  op.allocates profile s.1 = true → s'.1.ev.session ≠ 0 ∧ s'.1.ev.session ∉ s.2

/-- The counter has not been cleared since the first allocation, and it does not wrap. -/
def CountsOn (profile : Profile) (s : Device F × List UInt32) (op : Op F) : Prop :=
  op.allocates profile s.1 = true →
    (s.1.ev.session = 0 → s.2 = []) ∧ s.1.ev.session ≠ 0xFFFFFFFF

/-- What a use case does to the counter. -/
def evCounter (id : IotUcId) (inp : IotUcIn F) (ev : EvSt F) : UInt32 :=
  match id with
  | .evSession => if sessionAsked inp = 0 then 0 else ev.session + 1
  | .evStartReq =>
    if mentionsContactor inp then ev.session else if ev.session = 0 then 1 else ev.session
  | _ => ev.session

theorem iotUcRun_session (P : Platform) (id : IotUcId) (inp : IotUcIn F) (d : Device F) :
    (iotUcRun P id inp d).st.ev.session = evCounter id inp d.ev := by
  cases id
  case evStartReq =>
    simp only [iotUcRun, entryFn, onEv, Handler.at, iotUcEvStart, evCounter]
    split_ifs <;> rfl
  case evSession =>
    simp only [iotUcRun, entryFn, onEv, Handler.at, iotUcEvSession, evCounter, sessionAsked]
    split_ifs <;> rfl
  all_goals rfl

/-- An allocation counts on from the counter. -/
theorem evCounter_of_request {id : IotUcId} {inp : IotUcIn F} {ev : EvSt F}
    (h : SessionRequest id inp ev) : evCounter id inp ev = ev.session + 1 := by
  cases id
  case evSession => exact if_neg h
  case evStartReq => simp [evCounter, h.1, h.2]
  all_goals exact h.elim

/-- Without an allocation the counter stays or is cleared. -/
theorem evCounter_of_not_request {id : IotUcId} {inp : IotUcIn F} {ev : EvSt F}
    (h : ¬ SessionRequest id inp ev) :
    evCounter id inp ev = ev.session ∨ evCounter id inp ev = 0 := by
  cases id
  case evSession => exact Or.inr (if_pos (not_not.mp h))
  case evStartReq =>
    simp only [SessionRequest, not_and_or, Bool.not_eq_false] at h
    simp only [evCounter]
    split_ifs with hm hz
    · exact Or.inl rfl
    · exact absurd hz (h.resolve_left hm)
    · exact Or.inl rfl
  all_goals exact Or.inl rfl

theorem Op.apply_session (profile : Profile) (op : Op F) (d : Device F) :
    (op.allocates profile d = true ∧ (op.apply profile d).ev.session = d.ev.session + 1) ∨
    (op.allocates profile d = false ∧ ((op.apply profile d).ev.session = d.ev.session ∨
      (op.apply profile d).ev.session = 0)) := by
  rcases op.apply_ev profile d with ⟨P, id, inp, hreq, hev⟩ | ⟨hreq, hev⟩
  · have hs := (congrArg EvSt.session hev).trans (iotUcRun_session P id inp d)
    have ha : op.allocates profile d = decide (SessionRequest id inp d.ev) := by
      simp [Op.allocates, hreq]
    rw [ha, hs]
    by_cases hr : SessionRequest id inp d.ev
    · exact Or.inl ⟨decide_eq_true hr, evCounter_of_request hr⟩
    · exact Or.inr ⟨decide_eq_false hr, evCounter_of_not_request hr⟩
  · exact Or.inr ⟨by simp [Op.allocates, hreq], Or.inl (congrArg EvSt.session hev)⟩

/-- The counter is the last number or zero, and above all numbers unless it is zero. -/
structure SessionInv (s : Device F × List UInt32) : Prop where
  last : s.1.ev.session ≠ 0 → s.1.ev.session ∈ s.2
  above : s.1.ev.session ≠ 0 → ∀ i ∈ s.2, i ≤ s.1.ev.session
  first : s.2 ≠ [] → 1 ∈ s.2

section
variable {profile : Profile} {s s' : Device F × List UInt32} {op : Op F}

theorem toNat_succ {n : UInt32} (h : n ≠ 0xFFFFFFFF) : (n + 1).toNat = n.toNat + 1 := by
  have hlt := n.toNat_lt
  have hne : n.toNat ≠ 4294967295 := fun he => h (UInt32.toNat_inj.mp he)
  rw [UInt32.toNat_add, UInt32.toNat_one]
  omega

theorem succ_ne_zero_iff {n : UInt32} : n + 1 ≠ 0 ↔ n ≠ 0xFFFFFFFF := by
  rw [not_iff_not, ← UInt32.toNat_inj, ← UInt32.toNat_inj, UInt32.toNat_add]
  have hlt := n.toNat_lt
  simp only [UInt32.toNat_one, UInt32.toNat_zero, UInt32.reduceToNat]
  omega

omit [CFloat F] in
/-- A counter that goes on gives a new number. -/
theorem SessionInv.fresh (hi : SessionInv s) (hz : s.1.ev.session = 0 → s.2 = [])
    (hmax : s.1.ev.session ≠ 0xFFFFFFFF) : s.1.ev.session + 1 ∉ s.2 := by
  intro hmem
  by_cases h0 : s.1.ev.session = 0
  · simp [hz h0] at hmem
  · have hle := UInt32.le_iff_toNat_le.mp (hi.above h0 _ hmem)
    rw [toNat_succ hmax] at hle
    omega

omit [CFloat F] in
/-- A counter that was cleared after an allocation gives 1 again. -/
theorem SessionInv.not_fresh (hi : SessionInv s) (hz : s.1.ev.session = 0) (hne : s.2 ≠ []) :
    s.1.ev.session + 1 ∈ s.2 := by
  rw [hz]
  exact hi.first hne

omit [CFloat F] in
theorem SessionInv.allocate (hi : SessionInv s) (hz : s.1.ev.session = 0 → s.2 = [])
    (hmax : s.1.ev.session ≠ 0xFFFFFFFF) (hn : s'.1.ev.session = s.1.ev.session + 1)
    (hl : s'.2 = s'.1.ev.session :: s.2) : SessionInv s' := by
  refine ⟨fun _ => by simp [hl], fun _ i hmem => ?_, fun _ => ?_⟩
  · rw [hl] at hmem
    rcases List.mem_cons.mp hmem with rfl | hmem
    · exact UInt32.le_refl _
    · have h0 : s.1.ev.session ≠ 0 := fun h0 => by simp [hz h0] at hmem
      have hle := UInt32.le_iff_toNat_le.mp (hi.above h0 i hmem)
      rw [UInt32.le_iff_toNat_le, hn, toNat_succ hmax]
      omega
  · rw [hl, hn]
    by_cases hnil : s.2 = []
    · have h0 : s.1.ev.session = 0 := by
        by_contra h0
        simpa [hnil] using hi.last h0
      simp [h0]
    · exact List.mem_cons_of_mem _ (hi.first hnil)

omit [CFloat F] in
theorem SessionInv.keep (hi : SessionInv s)
    (hn : s'.1.ev.session = s.1.ev.session ∨ s'.1.ev.session = 0) (hl : s'.2 = s.2) :
    SessionInv s' := by
  rcases hn with hn | hn
  · exact ⟨by rw [hn, hl]; exact hi.last, by rw [hn, hl]; exact hi.above,
      by rw [hl]; exact hi.first⟩
  · exact ⟨fun h => absurd hn h, fun h => absurd hn h, by rw [hl]; exact hi.first⟩

theorem sessionStep_iff (hi : SessionInv s) :
    (CountsOn profile s op ↔ FreshSession profile s op (sessionStep profile s op)) ∧
      (CountsOn profile s op → SessionInv (sessionStep profile s op)) := by
  rcases op.apply_session profile s.1 with ⟨ha, hn⟩ | ⟨ha, hn⟩
  · have hn' : (sessionStep profile s op).1.ev.session = s.1.ev.session + 1 := hn
    simp only [CountsOn, FreshSession, ha, true_imp_iff, hn', succ_ne_zero_iff]
    refine ⟨⟨fun ⟨hz, hmax⟩ => ⟨hmax, hi.fresh hz hmax⟩, fun ⟨hmax, hnew⟩ => ⟨fun hz => ?_, hmax⟩⟩,
      fun ⟨hz, hmax⟩ => hi.allocate hz hmax hn' (by simp [sessionStep, ha])⟩
    by_contra hne
    exact hnew (hi.not_fresh hz hne)
  · refine ⟨by simp [CountsOn, FreshSession, ha], fun _ => ?_⟩
    exact hi.keep hn (by simp [sessionStep, ha])

end

/-- Along a run from boot every allocation gives a number that is not zero and was not given
before, exactly when none follows the end of an earlier session and the counter does not wrap. -/
theorem sessions_fresh_iff (P : Platform) (profile : Profile) (wdtReset : Bool)
    (nvs : Option NvsImage) (ops : List (Op F)) :
    let tr := trace (sessionStep profile) (appMain P profile wdtReset nvs, []) ops
    (∀ e ∈ tr, CountsOn profile e.1 e.2.1) ↔ ∀ e ∈ tr, FreshSession profile e.1 e.2.1 e.2.2 := by
  refine (run_trace _ _ ops).forall_iff (I := SessionInv)
    (C := fun s op _ => CountsOn profile s op) ?_ ?_ ⟨fun h => absurd rfl h, ?_, fun h => ?_⟩
  · rintro s op s' hi rfl
    exact (sessionStep_iff hi).1
  · rintro s op s' hi rfl hc
    exact (sessionStep_iff hi).2 hc
  · exact fun _ i hmem => absurd hmem List.not_mem_nil
  · exact absurd rfl h

/-- A start, the end of its session and another start give the number 1 twice. -/
theorem cleared_session_comes_again : ¬ ∀ ops : List (Op ℚ),
    ∀ e ∈ trace (sessionStep .evCharger) (appMain hostPlatform .evCharger false none, []) ops,
      FreshSession .evCharger e.1 e.2.1 e.2.2 := by
  intro h
  have hall := h [.runJson hostPlatform (txt "\x7b\"uc\":\"ev.start\"\x7d") 17,
    .runJson hostPlatform (txt "\x7b\"uc\":\"ev.session\",\"session\":0\x7d") 31,
    .runJson hostPlatform (txt "\x7b\"uc\":\"ev.start\"\x7d") 17]
  have hlast := hall _ (List.mem_cons_of_mem _ (List.mem_cons_of_mem _ List.mem_cons_self))
  revert hlast
  unfold FreshSession
  decide +kernel

end IotPlatform
