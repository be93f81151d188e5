import IotPlatform.Lookups
import IotPlatform.Profiles

/-!
# What a command is read for on its way

The command bus and the profile hooks add their own searches to those of the use case. Two
messages that answer all of them alike are treated alike, wherever their bytes lie.
-/
namespace IotPlatform
open CText CFloat

section
variable {F : Type} [CFloat F] {cap cap' : ℕ} {past past' : List UInt8}
  {cmd : IotCommandMsg cap} {cmd' : IotCommandMsg cap'}

/-- Every search that the command bus makes, up to where its route ends, answers alike on two
commands. -/
def BusSame (past : List UInt8) (cmd : IotCommandMsg cap) (past' : List UInt8)
    (cmd' : IotCommandMsg cap') : Prop :=
  let t := cmd.text past
  let t' := cmd'.text past'
  (Lookup.has (txt "uc")).Same t t' ∧
    if iotUcJsonHasKey t (txt "uc") then
      ucNameOf t = ucNameOf t' ∧
        ∀ name ∈ ucNameOf t, ∀ l ∈ reads (iotUcIdFromName name), l.Same t t'
    else (cmd.IsProvisioning ↔ cmd'.IsProvisioning) ∧
      if cmd.IsProvisioning then
        (512 < cmd.payloadLen ↔ 512 < cmd'.payloadLen) ∧ ∀ l ∈ provisioningReads, l.Same t t'
      else plainOtaUrl t = plainOtaUrl t'

theorem payloadLen_ne_zero (hv : iotSecurityValidateCommand cmd = .ok) : cmd.payloadLen ≠ 0 := by
  intro h
  simp [iotSecurityValidateCommand, h] at hv

theorem iotServicesHandleCommand_congr (P : Platform) (d : Device F)
    (hv : iotSecurityValidateCommand cmd = iotSecurityValidateCommand cmd')
    (h : BusSame past cmd past' cmd') :
    iotServicesHandleCommand P past cmd d = iotServicesHandleCommand P past' cmd' d := by
  by_cases hok : iotSecurityValidateCommand cmd = .ok
  · have hlen := payloadLen_ne_zero hok
    have hlen' := payloadLen_ne_zero (hv ▸ hok)
    obtain ⟨huc, h⟩ := h
    simp only [Lookup.Same] at huc
    unfold iotServicesHandleCommand
    simp only [← hv, hok, ne_eq, not_true_eq_false, if_false]
    by_cases hkey : iotUcJsonHasKey (cmd.text past) (txt "uc") = true
    · rw [if_pos hkey] at h
      obtain ⟨hname, hreads⟩ := h
      rw [if_pos hkey, if_pos (huc ▸ hkey)]
      simp only [iotUcDispatchCommand, hlen, hlen', if_false, iotUcRunJson, ← hname]
      cases hn : ucNameOf (cmd.text past) with
      | none => rfl
      | some name =>
        simp only [iotUcRun_congr P d (hreads name (by simp [hn]))]
    · rw [if_neg hkey] at h
      obtain ⟨hprov, h⟩ := h
      have hkey' : ¬ iotUcJsonHasKey (cmd'.text past') (txt "uc") = true := by rwa [← huc]
      rw [if_neg hkey, if_neg hkey']
      by_cases hp : cmd.IsProvisioning
      · rw [if_pos hp] at h
        rw [if_pos hp, if_pos (hprov.mp hp)]
        have hzero : cmd.payloadLen = 0 ↔ cmd'.payloadLen = 0 := iff_of_false hlen hlen'
        simp only [iotProvisionApplyJson_congr P h.2 hzero h.1]
      · rw [if_neg hp] at h
        rw [if_neg hp, if_neg (mt hprov.mpr hp), h]
  · rw [iotServicesHandleCommand_rejected hok, iotServicesHandleCommand_rejected (hv ▸ hok), hv]

theorem BusSame.of_text_eq (ht : cmd.text past = cmd'.text past')
    (hprov : cmd.IsProvisioning ↔ cmd'.IsProvisioning)
    (hlong : 512 < cmd.payloadLen ↔ 512 < cmd'.payloadLen) : BusSame past cmd past' cmd' := by
  have hself : ∀ l : Lookup, l.Same (cmd.text past) (cmd'.text past') := by
    intro l
    rw [ht]
    cases l <;> rfl
  refine ⟨hself _, ?_⟩
  split_ifs
  · exact ⟨by rw [ht], fun _ _ l _ => hself l⟩
  · exact ⟨hprov, hlong, fun l _ => hself l⟩
  · exact ⟨hprov, by rw [ht]⟩

theorem mapped_congr (P : Platform) (d : Device F) {buf : Text} (hop : cmd.opcode = cmd'.opcode)
    (hcap : buf.length < cap) (hcap' : buf.length < cap') (h512 : buf.length ≤ 512) :
    iotServicesHandleCommand P past (cmd.mapped buf) d =
      iotServicesHandleCommand P past' (cmd'.mapped buf) d := by
  have htext : (cmd.mapped buf).text past = (cmd'.mapped buf).text past' :=
    (cstr_padTo hcap past).trans (cstr_padTo hcap' past').symm
  have hhead : (padTo cap buf).headD 0 = (padTo cap' buf).headD 0 := by
    rw [headD_padTo (by omega), headD_padTo (by omega)]
  refine iotServicesHandleCommand_congr P d ?_ (BusSame.of_text_eq htext ?_ ?_)
  · exact iotSecurityValidateCommand_congr hop hhead (iff_of_false hcap.not_gt hcap'.not_gt)
      Iff.rfl
  · simp only [IotCommandMsg.IsProvisioning, IotCommandMsg.mapped, hop, List.head?_drop,
      getElem?_padTo (by omega : buf.length ≤ cap) (by decide : (115 : UInt8) ≠ 0),
      getElem?_padTo (by omega : buf.length ≤ cap') (by decide : (115 : UInt8) ≠ 0)]
  · exact iff_of_false (by simpa [IotCommandMsg.mapped] using h512)
      (by simpa [IotCommandMsg.mapped] using h512)

/-- Every search that a hook makes, up to where its route ends, answers alike on two commands. -/
def HookSame (past : List UInt8) (cmd : IotCommandMsg cap) (past' : List UInt8)
    (cmd' : IotCommandMsg cap') (profile : Profile) : Prop :=
  let bus := BusSame past cmd past' cmd'
  let mentions word := cmd.mentions past word = cmd'.mentions past' word
  let number word := cmd.legacyNumber past word = cmd'.legacyNumber past' word
  match profile with
  | .energy => cmd.hasUc past = cmd'.hasUc past' ∧
    if cmd.hasUc past then bus
    else number (txt "alarm_w") ∧ (cmd.legacyNumber past (txt "alarm_w") = none → bus)
  | .industrial => cmd.hasUc past = cmd'.hasUc past' ∧
    if cmd.hasUc past then bus
    else number (txt "t_alarm") ∧ (cmd.legacyNumber past (txt "t_alarm") = none → bus)
  | .water => cmd.hasUc past = cmd'.hasUc past' ∧
    if cmd.hasUc past then bus
    else mentions (txt "close") ∧ (cmd.mentions past (txt "close") = false →
      mentions (txt "open") ∧ (cmd.mentions past (txt "open") = false → bus))
  | .evCharger => mentions (txt "contactor") ∧ (cmd.mentions past (txt "contactor") = false → bus)
  | .automotive => mentions (txt "can_tx") ∧ (cmd.mentions past (txt "can_tx") = false → bus)
  | .robotics => mentions (txt "move") ∧ (cmd.mentions past (txt "move") = false → bus)
  | _ => bus

/-- Of a command the hooks, too, see only the answers to their searches. -/
theorem cmdHook_congr (profile : Profile) (P : Platform) (d : Device F)
    (hop : cmd.opcode = cmd'.opcode) (hcap : 128 ≤ cap) (hcap' : 128 ≤ cap')
    (hzero : cmd.payloadLen = 0 ↔ cmd'.payloadLen = 0)
    (hv : iotSecurityValidateCommand cmd = iotSecurityValidateCommand cmd')
    (h : HookSame past cmd past' cmd' profile) :
    profile.cmdHook P past cmd d = profile.cmdHook P past' cmd' d := by
  have hbus : BusSame past cmd past' cmd' →
      iotServicesHandleCommand P past cmd d = iotServicesHandleCommand P past' cmd' d :=
    iotServicesHandleCommand_congr P d hv
  have hmap : ∀ size t, size ≤ 128 →
      iotServicesHandleCommand P past (cmd.mapped (snprintf size t)) d =
        iotServicesHandleCommand P past' (cmd'.mapped (snprintf size t)) d := by
    intro size t hsize
    have hlen : (snprintf size t).length ≤ size - 1 := List.length_take_le _ _
    exact mapped_congr P d hop (by omega) (by omega) (by omega)
  have hword : ∀ word json len, cmd.mentions past word = cmd'.mentions past' word →
      (cmd.mentions past word = false → BusSame past cmd past' cmd') →
      (if cmd.mentions past word then runFixed P d json len
        else iotServicesHandleCommand P past cmd d) =
      if cmd'.mentions past' word then runFixed P d json len
        else iotServicesHandleCommand P past' cmd' d := by
    intro word json len hm hb
    rw [← hm]
    cases hw : cmd.mentions past word with
    | true => rfl
    | false => exact hbus (hb hw)
  cases profile with
  | energy =>
    obtain ⟨huc, h⟩ := h
    simp only [Profile.cmdHook, iotProfileEnergyCmd, hzero, ← huc]
    cases hk : cmd.hasUc past with
    | true =>
      rw [if_pos hk] at h
      simp only [if_true, hbus h]
    | false =>
      simp only [hk, Bool.false_eq_true, if_false] at h ⊢
      obtain ⟨hn, hnone⟩ := h
      rw [← hn]
      cases hnum : cmd.legacyNumber past (txt "alarm_w") with
      | none => simp only [hbus (hnone hnum)]
      | some n => simp only [hmap 128 _ le_rfl]
  | industrial =>
    obtain ⟨huc, h⟩ := h
    simp only [Profile.cmdHook, iotProfileIndustrialCmd, ← huc]
    cases hk : cmd.hasUc past with
    | true =>
      rw [if_pos hk] at h
      -- with a `uc` member the number is looked for, and not used
      cases cmd.legacyNumber past (txt "t_alarm") <;>
        cases cmd'.legacyNumber past' (txt "t_alarm") <;> exact hbus h
    | false =>
      simp only [hk, Bool.false_eq_true, if_false] at h
      obtain ⟨hn, hnone⟩ := h
      rw [← hn]
      cases hnum : cmd.legacyNumber past (txt "t_alarm") with
      | none => exact hbus (hnone hnum)
      | some n => exact hmap 96 _ (by decide)
  | water =>
    obtain ⟨huc, h⟩ := h
    simp only [Profile.cmdHook, iotProfileWaterCmd, ← huc]
    cases hk : cmd.hasUc past with
    | true =>
      rw [if_pos hk] at h
      exact hbus h
    | false =>
      simp only [hk, Bool.false_eq_true, if_false] at h
      obtain ⟨hclose, h⟩ := h
      rw [← hclose]
      cases hc : cmd.mentions past (txt "close") with
      | true => rfl
      | false => exact hword _ _ _ (h hc).1 (h hc).2
  | evCharger => exact hword _ _ _ h.1 h.2
  | automotive => exact hword _ _ _ h.1 h.2
  | robotics => exact hword _ _ _ h.1 h.2
  | predictive | assetTracker | agriculture | coldchain => exact hbus h

end

end IotPlatform
