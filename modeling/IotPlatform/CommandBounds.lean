import IotPlatform.Firmware
import IotPlatform.Routes

/-!
# How far the scans of a command text reach

The ingress fills the payload array and zeroes what it does not use. Every scan of a message
begins at its first byte or at a place an earlier scan found, hence before the terminator the
first scan stops at; only the two hooks that read a legacy number begin one further on, eight
bytes behind the start of a word of seven.
-/
namespace IotPlatform
open CText CFloat

/-- Where the hook of a profile begins to read a legacy number in a text. -/
def numberScan (t : Text) : Profile → Option ℕ
  | .energy =>
    if iotUcJsonHasKey t (txt "uc") then none
    else (strstr t (txt "alarm_w")).map fun r => t.length - r.length + 8
  | .industrial =>
    if iotUcJsonHasKey t (txt "uc") then none
    else (strstr t (txt "t_alarm")).map fun r => t.length - r.length + 8
  | _ => none

/-- The offsets in the payload at which scans begin. -/
def scanStarts {cap : ℕ} (profile : Profile) (past : List UInt8) (cmd : IotCommandMsg cap) :
    List ℕ :=
  0 :: (numberScan (cmd.text past) profile).toList

/-- Every scan of the message meets a NUL inside the payload array, and what the hook does does
not depend on the memory behind the array. -/
structure StaysInside (F : Type) [CFloat F] {cap : ℕ} (profile : Profile)
    (cmd : IotCommandMsg cap) : Prop where
  nul : ∀ past, ∀ n ∈ scanStarts profile past cmd, (0 : UInt8) ∈ cmd.payload.drop n
  same : ∀ P past past' (d : Device F),
    profile.cmdHook P past cmd d = profile.cmdHook P past' cmd d

/-- From offset `n` on the array still holds a NUL: one of the body, or one the body left. -/
def NulFrom (body : List UInt8) (n : ℕ) : Prop :=
  max n body.length < iotJsonSmallLen ∨ (0 : UInt8) ∈ (body.take iotJsonSmallLen).drop n

theorem enqueued_payload (opcode : UInt16) (body : List UInt8) : (enqueued opcode body).payload =
    body.take iotJsonSmallLen ++ List.replicate (iotJsonSmallLen - body.length) 0 := by
  simp [enqueued, padTo, List.take_append, List.take_replicate]

theorem nulFrom_iff (opcode : UInt16) (body : List UInt8) (n : ℕ) :
    NulFrom body n ↔ (0 : UInt8) ∈ (enqueued opcode body).payload.drop n := by
  have hlen : (body.take iotJsonSmallLen).length = min iotJsonSmallLen body.length :=
    List.length_take ..
  rw [enqueued_payload, List.drop_append, List.mem_append, List.drop_replicate,
    List.mem_replicate, hlen, NulFrom]
  constructor
  · rintro (h | h)
    · exact Or.inr ⟨by omega, rfl⟩
    · exact Or.inl h
  · rintro (h | ⟨h, -⟩)
    · exact Or.inr h
    · exact Or.inl (by omega)

variable {F : Type} [CFloat F] {cap : ℕ} {cmd : IotCommandMsg cap}

theorem text_eq_of_nul (h : (0 : UInt8) ∈ cmd.payload) (past : List UInt8) :
    cmd.text past = cstr cmd.payload :=
  cstr_append h past

theorem legacyNumber_congr {word : Text} {past past' : List UInt8}
    (h : (0 : UInt8) ∈ cmd.payload)
    (hn : ∀ n ∈ cmd.legacyStart past word, (0 : UInt8) ∈ cmd.payload.drop n) :
    cmd.legacyNumber past word = cmd.legacyNumber past' word := by
  have hstart : cmd.legacyStart past' word = cmd.legacyStart past word := by
    simp only [IotCommandMsg.legacyStart, text_eq_of_nul h]
  unfold IotCommandMsg.legacyNumber
  rw [hstart]
  cases hs : cmd.legacyStart past word with
  | none => rfl
  | some n =>
    have hnul := hn n (by simp [hs])
    simp only [Option.map_some, List.drop_append, cstr_append hnul]

theorem hookSame_of_nul (profile : Profile) {past past' : List UInt8}
    (h : ∀ n ∈ scanStarts profile past cmd, (0 : UInt8) ∈ cmd.payload.drop n) :
    HookSame past cmd past' cmd profile := by
  have h0 : (0 : UInt8) ∈ cmd.payload := h 0 (by simp [scanStarts])
  have htext : cmd.text past = cmd.text past' :=
    (text_eq_of_nul h0 past).trans (text_eq_of_nul h0 past').symm
  have hbus : BusSame past cmd past' cmd := BusSame.of_text_eq htext Iff.rfl Iff.rfl
  have huc : cmd.hasUc past = cmd.hasUc past' := by simp only [IotCommandMsg.hasUc, htext]
  have hword : ∀ word, cmd.mentions past word = cmd.mentions past' word := by
    intro word
    simp only [IotCommandMsg.mentions, htext]
  cases profile with
  | energy =>
    refine ⟨huc, ?_⟩
    split_ifs with hk
    · exact hbus
    · refine ⟨legacyNumber_congr h0 fun n hn => h n ?_, fun _ => hbus⟩
      have hk' : ¬ iotUcJsonHasKey (cmd.text past) (txt "uc") = true := hk
      simpa [scanStarts, numberScan, hk', IotCommandMsg.legacyStart] using Or.inr hn
  | industrial =>
    refine ⟨huc, ?_⟩
    split_ifs with hk
    · exact hbus
    · refine ⟨legacyNumber_congr h0 fun n hn => h n ?_, fun _ => hbus⟩
      have hk' : ¬ iotUcJsonHasKey (cmd.text past) (txt "uc") = true := hk
      simpa [scanStarts, numberScan, hk', IotCommandMsg.legacyStart] using Or.inr hn
  | water =>
    refine ⟨huc, ?_⟩
    split_ifs
    · exact hbus
    · exact ⟨hword _, fun _ => ⟨hword _, fun _ => hbus⟩⟩
  | evCharger => exact ⟨hword _, fun _ => hbus⟩
  | automotive => exact ⟨hword _, fun _ => hbus⟩
  | robotics => exact ⟨hword _, fun _ => hbus⟩
  | predictive | assetTracker | agriculture | coldchain => exact hbus

theorem enqueued_text {opcode : UInt16} {body : List UInt8} (h : NulFrom body 0)
    (past : List UInt8) :
    (enqueued opcode body).text past = cstr (body.take iotJsonSmallLen) := by
  rcases h with h | h
  · rw [List.take_of_length_le (by omega)]
    exact cstr_padTo (by omega) past
  · rw [IotCommandMsg.text, enqueued_payload, List.append_assoc]
    exact cstr_append (by simpa using h) _

/-- The scans of a message stay inside its payload exactly when the body leaves a NUL in the
array, and another one from where the hook reads a legacy number. -/
theorem enqueued_staysInside_iff (profile : Profile) (opcode : UInt16) (body : List UInt8) :
    StaysInside F profile (enqueued opcode body) ↔ NulFrom body 0 ∧
      ∀ n ∈ numberScan (cstr (body.take iotJsonSmallLen)) profile, NulFrom body n := by
  constructor
  · rintro ⟨hnul, -⟩
    have h0 : NulFrom body 0 := (nulFrom_iff opcode body 0).mpr (hnul [] 0 (by simp [scanStarts]))
    refine ⟨h0, fun n hn => (nulFrom_iff opcode body n).mpr (hnul [] n ?_)⟩
    simpa [scanStarts, enqueued_text h0] using Or.inr hn
  · rintro ⟨h0, hn⟩
    have hnul : ∀ past, ∀ n ∈ scanStarts profile past (enqueued opcode body),
        (0 : UInt8) ∈ (enqueued opcode body).payload.drop n := by
      intro past n hmem
      rw [scanStarts, enqueued_text h0, List.mem_cons, Option.mem_toList] at hmem
      refine (nulFrom_iff opcode body n).mp ?_
      rcases hmem with rfl | hmem
      · exact h0
      · exact hn n hmem
    refine ⟨hnul, fun P past past' d => ?_⟩
    exact cmdHook_congr profile P d rfl (by decide) (by decide) Iff.rfl rfl
      (hookSame_of_nul profile (hnul past))

def fullBody : List UInt8 :=
  txt "\x7b\"uc\":\"water.get_state\"" ++ List.replicate 232 32 ++ txt "\x7d"

theorem fullBody_not_staysInside : iotSecurityValidateCommand (mqttEvent fullBody) = .ok ∧
    ¬ StaysInside ℚ .water (mqttEvent fullBody) := by
  refine ⟨by decide +kernel, fun h => ?_⟩
  have hnul : (0 : UInt8) ∉ (mqttEvent fullBody).payload := by decide +kernel
  exact hnul (h.nul [] 0 List.mem_cons_self)

end IotPlatform
