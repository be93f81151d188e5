import IotPlatform.Routes
import IotPlatform.ValidationGate

/-!
# Bodies longer than the payload array

The ingress cuts a long body to 256 bytes. What happens then is compared with what the same code
does with a message that holds all of it.
-/
namespace IotPlatform
open CText CFloat KeySearch

/-- The message of a body in an array large enough for it and a terminator. -/
def complete (opcode : UInt16) (body : List UInt8) : IotCommandMsg (body.length + 1) where
  opcode := opcode
  payloadLen := body.length
  payload := padTo (body.length + 1) body
  sized := length_padTo _ _

variable {F : Type} [CFloat F]

/-- The cut body is rejected without effect, or leads where the complete one leads. -/
def NeverPartial (profile : Profile) (P : Platform) (past : List UInt8) (opcode : UInt16)
    (body : List UInt8) (d : Device F) : Prop :=
  Rejects (profile.cmdHook P past (enqueued opcode body) d) d ∨
    (profile.cmdHook P past (enqueued opcode body) d).2 =
      (profile.cmdHook P [] (complete opcode body) d).2

/-- The use case does not exist, or its handler turns away what the text asks for. -/
def Refuses (t : Text) (d : Device F) : IotUcId → Prop
  | .invalid | .count => True
  | .pltSetSampleMs =>
    sampleMsAsked (ucInput t : IotUcIn F) < 50 ∨ 60000 < sampleMsAsked (ucInput t : IotUcIn F)
  | .pltSetCloud =>
    cloudAsked (ucInput t : IotUcIn F) < 0 ∨ iotCloudGcpMqtt < cloudAsked (ucInput t : IotUcIn F)
  | .pltSetLogLevel =>
    levelAsked (ucInput t : IotUcIn F) < 0 ∨ iotLogVerbose < levelAsked (ucInput t : IotUcIn F)
  | .pltOta =>
    d.sys.ota.state = .downloading ∨ ∀ u ∈ iotUcJsonStr t (txt "ota_url") 200, ¬ IsHttps u
  | .energyPf =>
    pfAsked (ucInput t : IotUcIn F) < flit 0.5 ∨ flit 1 < pfAsked (ucInput t : IotUcIn F)
  | .waterSetK =>
    kAsked (ucInput t : IotUcIn F) < flit 0.1 ∨ flit 1000 < kAsked (ucInput t : IotUcIn F)
  | .trkSleep =>
    sleepAsked (ucInput t : IotUcIn F) d.tr < 5 ∨ 3600 < sleepAsked (ucInput t : IotUcIn F) d.tr
  | _ => False

/-- The command bus rejects the message: validation does, or the use case it names does, or an
update is already under way. -/
def BusRefuses {cap : ℕ} (past : List UInt8) (cmd : IotCommandMsg cap) (d : Device F) : Prop :=
  if iotSecurityValidateCommand cmd ≠ .ok then True
  else if cmd.hasUc past then
    ∀ name ∈ ucNameOf (cmd.text past), Refuses (cmd.text past) d (iotUcIdFromName name)
  else ¬ cmd.IsProvisioning ∧ (plainOtaUrl (cmd.text past)).isSome ∧
    d.sys.ota.state = .downloading

/-- The hook rejects the message: it hands it to a bus that does, or answers `open` while tamper
is latched. -/
def HookRefuses (past : List UInt8) (cmd : IotCommandMsg iotJsonSmallLen) (d : Device F)
    (profile : Profile) : Prop :=
  (BusRefuses past cmd d ∧ ¬ LegacyShortcut past cmd d profile) ∨
    (profile = .water ∧ cmd.hasUc past = false ∧ cmd.mentions past (txt "close") = false ∧
      cmd.mentions past (txt "open") = true ∧ d.water.tamper = true)

theorem otaStart_refused (P : Platform) (url : Text) {o : OtaSt}
    (h : o.state = .downloading ∨ ¬ IsHttps url) :
    (otaStart P url o).1 ≠ .ok ∧ (otaStart P url o).2 = o := by
  unfold otaStart
  by_cases hu : IsHttps url
  · simp [hu, h.resolve_right (not_not_intro hu)]
  · simp [hu]

theorem pltOta_refused {P : Platform} {t : Text} {d : Device F} (h : Refuses t d .pltOta) :
    Rejects ((iotUcRun P .pltOta (ucInput t) d).err, (iotUcRun P .pltOta (ucInput t) d).st) d := by
  simp only [iotUcRun, entryFn, onSys, Handler.at, iotUcPltOta]
  have hjson : (IotUcOut.zero : IotUcOut F).json = [] := rfl
  rw [hjson, pltOtaUrl_ucInput]
  cases hs : iotUcJsonStr t (txt "ota_url") 200 with
  | none => exact ⟨by simp, rfl⟩
  | some u =>
    by_cases hu : u = []
    · subst hu
      exact ⟨by simp, rfl⟩
    · have hno : d.sys.ota.state = .downloading ∨ ¬ IsHttps (u.take 159) := by
        rw [isHttps_take (by decide)]
        exact h.imp_right fun h => h u hs
      obtain ⟨herr, hst⟩ := otaStart_refused P _ hno
      simp only [Option.bind_some, if_neg hu]
      exact ⟨herr, by simp only [iotOtaStart, hst]; rfl⟩

theorem refused_run {P : Platform} {t : Text} {d : Device F} {id : IotUcId}
    (h : Refuses t d id) :
    Rejects ((iotUcRun P id (ucInput t) d).err, (iotUcRun P id (ucInput t) d).st) d := by
  cases id
  case pltOta => exact pltOta_refused h
  case invalid | count => exact ⟨by simp [iotUcRun, entryFn], rfl⟩
  all_goals simp only [Refuses] at h
  case pltSetSampleMs =>
    simp only [iotUcRun, entryFn, onSys, Handler.at, iotUcPltSetSampleMs, if_pos h]
    exact ⟨by simp, rfl⟩
  case pltSetCloud =>
    simp only [iotUcRun, entryFn, onSys, Handler.at, iotUcPltSetCloud, if_pos h]
    exact ⟨by simp, rfl⟩
  case pltSetLogLevel =>
    simp only [iotUcRun, entryFn, onSys, Handler.at, iotUcPltSetLogLevel, if_pos h]
    exact ⟨by simp, rfl⟩
  case energyPf =>
    simp only [iotUcRun, entryFn, onEnergy, Handler.at, iotUcEnergyPf, if_pos h]
    exact ⟨by simp, rfl⟩
  case waterSetK =>
    simp only [iotUcRun, entryFn, onWater, Handler.at, iotUcWaterSetK, if_pos h]
    exact ⟨by simp, rfl⟩
  case trkSleep =>
    simp only [iotUcRun, entryFn, onTr, Handler.at, iotUcTrkSleep, if_pos h]
    exact ⟨by simp, rfl⟩

theorem busRefuses_rejects {P : Platform} {cap : ℕ} {past : List UInt8} {cmd : IotCommandMsg cap}
    {d : Device F} (h : BusRefuses past cmd d) :
    Rejects (iotServicesHandleCommand P past cmd d) d := by
  unfold BusRefuses at h
  split_ifs at h with hv huc
  · rw [iotServicesHandleCommand_rejected hv]
    exact ⟨hv, rfl⟩
  · have hlen := payloadLen_ne_zero (not_not.mp hv)
    have huc' : iotUcJsonHasKey (cmd.text past) (txt "uc") = true := huc
    cases hn : ucNameOf (cmd.text past) with
    | none =>
      have hbus : iotServicesHandleCommand P past cmd d = (.protocol, d) := by
        simp only [iotServicesHandleCommand, if_neg hv, if_pos huc', iotUcDispatchCommand,
          if_neg hlen, iotUcRunJson, hn]
      rw [hbus]
      exact ⟨by simp, rfl⟩
    | some name =>
      rw [iotServicesHandleCommand_uc (not_not.mp hv) hn]
      exact refused_run (h name hn)
  · obtain ⟨hprov, hurl, hdown⟩ := h
    have huc' : ¬ iotUcJsonHasKey (cmd.text past) (txt "uc") = true := huc
    obtain ⟨url, hurl⟩ := Option.isSome_iff_exists.mp hurl
    obtain ⟨herr, hst⟩ := otaStart_refused P url (Or.inl hdown)
    simp only [iotServicesHandleCommand, if_neg hv, if_neg huc', if_neg hprov, hurl]
    exact ⟨herr, by simp only [iotOtaStart, hst]; rfl⟩

theorem hookRefuses_rejects {P : Platform} {past : List UInt8}
    {cmd : IotCommandMsg iotJsonSmallLen} {d : Device F} {profile : Profile}
    (h : HookRefuses past cmd d profile) : Rejects (profile.cmdHook P past cmd d) d := by
  rcases h with ⟨hbus, hs⟩ | ⟨rfl, huc, hclose, hopen, htamper⟩
  · exact cmdHook_rejects profile (busRefuses_rejects hbus) hs
  · exact waterCmd_tamper huc hclose hopen htamper

section
variable {opcode : UInt16} {body : List UInt8}

theorem complete_validate (h : iotJsonSmallLen < body.length) :
    iotSecurityValidateCommand (enqueued opcode body) =
      iotSecurityValidateCommand (complete opcode body) := by
  have hhead : (padTo iotJsonSmallLen body).headD 0 = (padTo (body.length + 1) body).headD 0 := by
    rw [headD_padTo (by decide), headD_padTo (by omega)]
  have hzero : min body.length iotJsonSmallLen = 0 ↔ body.length = 0 := by
    have : 0 < iotJsonSmallLen := by decide
    omega
  exact iotSecurityValidateCommand_congr rfl hhead
    (iff_of_false (Nat.min_le_right _ _).not_gt (Nat.le_succ _).not_gt) hzero

theorem cut_text (h : iotJsonSmallLen < body.length)
    (h0 : (0 : UInt8) ∉ body.take iotJsonSmallLen) (past : List UInt8) :
    (enqueued opcode body).text past = body.take iotJsonSmallLen ++ cstr past := by
  have hpay : (enqueued opcode body).payload = body.take iotJsonSmallLen := by
    simp only [enqueued, padTo, List.take_append_of_le_length h.le]
  rw [IotCommandMsg.text, hpay, cstr_append_of_notMem h0]

theorem complete_text (h0 : (0 : UInt8) ∉ body.take iotJsonSmallLen) :
    (complete opcode body).text [] =
      body.take iotJsonSmallLen ++ cstr (body.drop iotJsonSmallLen) := by
  have hpay : (complete opcode body).text [] = cstr body := cstr_padTo (Nat.lt_succ_self _) []
  rw [hpay, ← cstr_append_of_notMem h0, List.take_append_drop]

/-- A use-case request whose searches are settled, or hit nothing that is cut, within the array
means the same as the complete body. -/
theorem busSame_of_settled (h : iotJsonSmallLen < body.length)
    (h0 : (0 : UInt8) ∉ body.take iotJsonSmallLen) (past : List UInt8)
    (huc : (Lookup.has (txt "uc")).Settled (body.take iotJsonSmallLen))
    (hname : (Lookup.str (txt "uc") 48).Settled (body.take iotJsonSmallLen))
    (hreads : ∀ name ∈ ucNameOf (body.take iotJsonSmallLen),
      ∀ l ∈ reads (iotUcIdFromName name), l.Settled (body.take iotJsonSmallLen) ∨
        l.Same ((enqueued opcode body).text past) ((complete opcode body).text [])) :
    BusSame past (enqueued opcode body) [] (complete opcode body) := by
  have hsettled : ∀ l : Lookup, l.Settled (body.take iotJsonSmallLen) →
      l.Same ((enqueued opcode body).text past) ((complete opcode body).text []) := by
    intro l hl
    rw [cut_text h h0, complete_text h0]
    exact hl.same _ _
  have hcut : iotUcJsonHasKey ((enqueued opcode body).text past) (txt "uc") = true := by
    rw [cut_text h h0]
    exact (huc.same_append _).trans huc
  have hnames : ucNameOf ((enqueued opcode body).text past) =
      ucNameOf (body.take iotJsonSmallLen) := by
    rw [cut_text h h0]
    simp only [ucNameOf]
    rw [show iotUcJsonStr _ _ _ = _ from hname.same_append (cstr past)]
  have hnames' : ucNameOf ((enqueued opcode body).text past) =
      ucNameOf ((complete opcode body).text []) := by
    simp only [ucNameOf]
    rw [show iotUcJsonStr _ _ _ = _ from hsettled _ hname]
  refine ⟨hsettled _ huc, ?_⟩
  rw [if_pos hcut]
  refine ⟨hnames', fun name hn l hl => ?_⟩
  rw [hnames] at hn
  exact (hreads name hn l hl).elim (hsettled l) id

end

/-- A cut body does no harm when the hook rejects it as it stands, or when every search that the
hook makes in it is answered as in the complete body. -/
theorem cmdHook_neverPartial (profile : Profile) (P : Platform) (past : List UInt8)
    (opcode : UInt16) {body : List UInt8} (d : Device F) (hlen : iotJsonSmallLen < body.length)
    (h : HookRefuses past (enqueued opcode body) d profile ∨
      HookSame past (enqueued opcode body) [] (complete opcode body) profile) :
    NeverPartial profile P past opcode body d := by
  rcases h with h | h
  · exact Or.inl (hookRefuses_rejects h)
  · refine Or.inr (congrArg Prod.snd ?_)
    have hlen' : 256 < body.length := hlen
    refine cmdHook_congr profile P d rfl (by decide) (by omega) ?_ (complete_validate hlen) h
    simp only [enqueued, complete, iotJsonSmallLen]
    omega

def paddedBody : List UInt8 :=
  txt "\x7b\"uc\":\"water.get_state\"\x7d" ++ List.replicate 240 32

theorem paddedBody_neverPartial : NeverPartial .water hostPlatform [] 0x4D51 paddedBody
    (appMain hostPlatform .water false none : Device ℚ) := by
  have hlen : iotJsonSmallLen < paddedBody.length := by decide +kernel
  refine cmdHook_neverPartial .water hostPlatform [] 0x4D51 _ hlen (Or.inr ?_)
  have huc : (enqueued 0x4D51 paddedBody).hasUc [] = true := by decide +kernel
  have huc' : (complete 0x4D51 paddedBody).hasUc [] = true := by decide +kernel
  refine ⟨huc.trans huc'.symm, ?_⟩
  rw [if_pos huc]
  have huc : iotUcJsonHasKey (paddedBody.take iotJsonSmallLen) (txt "uc") = true := by
    decide +kernel
  have hname : ∃ r ∈ fieldAfter 48 (paddedBody.take iotJsonSmallLen) (txt "uc"),
      Closed ucBlank r := by decide +kernel
  have hid : ∀ name ∈ ucNameOf (paddedBody.take iotJsonSmallLen),
      reads (iotUcIdFromName name) = [] := by decide +kernel
  refine busSame_of_settled hlen (by decide +kernel) [] huc hname fun name hn l hl => ?_
  rw [hid name hn] at hl
  exact absurd hl List.not_mem_nil

/-- The cut falls into the password of a provisioning request. -/
def cutPassword : List UInt8 :=
  txt "\x7b\"ssid\":\"net\"," ++ List.replicate 230 32 ++ txt "\"pass\":\"secretsecret\"\x7d"

theorem cutPassword_stored : ¬ NeverPartial .agriculture hostPlatform [] 0xFF01 cutPassword
    (appMain hostPlatform .agriculture false none : Device ℚ) := by
  rintro (h | h)
  · exact h.1 (by decide +kernel)
  · have hpass := congrArg (fun d => d.sys.cfg.cfg.wifiPass.text) h
    revert hpass
    decide +kernel

end IotPlatform
