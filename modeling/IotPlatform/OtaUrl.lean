import IotPlatform.Firmware
import IotPlatform.JsonRequests
import IotPlatform.ValidationGate

/-!
# Which URL an update is started with

The `plt.ota` use case reads the member `ota_url` by its key and cuts it to 159 bytes. A command
without `uc` takes the first text that begins with `https://`, wherever it stands.
-/
namespace IotPlatform
open CText CFloat KeySearch FlatJson

/-- A validated message whose payload is an object with the string `url` under `ota_url`, where
strings have no quotes or backslashes. -/
structure OtaRequest where
  obj : Object
  unescaped : ∀ m ∈ obj.members, m.value.Unescaped
  url : JString
  given : ∃ m ∈ obj.members, m.name = txt "ota_url" ∧ m.value = .str url
  cmd : IotCommandMsg iotJsonSmallLen
  payload : cmd.payload.take cmd.payloadLen = obj.render
  validated : iotSecurityValidateCommand cmd = .ok

/-- The request reaches the use case `plt.ota`. -/
def OnOtaPath (past : List UInt8) (req : OtaRequest) : Prop :=
  ucNameOf (req.cmd.text past) = some (txt "plt.ota")

/-- The request has no `uc` and is not sent to provisioning. -/
def OnPlainPath (past : List UInt8) (req : OtaRequest) : Prop :=
  req.cmd.hasUc past = false ∧ ¬ req.cmd.IsProvisioning

variable {F : Type} [CFloat F]

/-- An `https://` URL starts an update with exactly that URL, any other is denied and leaves the
OTA module alone. -/
def UrlKept (P : Platform) (past : List UInt8) (req : OtaRequest) (d : Device F) : Prop :=
  let r := iotServicesHandleCommand P past req.cmd d
  if IsHttps (decode req.url) then r.2.sys.otaCalls = d.sys.otaCalls ++ [decode req.url]
  else r.1 = .denied ∧ r.2.sys.ota = d.sys.ota

/-- The first `https://` text of `t`, up to a quote or the end. -/
def FirstHttps (t w : Text) : Prop :=
  ∃ pre post, t = pre ++ (w ++ post) ∧ IsHttps (w ++ post) ∧
    (∀ n < pre.length, ¬ IsHttps (t.drop n)) ∧ quote ∉ w ∧ (post = [] ∨ ∃ q, post = quote :: q)

/-- What the use case reads under `ota_url` is the URL, and no longer than its buffer; for other
texts it is enough that a text without the scheme is read. -/
def KeyReadsUrl (t u : Text) : Prop :=
  if IsHttps u then ∃ w, ReadsAs ucBlank (txt "ota_url") t w ∧ w.take 159 = u
  else ∃ w, ReadsAs ucBlank (txt "ota_url") t w ∧ w ≠ [] ∧ ¬ IsHttps w

/-- The first `https://` text is the URL, and no longer than its buffer. -/
def FirstIsUrl (t u : Text) : Prop :=
  IsHttps u ∧ quoted (txt "ota_url") <:+: t ∧ ∃ w, FirstHttps t w ∧ w.take 199 = u

theorem httpsUrl_iff {t v : Text} : httpsUrl t = some v ↔ ∃ w, FirstHttps t w ∧ v = w.take 199 := by
  rw [httpsUrl, Option.map_eq_some_iff]
  constructor
  · rintro ⟨r, hr, rfl⟩
    obtain ⟨pre, rfl, hp, hfirst⟩ := strstr_first hr
    obtain ⟨post, hsplit, hw, hpost⟩ := takeWhile_quote_iff.mp (Eq.refl (r.takeWhile (· != quote)))
    exact ⟨_, ⟨pre, post, by rw [← hsplit], hsplit ▸ hp, hfirst, hw, hpost⟩, rfl⟩
  · rintro ⟨w, ⟨pre, post, rfl, hp, hfirst, hw, hpost⟩, rfl⟩
    refine ⟨w ++ post, strstr_of_first hp hfirst, ?_⟩
    rw [takeWhile_quote_iff.mpr ⟨post, rfl, hw, hpost⟩]

theorem FirstHttps.isHttps {t w : Text} (h : FirstHttps t w) : IsHttps w := by
  obtain ⟨pre, post, -, hp, -, -, hpost⟩ := h
  rcases List.prefix_or_prefix_of_prefix hp (List.prefix_append w post) with hw | ⟨x, hx⟩
  · exact hw
  · cases x with
    | nil => exact ⟨[], by simpa using hx.symm⟩
    | cons b x =>
      -- the scheme would reach over the end of the text, where a quote stands
      rw [IsHttps, ← hx, List.prefix_append_right_inj] at hp
      rcases hpost with rfl | ⟨q, rfl⟩
      · simp at hp
      · obtain rfl := (List.cons_prefix_cons.mp hp).1
        have hq : quote ∈ httpsPrefix := by rw [← hx]; simp
        exact absurd hq (by decide +kernel)

theorem keyReadsUrl_iff {t u : Text} : KeyReadsUrl t u ↔
    ∃ url ∈ (iotUcJsonStr t (txt "ota_url") 200).bind fun v =>
        if v = [] then none else some (v.take 159),
      if IsHttps u then url = u else ¬ IsHttps url := by
  have hstr : ∀ v, iotUcJsonStr t (txt "ota_url") 200 = some v ↔
      ∃ w, ReadsAs ucBlank (txt "ota_url") t w ∧ v = w.take 199 :=
    fun v => fieldText_iff (by decide) ucBlank_quote
  have hread : ∀ url, (url ∈ (iotUcJsonStr t (txt "ota_url") 200).bind fun v =>
      if v = [] then none else some (v.take 159)) ↔
      ∃ w, ReadsAs ucBlank (txt "ota_url") t w ∧ w ≠ [] ∧ url = w.take 159 := by
    intro url
    rw [Option.mem_def, Option.bind_eq_some_iff]
    constructor
    · rintro ⟨v, hv, hurl⟩
      obtain ⟨w, hw, rfl⟩ := (hstr v).mp hv
      split_ifs at hurl with hnil
      refine ⟨w, hw, fun h => hnil (by simp [h]), ?_⟩
      rw [← Option.some.inj hurl, List.take_take]
      rfl
    · rintro ⟨w, hw, hne, rfl⟩
      refine ⟨w.take 199, (hstr _).mpr ⟨w, hw, rfl⟩, ?_⟩
      rw [if_neg (by simpa using hne), List.take_take]
      rfl
  simp only [KeyReadsUrl, hread]
  by_cases hu : IsHttps u
  · simp only [hu, if_true]
    constructor
    · rintro ⟨w, hw, rfl⟩
      refine ⟨_, ⟨w, hw, ?_, rfl⟩, rfl⟩
      rintro rfl
      exact absurd hu (by decide +kernel)
    · rintro ⟨_, ⟨w, hw, -, rfl⟩, rfl⟩
      exact ⟨w, hw, rfl⟩
  · simp only [hu, if_false]
    constructor
    · rintro ⟨w, hw, hne, hno⟩
      exact ⟨_, ⟨w, hw, hne, rfl⟩, by rwa [isHttps_take (by decide)]⟩
    · rintro ⟨_, ⟨w, hw, hne, rfl⟩, hno⟩
      exact ⟨w, hw, hne, by rwa [isHttps_take (by decide)] at hno⟩

section
variable {P : Platform} {past : List UInt8} {req : OtaRequest} {d : Device F}

def Starts (P : Platform) (url : Text) (r : IotErr × Device F) (d : Device F) : Prop :=
  r.1 = (otaStart P url d.sys.ota).1 ∧ r.2.sys.ota = (otaStart P url d.sys.ota).2 ∧
    r.2.sys.otaCalls = d.sys.otaCalls ++ [url]

theorem urlKept_of_starts (url : Text)
    (h : Starts P url (iotServicesHandleCommand P past req.cmd d) d) : UrlKept P past req d ↔
      if IsHttps (decode req.url) then url = decode req.url else ¬ IsHttps url := by
  obtain ⟨herr, hota, hcalls⟩ := h
  simp only [UrlKept, herr, hota, hcalls, List.append_cancel_left_eq, List.cons.injEq, and_true]
  by_cases hu : IsHttps (decode req.url)
  · simp only [hu, if_true]
  · simp only [hu, if_false]
    refine ⟨fun h hurl => otaStart_https P hurl _ h.1, fun hurl => ?_⟩
    rw [otaStart_denied P hurl]
    exact ⟨rfl, rfl⟩

/-- Without a start nothing is denied and no URL arrives. -/
theorem not_urlKept {r : IotErr × Device F} (hr : iotServicesHandleCommand P past req.cmd d = r)
    (herr : r.1 ≠ .denied) (hcalls : r.2.sys.otaCalls = d.sys.otaCalls) :
    ¬ UrlKept P past req d := by
  intro h
  simp only [UrlKept, hr, hcalls] at h
  split_ifs at h
  · simp at h
  · exact herr h.1

theorem otaPath_kept_iff (h : OnOtaPath past req) : UrlKept P past req d ↔
    KeyReadsUrl (req.cmd.text past) (decode req.url) := by
  have hid : iotUcIdFromName (txt "plt.ota") = .pltOta := by decide +kernel
  have hrun := iotServicesHandleCommand_uc (P := P) req.validated h d
  have hjson : (IotUcOut.zero : IotUcOut F).json = [] := rfl
  simp only [hid, iotUcRun, entryFn, onSys, Handler.at, iotUcPltOta] at hrun
  rw [hjson, pltOtaUrl_ucInput] at hrun
  rw [keyReadsUrl_iff]
  cases hs : (iotUcJsonStr (req.cmd.text past) (txt "ota_url") 200).bind fun v =>
      if v = [] then none else some (v.take 159) with
  | none =>
    rw [hs] at hrun
    refine iff_of_false (not_urlKept hrun (by simp) rfl) ?_
    simp
  | some url =>
    rw [hs] at hrun
    rw [urlKept_of_starts url (by rw [hrun]; exact ⟨rfl, rfl, rfl⟩)]
    simp

theorem plainPath_kept_iff (h : OnPlainPath past req) : UrlKept P past req d ↔
    FirstIsUrl (req.cmd.text past) (decode req.url) := by
  obtain ⟨huc, hprov⟩ := h
  have huc' : ¬ iotUcJsonHasKey (req.cmd.text past) (txt "uc") = true := by
    simpa [IotCommandMsg.hasUc] using huc
  have hkey : (strstr (req.cmd.text past) (txt "\"ota_url\"")).isSome ↔
      quoted (txt "ota_url") <:+: req.cmd.text past := strstr_isSome
  have hrun : iotServicesHandleCommand P past req.cmd d =
      (plainOtaUrl (req.cmd.text past)).elim (.ok, d) fun url =>
        ((iotOtaStart P url d.sys).1, { d with sys := (iotOtaStart P url d.sys).2 }) := by
    have hv : ¬ iotSecurityValidateCommand req.cmd ≠ .ok := not_not_intro req.validated
    refine (if_neg hv).trans ((if_neg huc').trans ((if_neg hprov).trans ?_))
    cases plainOtaUrl (req.cmd.text past) <;> rfl
  have hurl : ∀ url, plainOtaUrl (req.cmd.text past) = some url ↔
      quoted (txt "ota_url") <:+: req.cmd.text past ∧
        ∃ w, FirstHttps (req.cmd.text past) w ∧ url = w.take 199 := by
    intro url
    rw [plainOtaUrl, ← hkey, ← httpsUrl_iff]
    split_ifs with hk <;> simp [hk]
  cases hp : plainOtaUrl (req.cmd.text past) with
  | none =>
    rw [hp] at hrun
    refine iff_of_false (not_urlKept hrun (by simp) rfl) ?_
    rintro ⟨-, hk, w, hw, -⟩
    have := (hurl _).mpr ⟨hk, w, hw, rfl⟩
    simp [hp] at this
  | some url =>
    rw [hp] at hrun
    obtain ⟨hk, w, hw, rfl⟩ := (hurl url).mp hp
    have hhttps : IsHttps (w.take 199) := (isHttps_take (by decide)).mpr hw.isHttps
    rw [urlKept_of_starts (w.take 199) (by rw [hrun]; exact ⟨rfl, rfl, rfl⟩)]
    constructor
    · intro h
      by_cases hu : IsHttps (decode req.url)
      · rw [if_pos hu] at h
        exact ⟨hu, hk, w, hw, h⟩
      · rw [if_neg hu] at h
        exact absurd hhttps h
    · rintro ⟨hu, -, w', hw', h⟩
      have hsame : w'.take 199 = w.take 199 :=
        Option.some.inj (((hurl _).mpr ⟨hk, w', hw', rfl⟩).symm.trans hp)
      rw [if_pos hu, ← hsame, h]

end

/-- The URL of a request is kept when the extractor of its path reads it, and only then. -/
theorem urlKept_iff (P : Platform) (past : List UInt8) (req : OtaRequest) (d : Device F)
    (hpath : OnOtaPath past req ∨ OnPlainPath past req) : UrlKept P past req d ↔
      (OnOtaPath past req ∧ KeyReadsUrl (req.cmd.text past) (decode req.url)) ∨
        (OnPlainPath past req ∧ FirstIsUrl (req.cmd.text past) (decode req.url)) := by
  have hexcl : ¬ (OnOtaPath past req ∧ OnPlainPath past req) := by
    rintro ⟨hota, hplain, -⟩
    have := hasKey_of_ucNameOf hota
    simp [IotCommandMsg.hasUc, this] at hplain
  rcases hpath with h | h
  · rw [otaPath_kept_iff h]
    have hno : ¬ OnPlainPath past req := fun hp => hexcl ⟨h, hp⟩
    simp [h, hno]
  · rw [plainPath_kept_iff h]
    have hno : ¬ OnOtaPath past req := fun ho => hexcl ⟨ho, h⟩
    simp [h, hno]

theorem keyReadsUrl_of_plain {req : OtaRequest}
    (hplain : PlainFor ucBlank (txt "ota_url") req.obj) (hne : decode req.url ≠ [])
    (hlen : (decode req.url).length ≤ 159) : KeyReadsUrl req.obj.render (decode req.url) := by
  obtain ⟨m, hm, hname, hs⟩ := req.given
  have hread := readsAs_of_plain ucBlank_quote ucBlank_scalar (by decide +kernel) hplain hm hname hs
  unfold KeyReadsUrl
  split_ifs with hu
  · exact ⟨_, hread, List.take_of_length_le hlen⟩
  · exact ⟨_, hread, hne, hu⟩

/-- A `plt.ota` command without look-alikes, its URL not empty and at most 159 bytes, starts with
its URL, or is denied. -/
theorem plain_urlKept {P : Platform} {past : List UInt8} {req : OtaRequest} (d : Device F)
    (htext : req.cmd.text past = req.obj.render) {m : Member} (hm : m ∈ req.obj.members)
    (hname : m.name = txt "uc") (hs : m.value = .str (plainString (txt "plt.ota")))
    (huc : PlainFor ucBlank (txt "uc") req.obj) (hplain : PlainFor ucBlank (txt "ota_url") req.obj)
    (hne : decode req.url ≠ []) (hlen : (decode req.url).length ≤ 159) :
    UrlKept P past req d := by
  have hdec : decode (plainString (txt "plt.ota")) = txt "plt.ota" := by decide +kernel
  have hota : OnOtaPath past req := by
    rw [OnOtaPath, htext, ← hdec]
    exact ucNameOf_of_plain huc hm hname hs (by decide +kernel) (by decide +kernel)
  rw [otaPath_kept_iff hota, htext]
  exact keyReadsUrl_of_plain hplain hne hlen

def otaCommand : OtaRequest where
  obj := tightObject [tight (txt "uc") (.str (plainString (txt "plt.ota"))),
    tight (txt "ota_url") (.str (plainString (txt "https://host/fw.bin")))] (by decide +kernel)
  unescaped := by decide +kernel
  url := plainString (txt "https://host/fw.bin")
  given := by decide +kernel
  cmd := mqttEvent (txt
    "\x7b\"uc\":\"plt.ota\",\"ota_url\":\"https://host/fw.bin\"\x7d")
  payload := by decide +kernel
  validated := by decide +kernel

theorem otaCommand_urlKept : UrlKept hostPlatform [] otaCommand
    (appMain hostPlatform .energy false none : Device ℚ) := by
  have hpath : OnOtaPath [] otaCommand := by
    unfold OnOtaPath
    decide +kernel
  have htext : otaCommand.cmd.text [] = otaCommand.obj.render := by decide +kernel
  refine (urlKept_iff hostPlatform [] otaCommand _ (Or.inl hpath)).mpr (Or.inl ⟨hpath, ?_⟩)
  rw [htext]
  exact keyReadsUrl_of_plain (by decide +kernel) (by decide +kernel) (by decide +kernel)

def httpCommand : OtaRequest where
  obj := tightObject [tight (txt "ota_url") (.str (plainString (txt "http://host/fw.bin")))]
    (by decide +kernel)
  unescaped := by decide +kernel
  url := plainString (txt "http://host/fw.bin")
  given := by decide +kernel
  cmd := mqttEvent (txt "\x7b\"ota_url\":\"http://host/fw.bin\"\x7d")
  payload := by decide +kernel
  validated := by decide +kernel

theorem httpCommand_not_urlKept : OnPlainPath [] httpCommand ∧ ¬ UrlKept hostPlatform []
    httpCommand (appMain hostPlatform .energy false none : Device ℚ) := by
  have hpath : OnPlainPath [] httpCommand := by
    unfold OnPlainPath
    decide +kernel
  refine ⟨hpath, ?_⟩
  unfold UrlKept
  decide +kernel

end IotPlatform
