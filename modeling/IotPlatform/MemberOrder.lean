import IotPlatform.Firmware
import IotPlatform.JsonRequests
import IotPlatform.Routes

/-!
# Commands whose members are written in another order

Searches for a key do not see where its member stands, as long as nothing else spells the key.
The test of the third byte and the search for the first `https://` text do.
-/
namespace IotPlatform
open CText CFloat KeySearch FlatJson

/-- The object with its members in another order. -/
def reorder (o : Object) {ms : List Member} (h : o.members.Perm ms) : Object where
  lead := o.lead
  inner := o.inner
  members := ms
  trail := o.trail
  distinct := (h.map Member.name).nodup_iff.mp o.distinct

section
variable {o : Object} {ms : List Member} (h : o.members.Perm ms)

theorem render_head : o.render.head? = (reorder o h).render.head? := by
  simp only [Object.render, reorder]
  cases o.lead.1 <;> rfl

theorem length_renderRest (ms : List Member) :
    (renderRest ms).length = (ms.map fun m => m.render.length + 1).sum := by
  simp [renderRest, List.length_flatMap]

theorem length_renderMembers (ms : List Member) :
    (renderMembers ms).length = (renderRest ms).length - 1 := by
  cases ms with
  | nil => rfl
  | cons m ms => simp [renderMembers, renderRest]

theorem render_length : o.render.length = (reorder o h).render.length := by
  have hrest : (renderRest o.members).length = (renderRest ms).length := by
    rw [length_renderRest, length_renderRest]
    exact (h.map _).sum_eq
  simp [Object.render, Object.close, reorder, length_renderMembers, hrest]

theorem Clean.reorder {key : Text} (hclean : Clean key o) : Clean key (reorder o h) :=
  fun m hm => hclean m (h.mem_iff.mpr hm)

theorem hasKey_reorder {key : Text} (hkey : IsWord key) (hcap : key.length + 2 < 48) :
    iotUcJsonHasKey o.render key = iotUcJsonHasKey (reorder o h).render key := by
  rw [iotUcJsonHasKey, iotUcJsonHasKey, snprintf_quoted hcap, Bool.eq_iff_iff,
    Object.mentions_iff hkey, Object.mentions_iff hkey]
  exact exists_congr fun m => and_congr_left fun _ => h.mem_iff

/-- Behind a clean key stands the same member in either order, or none. -/
theorem field_reorder {key : Text} (hkey : IsWord key) {patCap : ℕ}
    (hcap : key.length + 2 < patCap) (hclean : Clean key o) :
    (fieldAfter patCap o.render key = none ∧ fieldAfter patCap (reorder o h).render key = none) ∨
      ∃ (m : Member) (b b' : UInt8) (t t' : Text),
        isScalarByte b = false ∧ isScalarByte b' = false ∧
        fieldAfter patCap o.render key = some (m.field ++ b :: t) ∧
        fieldAfter patCap (reorder o h).render key = some (m.field ++ b' :: t') := by
  by_cases hm : ∃ m ∈ o.members, raw m.key = key
  · obtain ⟨m, hm, hraw⟩ := hm
    obtain ⟨b, t, hb, hf⟩ := fieldAfter_of_mem hkey hclean hcap hm hraw
    obtain ⟨b', t', hb', hf'⟩ :=
      fieldAfter_of_mem hkey (hclean.reorder h) hcap (h.mem_iff.mp hm) hraw
    exact Or.inr ⟨m, b, b', t, t', hb, hb', hf, hf'⟩
  · have habs : ∀ m ∈ o.members, raw m.key ≠ key := fun m hmem hraw => hm ⟨m, hmem, hraw⟩
    exact Or.inl ⟨fieldAfter_of_absent hkey hclean hcap habs,
      fieldAfter_of_absent hkey (hclean.reorder h) hcap
        fun m hmem => habs m (h.mem_iff.mpr hmem)⟩

theorem fieldText_reorder {key : Text} (hkey : IsWord key) {patCap cap : ℕ}
    (hcap : key.length + 2 < patCap) (hclean : Clean key o) {isBlank : UInt8 → Bool}
    (hq : isBlank quote = false) (hs : ∀ b, isScalarByte b = true → isBlank b = false) :
    fieldText patCap isBlank cap o.render key =
      fieldText patCap isBlank cap (reorder o h).render key := by
  rcases field_reorder h hkey hcap hclean with ⟨hf, hf'⟩ | ⟨m, b, b', t, t', -, -, hf, hf'⟩
  · simp only [fieldText, hf, hf']
  · simp only [fieldText, hf, hf', Option.bind_some, quotedValue_field hq hs]

theorem num_reorder {key : Text} (hkey : IsWord key) (hcap : key.length + 2 < 48)
    (hclean : Clean key o) :
    iotUcJsonNum o.render key = iotUcJsonNum (reorder o h).render key := by
  rcases field_reorder h hkey hcap hclean with ⟨hf, hf'⟩ | ⟨m, b, b', t, t', hb, hb', hf, hf'⟩
  · simp only [iotUcJsonNum, hf, hf']
  · simp only [iotUcJsonNum, hf, hf', Option.map_some, strtod_field m hb, strtod_field m hb']

/-- The search is for a word that fits its pattern buffer; all searches of the firmware are. -/
def Lookup.Proper : Lookup → Prop
  | .has key | .num key | .str key _ => IsWord key ∧ key.length + 2 < 48
  | .extract key _ => IsWord key ∧ key.length + 2 < 32
  | .mention word => IsWord word
  | .head | .longer _ => True

instance : DecidablePred Lookup.Proper
  | .has _ | .num _ | .str _ _ | .extract _ _ => inferInstanceAs (Decidable (_ ∧ _))
  | .mention word => inferInstanceAs (Decidable (IsWord word))
  | .head | .longer _ => inferInstanceAs (Decidable True)

/-- Nothing else in the object spells the key that is read. -/
def Lookup.CleanIn (o : Object) : Lookup → Prop
  | .num key | .str key _ | .extract key _ => Clean key o
  | _ => True

instance (o : Object) : DecidablePred (Lookup.CleanIn o)
  | .num key | .str key _ | .extract key _ => inferInstanceAs (Decidable (Clean key o))
  | .has _ | .mention _ | .head | .longer _ => inferInstanceAs (Decidable True)

theorem reads_proper (id : IotUcId) : ∀ l ∈ reads id, l.Proper := by
  cases id <;> decide +kernel

theorem uc_proper : (Lookup.has (txt "uc")).Proper := by decide +kernel

theorem Lookup.same_reorder {l : Lookup} (hl : l.Proper) (hclean : l.CleanIn o) :
    l.Same o.render (reorder o h).render := by
  cases l with
  | has key => exact hasKey_reorder h hl.1 hl.2
  | num key => exact num_reorder h hl.1 hl.2 hclean
  | str key n => exact fieldText_reorder h hl.1 hl.2 hclean ucBlank_quote ucBlank_scalar
  | extract key n =>
    exact fieldText_reorder h hl.1 hl.2 hclean (by decide) (by decide +kernel)
  | mention word =>
    have hinfix : word <:+: o.render ↔ word <:+: (reorder o h).render := by
      rw [Object.infix_iff hl, Object.infix_iff hl]
      exact exists_congr fun m => and_congr_left fun _ => h.mem_iff
    exact Bool.eq_iff_iff.mpr ((strstr_isSome.trans hinfix).trans strstr_isSome.symm)
  | head => exact render_head h
  | longer n => simp only [Lookup.Same, render_length h]

theorem enqueued_render (opcode : UInt16) (hlen : o.render.length ≤ 255) (past : List UInt8) :
    (enqueued opcode o.render).text past = o.render := by
  have hfit : o.render.length < iotJsonSmallLen := Nat.lt_succ_of_le hlen
  exact (cstr_padTo hfit past).trans (cstr_of_notMem o.zero_notMem)

theorem validate_reorder (opcode : UInt16) :
    iotSecurityValidateCommand (enqueued opcode o.render) =
      iotSecurityValidateCommand (enqueued opcode (reorder o h).render) := by
  have hhead : (enqueued opcode o.render).payload.headD 0 =
      (enqueued opcode (reorder o h).render).payload.headD 0 := by
    simp only [enqueued, headD_padTo (show 0 < iotJsonSmallLen by decide),
      List.headD_eq_head?_getD, render_head h]
  have hlen : (enqueued opcode o.render).payloadLen =
      (enqueued opcode (reorder o h).render).payloadLen := by
    simp only [enqueued, render_length h]
  exact iotSecurityValidateCommand_congr rfl hhead (by rw [hlen]) (by rw [hlen])

variable {F : Type} [CFloat F]

/-- Two orders of the members of an object are the same command when validation rejects them, or
when every search on their way is answered alike. -/
theorem handleCommand_reorder (P : Platform) (past : List UInt8) (opcode : UInt16) (d : Device F)
    (hsame : iotSecurityValidateCommand (enqueued opcode o.render) ≠ .ok ∨
      BusSame past (enqueued opcode o.render) past (enqueued opcode (reorder o h).render)) :
    iotServicesHandleCommand P past (enqueued opcode o.render) d =
      iotServicesHandleCommand P past (enqueued opcode (reorder o h).render) d := by
  have hv := validate_reorder h opcode
  rcases hsame with hrej | hbus
  · rw [iotServicesHandleCommand_rejected hrej, iotServicesHandleCommand_rejected (hv ▸ hrej), hv]
  · exact iotServicesHandleCommand_congr P d hv hbus

/-- A use-case command whose keys nothing else spells is such a command. -/
theorem busSame_reorder {opcode : UInt16} {past : List UInt8} (hlen : o.render.length ≤ 255)
    (huc : (Lookup.str (txt "uc") 48).CleanIn o) (hkey : iotUcJsonHasKey o.render (txt "uc") = true)
    (hreads : ∀ name ∈ ucNameOf o.render, ∀ l ∈ reads (iotUcIdFromName name), l.CleanIn o) :
    BusSame past (enqueued opcode o.render) past (enqueued opcode (reorder o h).render) := by
  have hlen' : (reorder o h).render.length ≤ 255 := render_length h ▸ hlen
  have hname : ucNameOf o.render = ucNameOf (reorder o h).render := by
    have hstr : iotUcJsonStr o.render (txt "uc") 48 =
        iotUcJsonStr (reorder o h).render (txt "uc") 48 :=
      fieldText_reorder h uc_proper.1 uc_proper.2 huc ucBlank_quote ucBlank_scalar
    simp only [ucNameOf, hstr]
  unfold BusSame
  simp only [enqueued_render opcode hlen past, enqueued_render opcode hlen' past, hkey, if_true]
  exact ⟨hasKey_reorder h uc_proper.1 uc_proper.2, hname,
    fun name hn l hl => Lookup.same_reorder h (reads_proper _ l hl) (hreads name hn l hl)⟩

theorem busSame_reorder_provision {past : List UInt8} (hlen : o.render.length ≤ 255)
    (hno : iotUcJsonHasKey o.render (txt "uc") = false)
    (hclean : ∀ l ∈ provisioningReads, l.CleanIn o) :
    BusSame past (enqueued 0xFF01 o.render) past (enqueued 0xFF01 (reorder o h).render) := by
  have hlen' : (reorder o h).render.length ≤ 255 := render_length h ▸ hlen
  have hproper : ∀ l ∈ provisioningReads, l.Proper := fun l hl =>
    reads_proper .pltProvision l (List.mem_cons_of_mem _ (List.mem_cons_of_mem _ hl))
  have hprov : ∀ t, (enqueued 0xFF01 t).IsProvisioning := fun _ => Or.inl rfl
  have hlong : (enqueued 0xFF01 o.render).payloadLen =
      (enqueued 0xFF01 (reorder o h).render).payloadLen := by
    simp only [enqueued, render_length h]
  unfold BusSame
  simp only [enqueued_render 0xFF01 hlen past, enqueued_render 0xFF01 hlen' past, hno, hprov,
    hlong, Bool.false_eq_true, if_false, if_true, true_and]
  exact ⟨hasKey_reorder h uc_proper.1 uc_proper.2,
    fun l hl => Lookup.same_reorder h (hproper l hl) (hclean l hl)⟩

end

def setLimits : Object :=
  tightObject [tight (txt "over_w") (.scalar ⟨txt "2000", by decide +kernel⟩),
    tight (txt "uc") (.str (plainString (txt "energy.set_limits"))),
    tight (txt "over_i") (.scalar ⟨txt "8.5", by decide +kernel⟩)] (by decide +kernel)

theorem setLimits_reorder :
    iotServicesHandleCommand hostPlatform [] (enqueued 0x4D51 setLimits.render)
        (appMain hostPlatform .energy false none : Device ℚ) =
      iotServicesHandleCommand hostPlatform []
        (enqueued 0x4D51 (reorder setLimits (List.reverse_perm _).symm).render)
        (appMain hostPlatform .energy false none : Device ℚ) := by
  have hreads : ∀ name ∈ ucNameOf setLimits.render,
      ∀ l ∈ reads (iotUcIdFromName name), l.CleanIn setLimits := by decide +kernel
  exact handleCommand_reorder (List.reverse_perm _).symm hostPlatform [] 0x4D51 _
    (Or.inr (busSame_reorder _ (by decide +kernel) (by decide +kernel) (by decide +kernel) hreads))

def ssidFirst : Object :=
  tightObject [tight (txt "ssid") (.str (plainString (txt "home"))),
    tight (txt "pass") (.str (plainString (txt "secret12")))] (by decide +kernel)

/-- With the password first it is not provisioning. -/
theorem ssidFirst_order_matters :
    iotServicesHandleCommand hostPlatform [] (enqueued 0x4D51 ssidFirst.render)
        (appMain hostPlatform .energy false none : Device ℚ) ≠
      iotServicesHandleCommand hostPlatform []
        (enqueued 0x4D51 (reorder ssidFirst (List.reverse_perm _).symm).render)
        (appMain hostPlatform .energy false none : Device ℚ) := by
  intro h
  have hssid := congrArg (fun r => r.2.sys.cfg.cfg.wifiSsid.text) h
  revert hssid
  decide +kernel

end IotPlatform
