import IotPlatform.Firmware
import IotPlatform.JsonRequests

/-!
# What provisioning stores

A provisioning request names up to five fields of the stored configuration. The extractor looks
for each key by its first quoted occurrence and copies what follows up to the next quote.
-/
namespace IotPlatform
open CText KeySearch FlatJson

/-- An object of string members, no longer than provisioning reads. -/
structure ProvisionRequest extends Object where
  strings : ∀ m ∈ members, ∃ s, m.value = .str s
  short : toObject.render.length ≤ 512

/-- The string a member stands for, if it has the name. -/
def stringNamed (name : Text) (m : Member) : Option Text :=
  match m.value with
  | .str s => if m.name = name then some (decode s) else none
  | .scalar _ => none

/-- The string that the member of a name stands for. -/
def stringAt (o : Object) (name : Text) : Option Text := o.members.findSome? (stringNamed name)

/-- A field of the configuration, with the key it is sent under. -/
structure ProvField where
  key : Text
  cap : ℕ
  get : RuntimeCfg → Text

def provFields : List ProvField :=
  [⟨txt "ssid", 33, fun c => c.wifiSsid.text⟩, ⟨txt "pass", 65, fun c => c.wifiPass.text⟩,
    ⟨txt "mqtt", 128, fun c => c.mqttUri.text⟩, ⟨txt "user", 64, fun c => c.mqttUser.text⟩,
    ⟨txt "mpw", 64, fun c => c.mqttPass.text⟩]

theorem provFields_keys : ∀ f ∈ provFields, IsWord f.key ∧ f.key.length + 2 < 32 := by
  decide +kernel

/-- What `iot_config_load` hands out. -/
def storedCfg (P : Platform) (s : SysSt) : RuntimeCfg := (iotConfigLoad P zeroCfg s.cfg).2.1

/-- A C string of the value fits into `cap` bytes. -/
def Fits (cap : ℕ) (v : Text) : Prop := v.length < cap ∧ (0 : UInt8) ∉ v

/-- Every value that is sent fits its field, and a network name is sent. -/
def Acceptable (o : Object) : Prop :=
  (∀ f ∈ provFields, ∀ v ∈ stringAt o f.key, Fits f.cap v) ∧ ∃ v ∈ stringAt o (txt "ssid"), v ≠ []

instance (cap : ℕ) (v : Text) : Decidable (Fits cap v) := inferInstanceAs (Decidable (_ ∧ _))

instance (o : Object) : Decidable (Acceptable o) :=
  inferInstanceAs (Decidable ((∀ f ∈ provFields, ∀ v ∈ stringAt o f.key, Fits f.cap v) ∧
    ∃ v ∈ stringAt o (txt "ssid"), v ≠ []))

/-- What the field is to hold after the request: the value sent, or what it held. -/
def ProvField.wanted (f : ProvField) (P : Platform) (o : Object) (s : SysSt) : Text :=
  (stringAt o f.key).getD (f.get (storedCfg P s))

/-- An acceptable request is stored as it was sent, any other is refused and stores nothing. -/
structure StoresExactly (P : Platform) (o : Object) (s : SysSt) : Prop where
  stored : Acceptable o → (iotProvisionApplyJson P o.render o.render.length s).1 = .ok ∧
    ∀ f ∈ provFields,
      f.get (storedCfg P (iotProvisionApplyJson P o.render o.render.length s).2) = f.wanted P o s
  refused : ¬ Acceptable o → (iotProvisionApplyJson P o.render o.render.length s).1 ≠ .ok ∧
    storedCfg P (iotProvisionApplyJson P o.render o.render.length s).2 = storedCfg P s

/-- Behind the first quoted key stands, cut to the field, what the field is to hold; or no string
stands there, and the field holds it already. -/
def ReadsWanted (f : ProvField) (P : Platform) (o : Object) (s : SysSt) : Prop :=
  (∃ w, ReadsAs provBlank f.key o.render w ∧ w.take (f.cap - 1) = f.wanted P o s) ∨
    ((∀ w, ¬ ReadsAs provBlank f.key o.render w) ∧ f.get (storedCfg P s) = f.wanted P o s)

theorem extractStr_iff {json key v : Text} (hkey : key.length + 2 < 32) {cap : ℕ} :
    extractStr json key cap = some v ↔
      ∃ w, ReadsAs provBlank key json w ∧ v = w.take (cap - 1) :=
  fieldText_iff hkey (by decide)

theorem extractInto_text {cap : ℕ} {json key : Text}
    (hkey : key.length + 2 < 32) (h0 : (0 : UInt8) ∉ json) (buf : CBuf cap) :
    (extractInto json key buf).text = (extractStr json key cap).getD buf.text := by
  unfold extractInto
  cases he : extractStr json key cap with
  | none => rfl
  | some v =>
    obtain ⟨w, hw, rfl⟩ := (extractStr_iff hkey).mp he
    have hv : (0 : UInt8) ∉ w.take (cap - 1) :=
      fun h => h0 (hw.subset (List.mem_of_mem_take h))
    rw [Option.getD_some, CBuf.store_text hv, List.take_take, min_self]

theorem provisionedCfg_get (P : Platform) {json : Text} (h0 : (0 : UInt8) ∉ json)
    (cfg : RuntimeCfg) : ∀ f ∈ provFields,
      f.get (provisionedCfg P json cfg) = (extractStr json f.key f.cap).getD (f.get cfg) := by
  simp only [provFields, List.forall_mem_cons, List.not_mem_nil, false_imp_iff, implies_true,
    and_true]
  refine ⟨?_, ?_, ?_, ?_, ?_⟩ <;> exact extractInto_text (by decide) h0 _

/-- What was saved is loaded again, where NVS works. -/
theorem load_save_get {P : Platform} (hP : NvsWorks P) {st : CfgStore} (hr : st.ready = true)
    (c : RuntimeCfg) : ∀ f ∈ provFields,
      f.get (iotConfigLoad P zeroCfg (iotConfigSave P c st).2).2.1 = f.get c := by
  rcases hP with hb | ⟨hread, hwrite, hset, hcommit⟩
  · intro f _
    simp [iotConfigLoad, iotConfigSave, hr, hb, nvsReadable]
  · cases hb : P.build with
    | host =>
      intro f _
      simp [iotConfigLoad, iotConfigSave, hr, hb, nvsReadable]
    | target =>
      simp [provFields, iotConfigLoad, iotConfigSave, hr, hb, nvsReadable, hread, hwrite,
        readImage, writeImage, hcommit, nvsPut, hset]

section
variable {P : Platform} {s : SysSt} {o : Object}

theorem render_length_pos (o : Object) : 0 < o.render.length := by
  simp [Object.render]

theorem provision_saves (hP : NvsWorks P) (hr : s.cfg.ready = true)
    (hshort : o.render.length ≤ 512) :
    (iotProvisionApplyJson P o.render o.render.length s).1 = .ok ∧ ∀ f ∈ provFields,
      f.get (storedCfg P (iotProvisionApplyJson P o.render o.render.length s).2) =
        (extractStr o.render f.key f.cap).getD (f.get (storedCfg P s)) := by
  have hlen : ¬ (o.render.length = 0 ∨ 512 < o.render.length) := by
    have := render_length_pos o
    omega
  have hr' : (iotConfigLoad P zeroCfg s.cfg).2.2.ready = true :=
    (iotConfigLoad_ready P zeroCfg s.cfg).trans hr
  simp only [iotProvisionApplyJson, if_neg hlen]
  refine ⟨(iotConfigSave_ok _ hr' hP.saveOpens).1, fun f hf => ?_⟩
  rw [← provisionedCfg_get P o.zero_notMem (storedCfg P s) f hf]
  exact load_save_get hP hr' _ f hf

theorem getD_extractStr_iff {f : ProvField} (hf : f ∈ provFields) :
    (extractStr o.render f.key f.cap).getD (f.get (storedCfg P s)) = f.wanted P o s ↔
      ReadsWanted f P o s := by
  have hkey := (provFields_keys f hf).2
  have hiff : ∀ v, extractStr o.render f.key f.cap = some v ↔
      ∃ w, ReadsAs provBlank f.key o.render w ∧ v = w.take (f.cap - 1) :=
    fun _ => extractStr_iff hkey
  cases he : extractStr o.render f.key f.cap with
  | none =>
    have hno : ∀ w, ¬ ReadsAs provBlank f.key o.render w := by
      intro w hw
      have := (hiff _).mpr ⟨w, hw, rfl⟩
      simp [he] at this
    simp [ReadsWanted, hno]
  | some v =>
    obtain ⟨w, hw, rfl⟩ := (hiff v).mp he
    have hone : ∀ w', ReadsAs provBlank f.key o.render w' →
        w'.take (f.cap - 1) = w.take (f.cap - 1) := by
      intro w' hw'
      exact Option.some.inj (((hiff _).mpr ⟨w', hw', rfl⟩).symm.trans he)
    constructor
    · exact fun h => Or.inl ⟨w, hw, h⟩
    · rintro (⟨w', hw', h⟩ | ⟨hno, -⟩)
      · exact (hone w' hw').symm.trans h
      · exact absurd hw (hno w)

end

section
variable {P : Platform} (hP : NvsWorks P) {s : SysSt} (hr : s.cfg.ready = true)
  (req : ProvisionRequest)
include hP hr

theorem storesExactly_of_reads (hacc : Acceptable req.toObject)
    (hreads : ∀ f ∈ provFields, ReadsWanted f P req.toObject s) :
    StoresExactly P req.toObject s := by
  obtain ⟨hok, hget⟩ := provision_saves hP hr req.short
  refine ⟨fun _ => ⟨hok, fun f hf => ?_⟩, fun hn => absurd hacc hn⟩
  rw [hget f hf]
  exact (getD_extractStr_iff hf).mpr (hreads f hf)

/-- Provisioning stores exactly what was sent when the request is acceptable and behind the first
quoted occurrence of each key stands what its field is to hold, and not otherwise. -/
theorem provision_storesExactly_iff : StoresExactly P req.toObject s ↔
    Acceptable req.toObject ∧ ∀ f ∈ provFields, ReadsWanted f P req.toObject s := by
  constructor
  · intro h
    obtain ⟨hok, hget⟩ := provision_saves hP hr req.short
    have hacc : Acceptable req.toObject := by
      by_contra hn
      exact (h.refused hn).1 hok
    refine ⟨hacc, fun f hf => (getD_extractStr_iff hf).mp ?_⟩
    rw [← hget f hf]
    exact (h.stored hacc).2 f hf
  · rintro ⟨hacc, hreads⟩
    exact storesExactly_of_reads hP hr req hacc hreads

end

theorem stringNamed_ne {name : Text} {m : Member} (h : m.name ≠ name) :
    stringNamed name m = none := by
  unfold stringNamed
  cases m.value with
  | str s => exact if_neg h
  | scalar lit => rfl

theorem stringAt_of_mem {o : Object} {m : Member} {s : JString} (hm : m ∈ o.members)
    (hs : m.value = .str s) : stringAt o m.name = some (decode s) := by
  obtain ⟨before, behind, hms⟩ := List.append_of_mem hm
  have hnone : before.findSome? (stringNamed m.name) = none :=
    List.findSome?_eq_none_iff.mpr fun x hx => stringNamed_ne (Object.name_ne hms hx)
  simp [stringAt, hms, List.findSome?_append, hnone, stringNamed, hs]

theorem stringAt_of_absent {o : Object} {name : Text} (h : ∀ m ∈ o.members, m.name ≠ name) :
    stringAt o name = none :=
  List.findSome?_eq_none_iff.mpr fun m hm => stringNamed_ne (h m hm)

theorem readsWanted_of_plain {P : Platform} {s : SysSt} (req : ProvisionRequest) {f : ProvField}
    (hf : f ∈ provFields) (hplain : PlainFor provBlank f.key req.toObject)
    (hfit : ∀ v ∈ stringAt req.toObject f.key, Fits f.cap v) :
    ReadsWanted f P req.toObject s := by
  have hkey := (provFields_keys f hf).1
  have hq : provBlank quote = false := by decide
  by_cases h : ∃ m ∈ req.members, m.name = f.key
  · obtain ⟨m, hm, hname⟩ := h
    obtain ⟨v, hv⟩ := req.strings m hm
    have hstr : stringAt req.toObject f.key = some (decode v) := hname ▸ stringAt_of_mem hm hv
    have hlen : (decode v).length < f.cap := (hfit _ hstr).1
    refine Or.inl ⟨decode v,
      readsAs_of_plain hq (by decide +kernel) hkey hplain hm hname hv, ?_⟩
    rw [List.take_of_length_le (by omega), ProvField.wanted, hstr, Option.getD_some]
  · have habs : ∀ m ∈ req.members, m.name ≠ f.key := fun m hm hn => h ⟨m, hm, hn⟩
    refine Or.inr ⟨not_readsAs_of_absent hq hkey hplain.1 habs, ?_⟩
    rw [ProvField.wanted, stringAt_of_absent habs, Option.getD_none]

theorem plain_storesExactly {P : Platform} (hP : NvsWorks P) {s : SysSt}
    (hr : s.cfg.ready = true) (req : ProvisionRequest) (hacc : Acceptable req.toObject)
    (hplain : ∀ f ∈ provFields, PlainFor provBlank f.key req.toObject) :
    StoresExactly P req.toObject s :=
  storesExactly_of_reads hP hr req hacc
    fun f hf => readsWanted_of_plain req hf (hplain f hf) (hacc.1 f hf)

def bootedSys : SysSt := (appMain hostPlatform .energy false none : Device ℚ).sys

def homeRequest : ProvisionRequest where
  toObject := tightObject [tight (txt "ssid") (.str (plainString (txt "home")))]
    (by decide +kernel)
  strings := by
    intro m hm
    obtain rfl := List.mem_singleton.mp hm
    exact ⟨_, rfl⟩
  short := by decide +kernel

theorem homeRequest_storesExactly : StoresExactly hostPlatform homeRequest.toObject bootedSys := by
  refine (provision_storesExactly_iff hostPlatform_nvsWorks (by decide +kernel) homeRequest).mpr
    ⟨by decide +kernel, fun f hf => readsWanted_of_plain homeRequest hf ?_ ?_⟩
  · revert f
    decide +kernel
  · revert f
    decide +kernel

/-- The value of `pass` looks like the key of the network name. -/
def lookAlike : ProvisionRequest where
  toObject :=
    tightObject [tight (txt "pass") (.str (plainString (txt "ssid"))),
      tight (txt "user") (.str (plainString (txt "bob"))),
      tight (txt "ssid") (.str (plainString (txt "home")))] (by decide +kernel)
  strings := by
    intro m hm
    rcases List.mem_cons.mp hm with rfl | hm
    · exact ⟨_, rfl⟩
    · rcases List.mem_cons.mp hm with rfl | hm
      · exact ⟨_, rfl⟩
      · obtain rfl := List.mem_singleton.mp hm
        exact ⟨_, rfl⟩
  short := by decide +kernel

theorem lookAlike_not_storesExactly :
    ¬ StoresExactly hostPlatform lookAlike.toObject bootedSys := by
  intro h
  have hstored := (h.stored (by decide +kernel)).2
  revert hstored
  decide +kernel

end IotPlatform
