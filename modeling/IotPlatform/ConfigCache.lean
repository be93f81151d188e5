import IotPlatform.Config
import IotPlatform.Runs

/-!
# The cached configuration and the one in NVS

On the target `iot_config_save` writes NVS and then the cache, and `iot_config_load` reads NVS and
then writes the cache. The results of the single NVS writes are dropped, and the lock is taken for
the cache only.
-/
namespace IotPlatform
open CText Runs

/-- The same platform on which `nvs_open(..., NVS_READONLY, ...)` answers otherwise. -/
def Platform.reading (P : Platform) (code : ℤ) : Platform := { P with nvsOpenRead := code }

/-- Every `nvs_set_*` and the commit succeed. -/
def AllStored (P : Platform) : Prop := (∀ k, P.nvsSet k = true) ∧ P.nvsCommit = true

/-- Success means that every field is stored, and loaded again however NVS opens; anything else is
an error that leaves the cache alone. -/
def SaveTruthful (P : Platform) (c : RuntimeCfg) (st : CfgStore) : Prop :=
  ((iotConfigSave P c st).1 = .ok → AllStored P ∧
    ∀ code out, (iotConfigLoad (P.reading code) out (iotConfigSave P c st).2).2.1 = c) ∧
  (¬ AllStored P → (iotConfigSave P c st).1 ≠ .ok) ∧
  ((iotConfigSave P c st).1 ≠ .ok → (iotConfigSave P c st).2.cfg = st.cfg)

theorem toUInt8_toUInt32 {n : UInt32} : n.toUInt8.toUInt32 = n ↔ n < 256 := by
  rw [UInt32.lt_iff_toNat_lt, ← UInt32.toNat_inj]
  have h := n.toNat_lt
  simp only [UInt8.toNat_toUInt32, UInt32.toNat_toUInt8, UInt32.reduceToNat]
  omega

/-- The byte that NVS keeps for the cloud provider holds every value of the enumeration. -/
theorem readImage_writeImage_iff {P : Platform} (h : AllStored P) (old : NvsImage)
    (c : RuntimeCfg) : readImage (writeImage P old c) = c ↔ c.cloud < 256 := by
  obtain ⟨hset, hcommit⟩ := h
  rw [← toUInt8_toUInt32]
  have hread : readImage (writeImage P old c) = { c with cloud := c.cloud.toUInt8.toUInt32 } := by
    cases hp : c.provisioned <;> simp [readImage, writeImage, nvsPut, hset, hcommit, hp]
  rw [hread]
  constructor
  · exact congrArg RuntimeCfg.cloud
  · intro hc
    rw [hc]

section
variable {P : Platform} {c : RuntimeCfg} {st : CfgStore}

theorem iotConfigSave_target (hb : P.build = .target) (hr : st.ready = true)
    (hw : P.nvsOpenWrite = 0) : iotConfigSave P c st = (.ok, { st with
      cfg := c, nvs := some (writeImage P (st.nvs.getD NvsImage.empty) c) }) := by
  simp [iotConfigSave, hb, hr, hw]

theorem load_after_save_iff (hb : P.build = .target) (hr : st.ready = true)
    (hw : P.nvsOpenWrite = 0) (h : AllStored P) :
    (∀ code out, (iotConfigLoad (P.reading code) out (iotConfigSave P c st).2).2.1 = c) ↔
      c.cloud < 256 := by
  rw [iotConfigSave_target hb hr hw, ← readImage_writeImage_iff h (st.nvs.getD NvsImage.empty) c]
  constructor
  · intro hload
    simpa [iotConfigLoad, hr, nvsReadable, Platform.reading, hb] using hload 0 zeroCfg
  · intro hread code out
    -- an NVS that does not open leaves the cache to be read
    by_cases hc : code = 0 <;>
      simp [iotConfigLoad, hr, nvsReadable, Platform.reading, hb, hc, hread]

/-- On the target a save tells the truth exactly when it is refused at once, or every write
succeeds and the cloud provider fits its byte. -/
theorem iotConfigSave_truthful_iff (hb : P.build = .target) (c : RuntimeCfg) (st : CfgStore) :
    SaveTruthful P c st ↔
      st.ready = false ∨ P.nvsOpenWrite ≠ 0 ∨ AllStored P ∧ c.cloud < 256 := by
  by_cases hopen : st.ready = true ∧ SaveOpens P
  · obtain ⟨hr, ho⟩ := hopen
    have hw : P.nvsOpenWrite = 0 := by
      rcases ho with h | h
      · simp [hb] at h
      · exact h
    have herr : (iotConfigSave P c st).1 = .ok := by rw [iotConfigSave_target hb hr hw]
    simp only [hr, hw, Bool.true_eq_false, ne_eq, not_true_eq_false, false_or]
    constructor
    · rintro ⟨hok, -, -⟩
      obtain ⟨hall, hload⟩ := hok herr
      exact ⟨hall, (load_after_save_iff hb hr hw hall).mp hload⟩
    · rintro ⟨hall, hcloud⟩
      exact ⟨fun _ => ⟨hall, (load_after_save_iff hb hr hw hall).mpr hcloud⟩,
        fun hn => absurd hall hn, fun hn => absurd herr hn⟩
  · obtain ⟨herr, hst⟩ := iotConfigSave_fail c hopen
    refine iff_of_true ⟨fun hok => absurd hok herr, fun _ => herr, fun _ => by rw [hst]⟩ ?_
    cases hr : st.ready with
    | false => exact Or.inl rfl
    | true => exact Or.inr (Or.inl fun hw => hopen ⟨hr, Or.inr hw⟩)

end

/-- The target build on which only `nvs_set_*` can fail. -/
def writingPlatform (set : NvsKey → Bool) : Platform :=
  { hostPlatform with build := .target, nvsSet := set }

/-- The store that `iot_config_init` leaves on a device whose NVS is empty. -/
def freshStore : CfgStore := (iotConfigInit ⟨false, zeroCfg, none⟩).2

/-- What a commissioning app stores. -/
def homeCfg : RuntimeCfg :=
  { iotConfigSetDefaults with
    wifiSsid := CBuf.store 33 (txt "home")
    wifiPass := CBuf.store 65 (txt "secret")
    samplePeriodMs := 250
    cloud := 2 }

theorem home_save_truthful : SaveTruthful (writingPlatform fun _ => true) homeCfg freshStore :=
  (iotConfigSave_truthful_iff rfl homeCfg freshStore).mpr
    (Or.inr (Or.inr ⟨⟨fun _ => rfl, rfl⟩, by decide⟩))

/-- A save whose password was not stored reports success. -/
theorem unsaved_password_reported_ok :
    ¬ SaveTruthful (writingPlatform fun k => k ≠ .wifiPass) zeroCfg freshStore := by
  rintro ⟨-, herr, -⟩
  refine herr (fun h => ?_) rfl
  exact absurd (h.1 .wifiPass) (by decide)

/-- A call between its NVS step and its cache step: the configuration that it is about to store,
and the number of NVS writes when it took its NVS step. -/
structure PendingCall where
  cfg : RuntimeCfg
  since : ℕ

/-- The store with the calls in progress, one for each task `T`, and the number of NVS writes. -/
structure CfgCalls (T : Type) where
  store : CfgStore
  call : T → Option PendingCall
  writes : ℕ

/-- The NVS step of a load, the NVS step of a save, and the step of either under `s_lock`. -/
inductive CfgStep (T : Type)
  | readNvs (t : T)
  | writeNvs (t : T) (c : RuntimeCfg)
  | storeCache (t : T)

variable {T : Type} [DecidableEq T]

/-- One step; none for a step that is not the task's next one, and for a load that finds no NVS
namespace, which only copies the cache. -/
def CfgCalls.step (P : Platform) (s : CfgCalls T) : CfgStep T → Option (CfgCalls T)
  | .readNvs t =>
    match s.call t, nvsReadable P s.store with
    | none, some img =>
      some { s with call := Function.update s.call t (some ⟨readImage img, s.writes⟩) }
    | _, _ => none
  | .writeNvs t c =>
    match s.call t with
    | none => some { s with
        store := { s.store with nvs := some (writeImage P (s.store.nvs.getD NvsImage.empty) c) }
        call := Function.update s.call t (some ⟨c, s.writes + 1⟩)
        writes := s.writes + 1 }
    | some _ => none
  | .storeCache t =>
    match s.call t with
    | some p => some { s with
        store := { s.store with cfg := p.cfg }
        call := Function.update s.call t none }
    | none => none

/-- The steps of a run of the calls. -/
abbrev CfgCalls.Steps (P : Platform) (s : CfgCalls T) (a : CfgStep T) (s' : CfgCalls T) : Prop :=
  s.step P a = some s'

/-- The store before any call. -/
def CfgCalls.start (st : CfgStore) : CfgCalls T := ⟨st, fun _ => none, 0⟩

/-- With no call in progress after a save, the cache holds what NVS holds. -/
def CfgCalls.Agrees (s : CfgCalls T) : Prop :=
  (∀ t, s.call t = none) → 0 < s.writes → s.store.nvs.map readImage = some s.store.cfg

/-- The last call to store has not been overtaken by a save, and the cloud provider fits. -/
def CfgCalls.InOrder (s : CfgCalls T) : CfgStep T → Prop
  | .readNvs _ => True
  | .writeNvs _ c => c.cloud < 256
  | .storeCache t =>
    (∃ t', t' ≠ t ∧ s.call t' ≠ none) ∨ ∀ p, s.call t = some p → p.since = s.writes

/-- A call that no save has overtaken holds what NVS holds. -/
structure CfgCalls.Inv (s : CfgCalls T) : Prop where
  since_le : ∀ t p, s.call t = some p → p.since ≤ s.writes
  current : ∀ t p, s.call t = some p → p.since = s.writes →
    s.store.nvs.map readImage = some p.cfg
  agrees : s.Agrees

omit [DecidableEq T] in
theorem CfgCalls.start_inv (st : CfgStore) : (CfgCalls.start st : CfgCalls T).Inv where
  since_le := by simp [CfgCalls.start]
  current := by simp [CfgCalls.start]
  agrees := fun _ h => absurd h (Nat.lt_irrefl 0)

section
variable {P : Platform} {s s' : CfgCalls T} {t : T} {c : RuntimeCfg}

theorem step_readNvs (h : s.step P (.readNvs t) = some s') :
    ∃ img, s.store.nvs = some img ∧
      s' = { s with call := Function.update s.call t (some ⟨readImage img, s.writes⟩) } := by
  simp only [CfgCalls.step] at h
  split at h
  · next img _ hread =>
    refine ⟨img, ?_, (Option.some.inj h).symm⟩
    unfold nvsReadable at hread
    split at hread
    · simp at hread
    · split_ifs at hread
      exact hread
  · simp at h

theorem step_writeNvs (h : s.step P (.writeNvs t c) = some s') : s' = { s with
    store := { s.store with nvs := some (writeImage P (s.store.nvs.getD NvsImage.empty) c) }
    call := Function.update s.call t (some ⟨c, s.writes + 1⟩)
    writes := s.writes + 1 } := by
  simp only [CfgCalls.step] at h
  split at h
  · exact (Option.some.inj h).symm
  · simp at h

theorem step_storeCache (h : s.step P (.storeCache t) = some s') :
    ∃ p, s.call t = some p ∧ s' = { s with
      store := { s.store with cfg := p.cfg }, call := Function.update s.call t none } := by
  simp only [CfgCalls.step] at h
  split at h
  · next p hp => exact ⟨p, hp, (Option.some.inj h).symm⟩
  · simp at h

theorem lone_load {img : NvsImage} (hr : s.store.ready = true) (hidle : s.call t = none)
    (himg : nvsReadable P s.store = some img) (out : RuntimeCfg) :
    ((s.step P (.readNvs t)).bind fun s => s.step P (.storeCache t)).map CfgCalls.store =
      some (iotConfigLoad P out s.store).2.2 := by
  simp [CfgCalls.step, hidle, himg, iotConfigLoad, hr]

theorem lone_save (hb : P.build = .target) (hr : s.store.ready = true)
    (hw : P.nvsOpenWrite = 0) (hidle : s.call t = none) :
    ((s.step P (.writeNvs t c)).bind fun s => s.step P (.storeCache t)).map CfgCalls.store =
      some (iotConfigSave P c s.store).2 := by
  rw [iotConfigSave_target hb hr hw]
  simp [CfgCalls.step, hidle]

/-- A call in progress is the one that has just moved, or was in progress before. -/
theorem call_of_update {call : T → Option PendingCall} {x : Option PendingCall} {t' : T}
    {p : PendingCall} (h : Function.update call t x t' = some p) :
    x = some p ∨ call t' = some p := by
  by_cases ht : t' = t
  · subst ht
    exact Or.inl (by rwa [Function.update_self] at h)
  · exact Or.inr (by rwa [Function.update_of_ne ht] at h)

theorem CfgCalls.Inv.step (hP : AllStored P) {a : CfgStep T} (hi : s.Inv)
    (h : s.step P a = some s') (hc : s.InOrder a) : s'.Inv := by
  cases a with
  | readNvs t =>
    obtain ⟨img, himg, rfl⟩ := step_readNvs h
    refine ⟨fun t' p hp => ?_, fun t' p hp hsince => ?_, fun hidle => ?_⟩
    · rcases call_of_update hp with ⟨⟨⟩⟩ | hp
      · exact le_rfl
      · exact hi.since_le t' p hp
    · rcases call_of_update hp with ⟨⟨⟩⟩ | hp
      · simp [himg]
      · exact hi.current t' p hp hsince
    · simpa using hidle t
  | writeNvs t c =>
    obtain rfl := step_writeNvs h
    refine ⟨fun t' p hp => ?_, fun t' p hp hsince => ?_, fun hidle => ?_⟩
    · rcases call_of_update hp with ⟨⟨⟩⟩ | hp
      · exact le_rfl
      · exact (hi.since_le t' p hp).trans (Nat.le_succ _)
    · rcases call_of_update hp with ⟨⟨⟩⟩ | hp
      · exact congrArg some ((readImage_writeImage_iff hP _ c).mpr hc)
      · -- the save has overtaken every other call
        have hle := hi.since_le t' p hp
        have hsince' : p.since = s.writes + 1 := hsince
        omega
    · simpa using hidle t
  | storeCache t =>
    obtain ⟨p, hp, rfl⟩ := step_storeCache h
    have hold : ∀ t' q, Function.update s.call t none t' = some q → s.call t' = some q :=
      fun t' q hq => (call_of_update hq).resolve_left (nomatch ·)
    refine ⟨fun t' q hq => hi.since_le t' q (hold t' q hq),
      fun t' q hq => hi.current t' q (hold t' q hq), fun hidle _ => ?_⟩
    have hlast : ∀ q, s.call t = some q → q.since = s.writes := by
      refine hc.resolve_left ?_
      rintro ⟨t', ht, hbusy⟩
      exact hbusy (by simpa [Function.update_of_ne ht] using hidle t')
    exact hi.current t p hp (hlast p hp)

end

/-- In every run of overlapping loads and saves in which the last call to store has never been
overtaken by a save, the cache agrees with NVS whenever no call is in progress. -/
theorem cache_agrees_with_nvs {P : Platform} (hP : AllStored P) (st : CfgStore)
    {tr : List (CfgCalls T × CfgStep T × CfgCalls T)} {s : CfgCalls T}
    (h : Run (CfgCalls.Steps P) (.start st) tr s) (hc : ∀ e ∈ tr, e.1.InOrder e.2.1) :
    s.Agrees ∧ ∀ e ∈ tr, e.2.2.Agrees := by
  have hstep : ∀ (s : CfgCalls T) a s', s.Inv → CfgCalls.Steps P s a s' → s.InOrder a → s'.Inv :=
    fun s a s' hi hs hc => hi.step hP hs hc
  obtain ⟨hend, hall⟩ := h.invariant (C := fun s a _ => s.InOrder a) hstep
    (CfgCalls.start_inv st) hc
  exact ⟨hend.agrees, fun e he => (hall e he).2.agrees⟩

/-- Two saves overlap, and store in the order in which they wrote NVS. -/
theorem ordered_saves_agree : ∃ s : CfgCalls Bool,
    (∃ tr, Run (CfgCalls.Steps (writingPlatform fun _ => true)) (.start freshStore) tr s) ∧
      s.writes = 2 ∧ s.Agrees := by
  have hrun : Run (CfgCalls.Steps (writingPlatform fun _ => true)) (.start freshStore) _ _ :=
    .cons (a := .writeNvs true zeroCfg) rfl (.cons (a := .writeNvs false iotConfigSetDefaults) rfl
      (.cons (a := .storeCache true) rfl (.cons (a := .storeCache false) rfl (.nil _))))
  refine ⟨_, ⟨_, hrun⟩, rfl, (cache_agrees_with_nvs ⟨fun _ => rfl, rfl⟩ freshStore hrun ?_).1⟩
  simp [CfgCalls.InOrder, CfgCalls.start, zeroCfg, iotConfigSetDefaults]

/-- The save that wrote NVS first stores last, and the cache keeps what NVS has lost. -/
theorem overtaken_save_disagrees : ∃ s : CfgCalls Bool,
    (∃ tr, Run (CfgCalls.Steps (writingPlatform fun _ => true)) (.start freshStore) tr s) ∧
      ¬ s.Agrees := by
  refine ⟨_, ⟨_, .cons (a := .writeNvs true zeroCfg) rfl
    (.cons (a := .writeNvs false iotConfigSetDefaults) rfl
      (.cons (a := .storeCache false) rfl (.cons (a := .storeCache true) rfl (.nil _))))⟩, ?_⟩
  intro h
  have hperiod := congrArg (Option.map RuntimeCfg.samplePeriodMs) (h (by decide) (by decide))
  revert hperiod
  decide

end IotPlatform
