import IotPlatform.Executions

/-!
# The robot heartbeat

The age of the heartbeat grows by 200 ms with every UART sample that brought no bytes, and with
every `robot.heartbeat` command while the last byte count is zero.
-/
namespace IotPlatform
open CText CFloat Runs

variable {F : Type} [CFloat F]

/-- The alarm condition of `iot_uc_robot_hb`. -/
def HeartbeatLost (d : Device F) : Prop := 5000 < d.rb.hbAgeMs

instance (d : Device F) : Decidable (HeartbeatLost d) := inferInstanceAs (Decidable (_ < _))

/-- Operations whose use cases come through `iot_uc_run_json`. -/
def Op.ThroughJson : Op F → Prop
  | .run _ _ _ => False
  | _ => True

abbrev JsonOp (F : Type) := { op : Op F // op.ThroughJson }

/-- The operation executes `robot.heartbeat`. -/
def Op.IsHeartbeat (profile : Profile) (op : Op F) : Prop :=
  ∃ P inp, op.useCase profile = some (P, .robotHeartbeat, inp)

/-- The samples without bytes since the last one with bytes, after an operation. -/
def Op.silentAfter (op : Op F) (k : ℕ) : ℕ :=
  match op with
  | .robotUart n => if n = 0 then k + 1 else 0
  | _ => k

/-- The device with the silent samples counted. -/
def robotStep (profile : Profile) (s : Device F × ℕ) (op : JsonOp F) : Device F × ℕ :=
  (op.1.apply profile s.1, op.1.silentAfter s.2)

/-- After the step the alarm means 26 silent samples, and only a sample has changed it. -/
def CountsSilence (s : Device F × ℕ) (op : JsonOp F) (s' : Device F × ℕ) : Prop :=
  (HeartbeatLost s'.1 ↔ 26 ≤ s'.2) ∧
    ((∀ n, op.1 ≠ .robotUart n) → (HeartbeatLost s'.1 ↔ HeartbeatLost s.1))

/-- The next 200 ms raise the alarm. -/
def AtLimit (d : Device F) : Prop := 4800 < d.rb.hbAgeMs.toNat ∧ d.rb.hbAgeMs.toNat ≤ 5000

/-- The age does not wrap, no heartbeat command and no early sample raises the alarm, and a byte
count that is cut to zero does not leave the alarm standing. -/
def AddsInStep (profile : Profile) (s : Device F × ℕ) (op : JsonOp F) : Prop :=
  (op.1 = .robotUart 0 → s.1.rb.hbAgeMs.toNat + 200 < 2 ^ 32 ∧ (AtLimit s.1 → s.2 = 25)) ∧
  (∀ n, op.1 = .robotUart n → n ≠ 0 → n % 2 ^ 32 = 0 →
    (s.1.rb.hbAgeMs.toNat + 200) % 2 ^ 32 ≤ 5000) ∧
  (op.1.IsHeartbeat profile → s.1.rb.uartN = 0 →
    s.1.rb.hbAgeMs.toNat + 200 < 2 ^ 32 ∧ ¬ AtLimit s.1)

theorem iotUcRun_age (P : Platform) (id : IotUcId) (inp : IotUcIn F) (d : Device F)
    (hu : inp.u 0 = 0) : (iotUcRun P id inp d).st.rb.hbAgeMs =
      if id = .robotHeartbeat ∧ d.rb.uartN = 0 then d.rb.hbAgeMs + 200 else d.rb.hbAgeMs := by
  cases id
  case robotUart => simp [iotUcRun, entryFn, onRb, Handler.at, iotUcRobotUart, hu]
  case robotHeartbeat =>
    simp only [iotUcRun, entryFn, onRb, Handler.at, iotUcRobotHb, true_and]
    split_ifs <;> rfl
  all_goals rfl

theorem sample_age (profile : Profile) (n : ℕ) (d : Device F) :
    ((Op.robotUart n : Op F).apply profile d).rb.hbAgeMs =
      if n % 2 ^ 32 = 0 then d.rb.hbAgeMs + 200 else 0 := by
  have hz : UInt32.ofNat n = 0 ↔ n % 2 ^ 32 = 0 := by
    rw [← UInt32.toNat_inj]
    simp
  simp only [Op.apply, sampled, onRb, Handler.at, iotUcRobotOnUart, iotUcRobotUart, iotUcRobotHb,
    Function.update_self]
  by_cases hn : n % 2 ^ 32 = 0
  · rw [if_pos hn, hz.mpr hn]
    rfl
  · have hne : UInt32.ofNat n ≠ 0 := mt hz.mp hn
    rw [if_neg hn, if_neg hne, if_pos (UInt32.pos_iff_ne_zero.mpr hne)]

section
variable {profile : Profile} {op : Op F}

theorem Op.ThroughJson.u_zero (hj : op.ThroughJson) {P : Platform} {id : IotUcId} {inp : IotUcIn F}
    (h : op.useCase profile = some (P, id, inp)) : inp.u 0 = 0 := by
  have hfrom : ∀ r : Option (IotUcId × IotUcIn F), FromJson r →
      (r.map fun r => (P, r)) = some (P, id, inp) → inp.u 0 = 0 := by
    intro r hr hmap
    obtain ⟨⟨id', inp'⟩, heq, hpair⟩ := Option.map_eq_some_iff.mp hmap
    obtain ⟨rfl, rfl⟩ : id' = id ∧ inp' = inp := by simpa using hpair
    obtain ⟨json, rfl⟩ := hr _ _ heq
    rfl
  cases op with
  | command Q past cmd =>
    obtain rfl : Q = P := by
      obtain ⟨r, -, hr⟩ := Option.map_eq_some_iff.mp h
      exact congrArg Prod.fst hr
    exact hfrom _ ((commandEnds_fromJson hostPlatform (.static F none)).hook past cmd profile) h
  | runJson Q json len =>
    obtain rfl : Q = P := by
      obtain ⟨r, -, hr⟩ := Option.map_eq_some_iff.mp h
      exact congrArg Prod.fst hr
    exact hfrom _ ((commandEnds_fromJson hostPlatform (.static F none)).text json len .zero) h
  | run => exact hj.elim
  | _ => simp [Op.useCase] at h

/-- A command adds to the age only as `robot.heartbeat` without bytes. -/
theorem command_age (profile : Profile) (hj : op.ThroughJson)
    (hsample : ∀ n, op ≠ .robotUart n) (d : Device F) :
    (op.IsHeartbeat profile ∧ d.rb.uartN = 0 ∧
      (op.apply profile d).rb.hbAgeMs = d.rb.hbAgeMs + 200) ∨
    (¬ (op.IsHeartbeat profile ∧ d.rb.uartN = 0) ∧
      (op.apply profile d).rb.hbAgeMs = d.rb.hbAgeMs) := by
  rcases op.apply_cases profile d with ⟨P, id, inp, hu, heq⟩ | ⟨hu, hs⟩ | ⟨hu, hs, s, heq, -⟩
  · have hage := iotUcRun_age P id inp d (hj.u_zero hu)
    rw [← heq] at hage
    by_cases hc : id = .robotHeartbeat ∧ d.rb.uartN = 0
    · obtain ⟨rfl, hn⟩ := hc
      exact Or.inl ⟨⟨P, inp, hu⟩, hn, by simpa [hn] using hage⟩
    · refine Or.inr ⟨?_, by simpa [hc] using hage⟩
      rintro ⟨⟨P', inp', hu'⟩, hn⟩
      obtain ⟨-, rfl, -⟩ : P = P' ∧ id = .robotHeartbeat ∧ inp = inp' := by
        simpa using hu.symm.trans hu'
      exact hc ⟨rfl, hn⟩
  · have hno : ¬ op.IsHeartbeat profile := fun ⟨_, _, h⟩ => by simp [hu] at h
    refine Or.inr ⟨fun h => hno h.1, ?_⟩
    cases op with
    | robotUart n => exact absurd rfl (hsample n)
    | command | run | runJson | otaProgress | diag => exact hs.elim
    | _ => rfl
  · have hno : ¬ op.IsHeartbeat profile := fun ⟨_, _, h⟩ => by simp [hu] at h
    exact Or.inr ⟨fun h => hno h.1, by rw [heq]⟩

end

omit [CFloat F] in
theorem heartbeatLost_iff {d : Device F} : HeartbeatLost d ↔ 5000 < d.rb.hbAgeMs.toNat :=
  UInt32.lt_iff_toNat_lt

theorem toNat_add_200 (age : UInt32) : (age + 200).toNat = (age.toNat + 200) % 2 ^ 32 := by
  simp

/-- Silent samples have aged the heartbeat, and the alarm tells 26 of them. -/
def SilenceInv (s : Device F × ℕ) : Prop :=
  200 * s.2 ≤ s.1.rb.hbAgeMs.toNat ∧ (5000 < s.1.rb.hbAgeMs.toNat ↔ 26 ≤ s.2)

section
variable {profile : Profile} {s : Device F × ℕ} {op : JsonOp F}

theorem addsInStep_sample {n : ℕ} (hop : op.1 = .robotUart n) : AddsInStep profile s op ↔
    (n = 0 → s.1.rb.hbAgeMs.toNat + 200 < 2 ^ 32 ∧ (AtLimit s.1 → s.2 = 25)) ∧
      (n ≠ 0 → n % 2 ^ 32 = 0 → (s.1.rb.hbAgeMs.toNat + 200) % 2 ^ 32 ≤ 5000) := by
  simp [AddsInStep, hop, Op.IsHeartbeat, Op.useCase]

theorem countsSilence_sample {n : ℕ} (hop : op.1 = .robotUart n) :
    CountsSilence s op (robotStep profile s op) ↔
      (5000 < (robotStep profile s op).1.rb.hbAgeMs.toNat ↔
        26 ≤ (robotStep profile s op).2) := by
  simp only [CountsSilence, hop, heartbeatLost_iff]
  exact and_iff_left fun h => absurd rfl (h n)

theorem addsInStep_command (hop : ∀ n, op.1 ≠ .robotUart n) : AddsInStep profile s op ↔
    (op.1.IsHeartbeat profile ∧ s.1.rb.uartN = 0 →
      s.1.rb.hbAgeMs.toNat + 200 < 2 ^ 32 ∧ ¬ AtLimit s.1) := by
  simp [AddsInStep, hop]

theorem silentAfter_command (profile : Profile) (hop : ∀ n, op.1 ≠ .robotUart n) :
    (robotStep profile s op).2 = s.2 := by
  unfold robotStep Op.silentAfter
  split
  · next n h => exact absurd h (hop n)
  · rfl

theorem silent_sample_step (hop : op.1 = .robotUart 0) (hi : SilenceInv s) :
    (AddsInStep profile s op ↔ CountsSilence s op (robotStep profile s op)) ∧
      (AddsInStep profile s op → SilenceInv (robotStep profile s op)) := by
  have hage : (robotStep profile s op).1.rb.hbAgeMs.toNat =
      (s.1.rb.hbAgeMs.toNat + 200) % 2 ^ 32 := by
    simp only [robotStep, hop, sample_age, Nat.zero_mod, if_true, toNat_add_200]
  have hk : (robotStep profile s op).2 = s.2 + 1 := by
    simp only [robotStep, hop, Op.silentAfter, if_true]
  have hlt := s.1.rb.hbAgeMs.toNat_lt
  obtain ⟨hle, halarm⟩ := hi
  rw [addsInStep_sample hop, countsSilence_sample hop, SilenceInv, hage, hk, AtLimit]
  omega

/-- A sample with bytes clears the age, unless its length is cut to zero. -/
theorem byte_sample_step {n : ℕ} (hop : op.1 = .robotUart n) (hn : n ≠ 0) :
    (AddsInStep profile s op ↔ CountsSilence s op (robotStep profile s op)) ∧
      (AddsInStep profile s op → SilenceInv (robotStep profile s op)) := by
  have hk : (robotStep profile s op).2 = 0 := by
    simp only [robotStep, hop, Op.silentAfter, if_neg hn]
  have hage : (robotStep profile s op).1.rb.hbAgeMs.toNat =
      if n % 2 ^ 32 = 0 then (s.1.rb.hbAgeMs.toNat + 200) % 2 ^ 32 else 0 := by
    simp only [robotStep, hop, sample_age]
    split_ifs
    · exact toNat_add_200 _
    · rfl
  rw [addsInStep_sample hop, countsSilence_sample hop, SilenceInv, hage, hk]
  split_ifs with hcut <;> omega

theorem command_step (hop : ∀ n, op.1 ≠ .robotUart n) (hi : SilenceInv s) :
    (AddsInStep profile s op ↔ CountsSilence s op (robotStep profile s op)) ∧
      (AddsInStep profile s op → SilenceInv (robotStep profile s op)) := by
  have hk := silentAfter_command (s := s) profile hop
  have hlt := s.1.rb.hbAgeMs.toNat_lt
  obtain ⟨hle, halarm⟩ := hi
  rw [addsInStep_command hop]
  simp only [CountsSilence, SilenceInv, hop, heartbeatLost_iff, hk, AtLimit, ne_eq,
    not_false_eq_true, implies_true, true_imp_iff]
  rcases command_age profile op.2 hop s.1 with ⟨hhb, hn, hage⟩ | ⟨hno, hage⟩
  · have hage' : (robotStep profile s op).1.rb.hbAgeMs.toNat =
        (s.1.rb.hbAgeMs.toNat + 200) % 2 ^ 32 :=
      (congrArg UInt32.toNat hage).trans (toNat_add_200 _)
    simp only [hhb, hn, true_and, true_imp_iff, hage']
    omega
  · have hage' : (robotStep profile s op).1.rb.hbAgeMs = s.1.rb.hbAgeMs := hage
    simp only [hno, false_imp_iff, hage', true_iff]
    exact ⟨⟨halarm, trivial⟩, fun _ => ⟨hle, halarm⟩⟩

theorem step_silence (hi : SilenceInv s) :
    (AddsInStep profile s op ↔ CountsSilence s op (robotStep profile s op)) ∧
      (AddsInStep profile s op → SilenceInv (robotStep profile s op)) := by
  by_cases hop : ∃ n, op.1 = .robotUart n
  · obtain ⟨n, hop⟩ := hop
    by_cases hn : n = 0
    · subst hn
      exact silent_sample_step hop hi
    · exact byte_sample_step hop hn
  · exact command_step (not_exists.mp hop) hi

end

/-- Along a run from boot the alarm tells 26 silent samples, and commands leave it alone, exactly
when nothing but the 26th silent sample takes the age over the limit and no addition wraps. -/
theorem heartbeat_counts_silence_iff (P : Platform) (profile : Profile) (wdtReset : Bool)
    (nvs : Option NvsImage) (ops : List (JsonOp F)) :
    let tr := trace (robotStep profile) (appMain P profile wdtReset nvs, 0) ops
    (∀ e ∈ tr, AddsInStep profile e.1 e.2.1) ↔ ∀ e ∈ tr, CountsSilence e.1 e.2.1 e.2.2 := by
  refine (run_trace _ _ ops).forall_iff (I := SilenceInv)
    (C := fun s op _ => AddsInStep profile s op) ?_ ?_
    (by simp [SilenceInv, appMain, Device.static])
  · rintro s op s' hi rfl
    exact (step_silence hi).1
  · rintro s op s' hi rfl hc
    exact (step_silence hi).2 hc

/-- One `robot.heartbeat` command after boot makes the 25th silent sample raise the alarm. -/
theorem command_ages_heartbeat : ¬ ∀ ops : List (JsonOp ℚ),
    ∀ e ∈ trace (robotStep .robotics) (appMain hostPlatform .robotics false none, 0) ops,
      CountsSilence e.1 e.2.1 e.2.2 := by
  intro h
  have hall := h (⟨.runJson hostPlatform (txt "\x7b\"uc\":\"robot.heartbeat\"\x7d") 24, trivial⟩ ::
    List.replicate 25 ⟨.robotUart 0, trivial⟩)
  have hcount := List.all_eq_true.mpr fun e he => decide_eq_true (hall e he).1
  revert hcount
  decide +kernel

end IotPlatform
