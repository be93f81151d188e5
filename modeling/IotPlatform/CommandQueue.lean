import IotPlatform.Executions
import IotPlatform.Queues

/-!
# From a BLE write to the command hook

BLE writes and MQTT messages are put on a queue of eight commands, which `cmd_task` takes one after
the other to the command hook. A write is acknowledged before the queue has answered.
-/
namespace IotPlatform
open CText CFloat Runs Queues

variable {F : Type} [CFloat F]

/-- The length of `command_q`. -/
def commandQLen : ℕ := 8

/-- An entry of `command_q`, with a note whether a BLE write has put it there. -/
structure Queued where
  msg : IotCommandMsg iotJsonSmallLen
  ble : Bool

/-- The queue and the task that serves it: the entry it has received and not yet handed to the hook,
and those it has handed over. -/
structure CmdSys (F : Type) where
  dev : Device F
  queue : Ledger Queued
  held : Option Queued
  handed : List Queued

/-- `gatt_access` on a write, and the data event of `mqtt_event`, whose sends do not wait; and the
reception and the hook of `cmd_task`. -/
inductive CmdOp
  | bleWrite (uuid16 : UInt16) (value : List UInt8)
  | mqttData (data : List UInt8)
  | receive
  | hook (P : Platform) (past : List UInt8)

/-- The status that `gatt_access` returns for a write, and the queue after its send. -/
def gattWrite (uuid16 : UInt16) (value : List UInt8) (q : Ledger Queued) : ℤ × Ledger Queued :=
  (0, (q.send commandQLen ⟨gattAccess uuid16 value, true⟩).getD q)

def mqttPut (data : List UInt8) (q : Ledger Queued) : Ledger Queued :=
  (q.send commandQLen ⟨mqttEvent data, false⟩).getD q

/-- One step; a step of `cmd_task` that is not its next one changes nothing. A task that finds the
shutdown flag set receives no more. -/
def CmdSys.apply (profile : Profile) (s : CmdSys F) : CmdOp → CmdSys F
  | .bleWrite uuid16 value => { s with queue := (gattWrite uuid16 value s.queue).2 }
  | .mqttData data => { s with queue := mqttPut data s.queue }
  | .receive =>
    match s.held, s.dev.sys.shutdown, s.queue.recv with
    | none, false, some (x, q) => { s with queue := q, held := some x }
    | _, _, _ => s
  | .hook P past =>
    match s.held with
    | some x => { s with
        dev := (profile.cmdHook P past x.msg s.dev).2
        held := none
        handed := s.handed ++ [x] }
    | none => s

/-- The device with an empty queue. -/
def CmdSys.start (d : Device F) : CmdSys F := ⟨d, .empty, none, []⟩

/-- A message holds a value from beginning to end. -/
def IotCommandMsg.Carries {cap : ℕ} (msg : IotCommandMsg cap) (value : List UInt8) : Prop :=
  msg.payloadLen = value.length ∧ msg.payload.take value.length = value

/-- Entries are handed over in the order of the queue, each once, and none that a write has placed
is left to a task that receives no more. -/
def CmdSys.Serves (s : CmdSys F) : Prop :=
  s.handed ++ s.held.toList = s.queue.received ∧
    (s.dev.sys.shutdown = true → ∀ x ∈ s.queue.waiting, x.ble = false)

/-- A write that was acknowledged has placed its whole value, and what is placed is served. -/
def KeepsWrites (s : CmdSys F) (op : CmdOp) (s' : CmdSys F) : Prop :=
  (∀ uuid16 value, op = .bleWrite uuid16 value → (gattWrite uuid16 value s.queue).1 = 0 →
    ∃ x, s'.queue.sent = s.queue.sent ++ [x] ∧ x.ble = true ∧ x.msg.Carries value) ∧ s'.Serves

/-- A write fits an entry, finds room and a task that still receives, and no command shuts the task
down before another one that a write has placed. -/
def WriteSafe (profile : Profile) (s : CmdSys F) : CmdOp → Prop
  | .bleWrite _ value => value.length ≤ iotJsonSmallLen ∧
      s.queue.waiting.length < commandQLen ∧ s.dev.sys.shutdown = false
  | .hook _ past => ∀ x, s.held = some x →
      (∃ inp : IotUcIn F, hookUseCase past x.msg profile = some (.pltShutdown, inp)) →
        ∀ y ∈ s.queue.waiting, y.ble = false
  | _ => True

theorem iotProvisionApplyJson_kept (P : Platform) (json : Text) (len : ℕ) (s : SysSt) :
    (iotProvisionApplyJson P json len s).2.diag = s.diag ∧
      (iotProvisionApplyJson P json len s).2.shutdown = s.shutdown := by
  unfold iotProvisionApplyJson
  split_ifs <;> exact ⟨rfl, rfl⟩

/-- A use case leaves the diagnostic counters, and only `plt.shutdown` sets the flag. -/
theorem iotUcRun_kept (P : Platform) (id : IotUcId) (inp : IotUcIn F) (d : Device F) :
    (iotUcRun P id inp d).st.sys.diag = d.sys.diag ∧
      (id ≠ .pltShutdown → (iotUcRun P id inp d).st.sys.shutdown = d.sys.shutdown) := by
  cases id
  case pltShutdown => exact ⟨rfl, fun hid => absurd rfl hid⟩
  case pltSetSampleMs =>
    simp only [iotUcRun, entryFn, onSys, Handler.at, iotUcPltSetSampleMs]
    split_ifs <;> exact ⟨rfl, fun _ => rfl⟩
  case pltProvision =>
    simp only [iotUcRun, entryFn, onSys, Handler.at, iotUcPltProvision]
    split_ifs
    · exact ⟨rfl, fun _ => rfl⟩
    · obtain ⟨hdiag, hshutdown⟩ := iotProvisionApplyJson_kept P
        (inp.json.getD inp.s0.text) (inp.json.getD inp.s0.text).length d.sys
      exact ⟨hdiag, fun _ => hshutdown⟩
  case pltOta =>
    simp only [iotUcRun, entryFn, onSys, Handler.at, iotUcPltOta]
    split <;> exact ⟨rfl, fun _ => rfl⟩
  case pltSetCloud =>
    simp only [iotUcRun, entryFn, onSys, Handler.at, iotUcPltSetCloud]
    split_ifs <;> exact ⟨rfl, fun _ => rfl⟩
  case pltSetLogLevel =>
    simp only [iotUcRun, entryFn, onSys, Handler.at, iotUcPltSetLogLevel]
    split_ifs <;> exact ⟨rfl, fun _ => rfl⟩
  all_goals exact ⟨rfl, fun _ => rfl⟩

/-- The flag was set before, or this use case is the one that sets it. -/
def ShutBy (d : Device F) (r : Option (IotUcId × IotUcIn F)) (d' : Device F) : Prop :=
  d'.sys.shutdown = true ↔ d.sys.shutdown = true ∨ ∃ inp, r = some (.pltShutdown, inp)

omit [CFloat F] in
theorem ShutBy.keep {d d' : Device F} (h : d'.sys.shutdown = d.sys.shutdown) :
    ShutBy d none d' := by
  simp [ShutBy, h]

section
variable (P : Platform) (d : Device F)

theorem iotUcRun_shutBy (id : IotUcId) (inp : IotUcIn F) :
    ShutBy d (some (id, inp)) (iotUcRun P id inp d).st := by
  by_cases hid : id = .pltShutdown
  · subst hid
    exact iff_of_true rfl (Or.inr ⟨inp, rfl⟩)
  · simp [ShutBy, (iotUcRun_kept P id inp d).2 hid, hid]

theorem commandEnds_shutBy : CommandEnds P d fun r d' => ShutBy d r d' where
  idle := .keep rfl
  refused := .keep rfl
  provision _ _ := .keep (iotProvisionApplyJson_kept P _ _ _).2
  ota _ := .keep rfl
  run id _ := iotUcRun_shutBy P d id _

/-- A command sets the flag only by `plt.shutdown`. -/
theorem cmdHook_shutBy {cap : ℕ} (past : List UInt8) (cmd : IotCommandMsg cap)
    (profile : Profile) :
    ShutBy d (hookUseCase past cmd profile) (profile.cmdHook P past cmd d).2 :=
  (commandEnds_shutBy P d).hook past cmd profile

end

theorem gattAccess_carries_iff (uuid16 : UInt16) (value : List UInt8) :
    (gattAccess uuid16 value).Carries value ↔ value.length ≤ iotJsonSmallLen := by
  constructor
  · rintro ⟨hlen, -⟩
    exact min_eq_left_iff.mp hlen
  · intro h
    refine ⟨min_eq_left h, ?_⟩
    simp [gattAccess, enqueued, padTo, List.take_take, min_eq_left h]

section
variable {profile : Profile} {s : CmdSys F}

/-- An acknowledged write keeps its promise exactly when it fits, finds room, and is served. -/
theorem bleWrite_keeps_iff (hs : s.Serves) (uuid16 : UInt16) (value : List UInt8) :
    WriteSafe profile s (.bleWrite uuid16 value) ↔
      KeepsWrites s (.bleWrite uuid16 value) (s.apply profile (.bleWrite uuid16 value)) := by
  obtain ⟨horder, hserved⟩ := hs
  cases hq : s.queue.send commandQLen ⟨gattAccess uuid16 value, true⟩ with
  | none =>
    have hfull := Ledger.send_eq_none.mp hq
    refine iff_of_false (fun h => absurd h.2.1 (not_lt.mpr hfull)) fun h => ?_
    obtain ⟨x, hx, -⟩ := h.1 uuid16 value rfl rfl
    simp [CmdSys.apply, gattWrite, hq] at hx
  | some q =>
    obtain ⟨hroom, hsent, hrecv, hwait⟩ := Ledger.send_eq_some hq
    have hq' : (s.apply profile (.bleWrite uuid16 value)).queue = q := by
      simp [CmdSys.apply, gattWrite, hq]
    constructor
    · rintro ⟨hfits, -, hrun⟩
      refine ⟨fun u v hop _ => ?_, ?_, fun hshut => ?_⟩
      · cases hop
        exact ⟨_, by rw [hq', hsent], rfl, (gattAccess_carries_iff _ _).mpr hfits⟩
      · rw [hq', hrecv]
        exact horder
      · exact absurd (hrun.symm.trans hshut) (by decide)
    · rintro ⟨hplaced, -, hafter⟩
      obtain ⟨x, hx, -, hcarries⟩ := hplaced uuid16 value rfl rfl
      rw [hq', hsent] at hx
      obtain rfl : _ = x := by simpa using hx
      refine ⟨(gattAccess_carries_iff _ _).mp hcarries, hroom, ?_⟩
      by_contra hshut
      have hlast := hafter (Bool.not_eq_false _ ▸ hshut) ⟨gattAccess uuid16 value, true⟩
        (by rw [hq', hwait]; simp)
      cases hlast

theorem mqttData_serves (hs : s.Serves) (data : List UInt8) :
    (s.apply profile (.mqttData data)).Serves := by
  obtain ⟨horder, hserved⟩ := hs
  cases hq : s.queue.send commandQLen ⟨mqttEvent data, false⟩ with
  | none =>
    have heq : s.apply profile (.mqttData data) = s := by simp [CmdSys.apply, mqttPut, hq]
    rw [heq]
    exact ⟨horder, hserved⟩
  | some q =>
    obtain ⟨-, -, hrecv, hwait⟩ := Ledger.send_eq_some hq
    have hq' : (s.apply profile (.mqttData data)).queue = q := by
      simp [CmdSys.apply, mqttPut, hq]
    refine ⟨by rw [hq', hrecv]; exact horder, fun hshut x hx => ?_⟩
    rw [hq', hwait] at hx
    rcases List.mem_append.mp hx with hx | hx
    · exact hserved hshut x hx
    · obtain rfl := List.mem_singleton.mp hx
      rfl

theorem receive_serves (hs : s.Serves) : (s.apply profile .receive).Serves := by
  obtain ⟨horder, hserved⟩ := hs
  simp only [CmdSys.apply]
  split
  · next x q hheld hrun hq =>
    obtain ⟨hwait, -, hrecv⟩ := Ledger.recv_eq_some hq
    refine ⟨?_, fun hshut => absurd (hrun.symm.trans hshut) (by decide)⟩
    rw [hheld] at horder
    simp only [hrecv, ← horder]
    simp
  · exact ⟨horder, hserved⟩

/-- A command that is handed over leaves the others served, exactly when it does not shut the task
down before a write. -/
theorem hook_serves_iff (hs : s.Serves) (P : Platform) (past : List UInt8) :
    WriteSafe profile s (.hook P past) ↔ (s.apply profile (.hook P past)).Serves := by
  obtain ⟨horder, hserved⟩ := hs
  cases hheld : s.held with
  | none =>
    have heq : s.apply profile (.hook P past) = s := by simp [CmdSys.apply, hheld]
    rw [heq]
    refine iff_of_true (fun x hx => ?_) ⟨horder, hserved⟩
    simp [hheld] at hx
  | some x =>
    have heq : s.apply profile (.hook P past) = { s with
        dev := (profile.cmdHook P past x.msg s.dev).2
        held := none
        handed := s.handed ++ [x] } := by
      simp [CmdSys.apply, hheld]
    have hshut := cmdHook_shutBy P s.dev past x.msg profile
    rw [heq]
    constructor
    · intro hsafe
      refine ⟨by simpa [hheld] using horder, fun h => ?_⟩
      rcases hshut.mp h with h | h
      · exact hserved h
      · exact hsafe x hheld h
    · rintro ⟨-, hafter⟩ y hy hreq
      obtain rfl : x = y := by simpa [hheld] using hy
      exact hafter (hshut.mpr (Or.inr hreq))

theorem step_keeps_iff (hs : s.Serves) (op : CmdOp) :
    WriteSafe profile s op ↔ KeepsWrites s op (s.apply profile op) := by
  cases op with
  | bleWrite uuid16 value => exact bleWrite_keeps_iff hs uuid16 value
  | mqttData data =>
    exact iff_of_true trivial ⟨fun _ _ h => (nomatch h), mqttData_serves hs data⟩
  | receive => exact iff_of_true trivial ⟨fun _ _ h => (nomatch h), receive_serves hs⟩
  | hook P past =>
    rw [hook_serves_iff hs P past]
    exact ⟨fun h => ⟨fun _ _ h => (nomatch h), h⟩, fun h => h.2⟩

end

/-- A pass through the loop of `cmd_task`. -/
def CmdSys.pass (profile : Profile) (s : CmdSys F) (r : Platform × List UInt8) : CmdSys F :=
  (s.apply profile .receive).apply profile (.hook r.1 r.2)

section
variable {profile : Profile} {s : CmdSys F}

theorem pass_idle (hheld : s.held = none) (hwait : s.queue.waiting = [])
    (r : Platform × List UInt8) : s.pass profile r = s := by
  have hrecv := Ledger.recv_eq_none.mpr hwait
  simp [CmdSys.pass, CmdSys.apply, hheld, hrecv]

theorem pass_takes (hheld : s.held = none) (hrun : s.dev.sys.shutdown = false) {x : Queued}
    {q : Ledger Queued} (hrecv : s.queue.recv = some (x, q)) (r : Platform × List UInt8) :
    s.pass profile r =
      ⟨(profile.cmdHook r.1 r.2 x.msg s.dev).2, q, none, s.handed ++ [x]⟩ := by
  simp [CmdSys.pass, CmdSys.apply, hheld, hrun, hrecv]

/-- A running task hands over everything that waits in as many passes, unless one of the commands
shuts it down. -/
theorem passes_hand_over (passes : List (Platform × List UInt8)) (hheld : s.held = none)
    (hrun : s.dev.sys.shutdown = false) (horder : s.handed = s.queue.received)
    (hno : ∀ x ∈ s.queue.waiting, ∀ past, ∀ inp : IotUcIn F,
      hookUseCase past x.msg profile ≠ some (.pltShutdown, inp))
    (hlen : s.queue.waiting.length ≤ passes.length) :
    (passes.foldl (CmdSys.pass profile) s).handed = s.queue.sent := by
  induction passes generalizing s with
  | nil =>
    have hwait : s.queue.waiting = [] := List.length_eq_zero_iff.mp (Nat.le_zero.mp hlen)
    rw [List.foldl_nil, horder, s.queue.complete, hwait, List.append_nil]
  | cons r passes ih =>
    rw [List.foldl_cons]
    by_cases hwait : s.queue.waiting = []
    · rw [pass_idle hheld hwait]
      exact ih hheld hrun horder hno (by simp [hwait])
    · obtain ⟨x, q, hrecv⟩ := Ledger.recv_isSome hwait
      obtain ⟨hcons, hsent, hreceived⟩ := Ledger.recv_eq_some hrecv
      have hshut := cmdHook_shutBy r.1 s.dev r.2 x.msg profile
      rw [pass_takes hheld hrun hrecv, ← hsent]
      refine ih rfl ?_ (by rw [horder, hreceived]) (fun y hy => ?_) ?_
      · by_contra hset
        rcases hshut.mp (Bool.not_eq_false _ ▸ hset) with h | ⟨inp, h⟩
        · exact absurd (hrun.symm.trans h) (by decide)
        · exact hno x (by simp [hcons]) r.2 inp h
      · exact hno y (by simp [hcons, hy])
      · rw [hcons, List.length_cons, List.length_cons] at hlen
        exact Nat.le_of_succ_le_succ hlen

end

/-- Along a run no acknowledged write is lost, exactly when every write fits an entry and finds
room on the queue of a running task, and no command shuts the task down while a write waits. -/
theorem ble_writes_kept_iff (profile : Profile) (d : Device F) (ops : List CmdOp) :
    let tr := trace (CmdSys.apply profile) (.start d) ops
    (∀ e ∈ tr, WriteSafe profile e.1 e.2.1) ↔ ∀ e ∈ tr, KeepsWrites e.1 e.2.1 e.2.2 := by
  refine (run_trace _ _ ops).forall_iff (I := CmdSys.Serves)
    (C := fun s op _ => WriteSafe profile s op) (G := KeepsWrites) ?_ ?_
    ⟨rfl, fun _ _ hx => absurd hx List.not_mem_nil⟩
  · rintro s op s' hi rfl
    exact step_keeps_iff hi op
  · rintro s op s' hi rfl hc
    exact ((step_keeps_iff hi op).mp hc).2

/-- A write of 257 bytes is acknowledged and cut. -/
theorem long_write_cut : ¬ ∀ ops : List CmdOp,
    ∀ e ∈ trace (CmdSys.apply .energy)
      (.start (appMain hostPlatform .energy false none : Device ℚ)) ops,
      KeepsWrites e.1 e.2.1 e.2.2 := by
  intro h
  obtain ⟨x, hx, -, hlen, -⟩ := (h [.bleWrite 0xFF03 (List.replicate 257 65)] _
    List.mem_cons_self).1 _ _ rfl rfl
  have hput : [(⟨gattAccess 0xFF03 (List.replicate 257 65), true⟩ : Queued)] = [x] := hx
  obtain rfl := List.singleton_inj.mp hput
  simp only [gattAccess, enqueued, List.length_replicate] at hlen
  exact absurd hlen (by decide)

end IotPlatform
