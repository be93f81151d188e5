import IotPlatform.Pipeline
import IotPlatform.Simulation
import IotPlatform.Telemetry

/-!
# The tasks side by side

`cmd_task` and `sensor_task` work on one device while messages travel through the pipeline. Where no
hook overlaps another, the device goes through one history of operations, in which the commands
stand as they were accepted and the messages tell what the samples left, one after the other. The
source has nothing that keeps hooks apart.
-/
namespace IotPlatform
open CText CFloat Queues Runs

/-- The steps of the pipeline behind `sensor_task`. -/
inductive RelayOp
  | sensorSend | procRecv | procSend | pumpRecv | mqttStop
  | pumpPublish (e : IotErr)

def RelayOp.pipeOp : RelayOp → PipeOp
  | .sensorSend => .sensorSend
  | .procRecv => .procRecv
  | .procSend => .procSend
  | .pumpRecv => .pumpRecv
  | .mqttStop => .mqttStop
  | .pumpPublish e => .pumpPublish e

/-- The device with its command queue, and the pipeline. `hooks` is set once `app_main` has called
`iot_tasks_set_hooks`, which is after it has started the tasks. -/
structure Board (F : Type) where
  cmds : CmdSys F
  pipe : Pipeline
  hooks : Bool

abbrev Board.dev {F : Type} (s : Board F) : Device F := s.cmds.dev

/-- A step of the command path, of `sensor_task`, of the rest of the pipeline, or what the Wi-Fi and
the OTA task leave in the device. A hook is run in one step. -/
inductive BoardOp
  | setHooks
  | cmd (op : CmdOp)
  | sensorPass (ms : UInt32) (r : SensorReads)
  | relay (op : RelayOp)
  | diag (id : UInt32)
  | otaProgress (state : OtaState)

section
variable {F : Type} [CFloat F]

/-- The tasks of the pipeline look at the same shutdown flag. -/
def Pipeline.heed (shutdown : Bool) (s : Pipeline) : Pipeline :=
  if shutdown then s.apply .requestShutdown else s

/-- `sensor_task` goes through its loop when it holds no message and finds no shutdown. -/
def Board.Passes (s : Board F) : Prop := s.pipe.sensor = none ∧ s.dev.sys.shutdown = false

instance Board.decidablePasses (s : Board F) : Decidable s.Passes :=
  inferInstanceAs (Decidable (_ ∧ _))

/-- It calls the sensor hook there once this is set. -/
def Board.Samples (s : Board F) : Prop := s.Passes ∧ s.hooks = true

instance Board.decidableSamples (s : Board F) : Decidable s.Samples :=
  inferInstanceAs (Decidable (_ ∧ _))

/-- What `sensor_task` sends without a hook. -/
def bareHook : SeqHook where
  val m := (.ok, { m with payloadLen := 2, payload := CBuf.store 768 (txt "\x7b\x7d") })
  property _ := rfl

/-- The steps that put a command on the queue. -/
def CmdOp.arrives : CmdOp → Bool
  | .bleWrite _ _ | .mqttData _ => true
  | .receive | .hook _ _ => false

/-- `app_main` starts BLE and MQTT after it has set the hooks, so that no command comes before. -/
def Board.cmdStep (profile : Profile) (s : Board F) (op : CmdOp) : CmdSys F :=
  if op.arrives && !s.hooks then s.cmds else s.cmds.apply profile op

def Board.apply (profile : Profile) (s : Board F) : BoardOp → Board F
  | .setHooks => { s with hooks := true }
  | .cmd op =>
    let cmds := s.cmdStep profile op
    { s with cmds := cmds, pipe := s.pipe.heed cmds.dev.sys.shutdown }
  | .sensorPass ms r =>
    if s.Samples then
      let m := profile.sensorHook r (.stamped (s.pipe.seq + 1) ms.toNat) s.dev
      { s with
        cmds := { s.cmds with dev := m.2.2 }
        pipe := s.pipe.apply (.sensorPass ms (profile.seqHook r s.dev)) }
    else if s.Passes then { s with pipe := s.pipe.apply (.sensorPass ms bareHook) }
    else s
  | .relay op => { s with pipe := s.pipe.apply op.pipeOp }
  | .diag id => { s with cmds := { s.cmds with dev := (Op.diag id).apply profile s.dev } }
  | .otaProgress state =>
    { s with cmds := { s.cmds with dev := (Op.otaProgress state).apply profile s.dev } }

/-- What `app_main` leaves when it has started the tasks. -/
def Board.start (d : Device F) : Board F := ⟨.start d, .start, false⟩

/-- The operation on the device that a step amounts to. -/
def Board.shows (profile : Profile) (s : Board F) : BoardOp → Option (Op F)
  | .setHooks => none
  | .cmd (.hook P past) => s.cmds.held.map fun x => .command P past x.msg
  | .cmd _ => none
  | .sensorPass _ r => if s.Samples then some (profile.sample r) else none
  | .relay _ => none
  | .diag id => some (.diag id)
  | .otaProgress state => some (.otaProgress state)

theorem sensorHook_dev (profile : Profile) (r : SensorReads) (msg : IotTelemetryMsg)
    (d : Device F) : (profile.sensorHook r msg d).2.2 = (profile.sample r).apply profile d := by
  obtain ⟨payload, len, h⟩ := sensorHook_spec profile r msg d
  rw [h]

/-- An arrival leaves what it puts at the end of the queue, if anything. -/
structure CmdSys.Arrival (s s' : CmdSys F) : Prop where
  dev : s'.dev = s.dev
  held : s'.held = s.held
  handed : s'.handed = s.handed
  received : s'.queue.received = s.queue.received
  sent : s.queue.sent <+: s'.queue.sent
  waiting : s.queue.waiting.length ≤ commandQLen → s'.queue.waiting.length ≤ commandQLen

omit [CFloat F] in
theorem CmdSys.arrival_put (s : CmdSys F) (x : Queued) :
    s.Arrival { s with queue := (s.queue.send commandQLen x).getD s.queue } := by
  cases hq : s.queue.send commandQLen x with
  | none => exact ⟨rfl, rfl, rfl, rfl, List.prefix_rfl, id⟩
  | some q =>
    obtain ⟨hroom, hsent, hreceived, hwait⟩ := Ledger.send_eq_some hq
    refine ⟨rfl, rfl, rfl, hreceived, ?_, fun _ => ?_⟩
    · rw [Option.getD_some, hsent]
      exact List.prefix_append _ _
    · simpa [hwait] using hroom

theorem Board.arrival (profile : Profile) (s : Board F) {op : CmdOp} (h : op.arrives = true) :
    s.cmds.Arrival (s.cmdStep profile op) := by
  unfold Board.cmdStep
  split_ifs
  · exact ⟨rfl, rfl, rfl, rfl, List.prefix_rfl, id⟩
  · cases op with
    | bleWrite uuid16 value => exact s.cmds.arrival_put _
    | mqttData data => exact s.cmds.arrival_put _
    | receive => cases h
    | hook P past => cases h

@[simp] theorem Board.cmdStep_receive (profile : Profile) (s : Board F) :
    s.cmdStep profile .receive = s.cmds.apply profile .receive := rfl

@[simp] theorem Board.cmdStep_hook (profile : Profile) (s : Board F) (P : Platform)
    (past : List UInt8) :
    s.cmdStep profile (.hook P past) = s.cmds.apply profile (.hook P past) := rfl

/-- The steps of the board that the device sees, one after the other. -/
def Board.history (profile : Profile) :
    Simulation (Board.apply (F := F) profile) (Op.apply (F := F) profile) where
  abs := Board.dev
  label := Board.shows profile
  sim s op := by
    cases op with
    | setHooks => rfl
    | cmd op =>
      cases op with
      | bleWrite uuid16 value => exact (s.arrival profile rfl).dev
      | mqttData data => exact (s.arrival profile rfl).dev
      | receive =>
        simp only [Board.apply, Board.cmdStep_receive, Board.shows, CmdSys.apply, Option.elim_none]
        split <;> rfl
      | hook P past =>
        cases h : s.cmds.held with
        | none => simp [Board.apply, Board.shows, CmdSys.apply, h]
        | some x => simp [Board.apply, Board.shows, CmdSys.apply, h, Op.apply]
    | sensorPass ms r =>
      by_cases h : s.Samples
      · simp only [Board.apply, Board.shows, if_pos h, Option.elim_some]
        exact sensorHook_dev profile r _ s.dev
      · simp only [Board.apply, Board.shows, if_neg h, Option.elim_none]
        split_ifs <;> rfl
    | relay op => rfl
    | diag id => rfl
    | otaProgress state => rfl

/-- The step of the pipeline that a step of the board amounts to. -/
def Board.pipeShows (profile : Profile) (s : Board F) : BoardOp → Option PipeOp
  | .setHooks => none
  | .cmd op => if (s.cmdStep profile op).dev.sys.shutdown then some .requestShutdown else none
  | .sensorPass ms r =>
    if s.Samples then some (.sensorPass ms (profile.seqHook r s.dev))
    else if s.Passes then some (.sensorPass ms bareHook)
    else none
  | .relay op => some op.pipeOp
  | .diag _ | .otaProgress _ => none

def Board.pipeline (profile : Profile) :
    Simulation (Board.apply (F := F) profile) Pipeline.apply where
  abs := Board.pipe
  label := Board.pipeShows profile
  sim s op := by
    cases op with
    | setHooks => rfl
    | cmd op =>
      cases h : (s.cmdStep profile op).dev.sys.shutdown <;>
        simp [Board.apply, Board.pipeShows, Pipeline.heed, h]
    | sensorPass ms r =>
      simp only [Board.apply, Board.pipeShows]
      split_ifs <;> rfl
    | relay op => rfl
    | diag id => rfl
    | otaProgress state => rfl

/-- The states that the samples of a history leave. -/
def sampleStates (profile : Profile) (d : Device F) (history : List (Op F)) : List (Device F) :=
  (trace (Op.apply profile) d history).filterMap fun e =>
    if e.2.1.sampleFn.isSome then some e.2.2 else none

/-- The command that an operation hands to the hook. -/
def Op.cmd : Op F → Option (IotCommandMsg iotJsonSmallLen)
  | .command _ _ cmd => some cmd
  | _ => none

theorem sample_isSome (profile : Profile) (r : SensorReads) :
    (profile.sample r : Op F).sampleFn.isSome = true := by cases profile <;> rfl

theorem sample_command (profile : Profile) (r : SensorReads) :
    (profile.sample r : Op F).cmd = none := by cases profile <;> rfl

theorem sampleStates_concat (profile : Profile) (d : Device F) (history : List (Op F)) (op : Op F) :
    sampleStates profile d (history ++ [op]) = sampleStates profile d history ++
      if op.sampleFn.isSome then [op.apply profile (d.after profile history)] else [] := by
  rw [sampleStates, trace_concat, List.filterMap_append]
  by_cases h : op.sampleFn.isSome = true <;> simp [sampleStates, h, Device.after]

theorem sampleStates_quiet (profile : Profile) (d : Device F) (history : List (Op F))
    {o : Option (Op F)} (ho : ∀ op ∈ o, op.sampleFn = none) :
    sampleStates profile d (history ++ o.toList) = sampleStates profile d history := by
  cases o with
  | none => rw [Option.toList_none, List.append_nil]
  | some op => simp [sampleStates_concat, ho op rfl]

/-- Only a pass through the loop of `sensor_task` shows as a sample. -/
theorem shows_quiet (profile : Profile) (s : Board F) {op : BoardOp}
    (hop : ∀ ms r, op = .sensorPass ms r → ¬ s.Samples) :
    ∀ x ∈ s.shows profile op, x.sampleFn = none := by
  intro x hx
  cases op with
  | setHooks => cases hx
  | cmd op =>
    cases op with
    | hook P past =>
      obtain ⟨y, -, rfl⟩ := Option.map_eq_some_iff.mp hx
      rfl
    | _ => cases hx
  | sensorPass ms r => simp [Board.shows, hop ms r rfl] at hx
  | relay op => cases hx
  | diag id =>
    obtain rfl := Option.some.inj hx
    rfl
  | otaProgress state =>
    obtain rfl := Option.some.inj hx
    rfl

end

section
variable {F : Type} [CFloat F] {profile : Profile}

/-- The commands of a history are those handed over, and these are what the queue has given out. -/
structure Board.InOrder (history : List (Op F)) (s : Board F) : Prop where
  handed : history.filterMap Op.cmd = s.cmds.handed.map Queued.msg
  served : s.cmds.handed ++ s.cmds.held.toList = s.cmds.queue.received

omit [CFloat F] in
theorem Board.InOrder.isPrefix {history : List (Op F)} {s : Board F} (h : s.InOrder history) :
    history.filterMap Op.cmd <+: s.cmds.queue.sent.map Queued.msg := by
  rw [h.handed, s.cmds.queue.complete, ← h.served, List.append_assoc]
  exact (List.prefix_append _ _).map Queued.msg

theorem Board.InOrder.step {history : List (Op F)} {s : Board F} (h : s.InOrder history)
    (op : BoardOp) : (s.apply profile op).InOrder (history ++ (s.shows profile op).toList) := by
  have hquiet {s' : Board F} (ha : s.cmds.Arrival s'.cmds) : s'.InOrder history :=
    ⟨by rw [ha.handed, h.handed], by rw [ha.handed, ha.held, ha.received, h.served]⟩
  obtain ⟨hhanded, hserved⟩ := id h
  cases op with
  | setHooks => exact ⟨by simpa [Board.shows, Board.apply] using hhanded, hserved⟩
  | cmd op =>
    cases op with
    | bleWrite uuid16 value =>
      simpa [Board.shows] using hquiet (s.arrival profile rfl)
    | mqttData data =>
      simpa [Board.shows] using hquiet (s.arrival profile rfl)
    | receive =>
      simp only [Board.apply, Board.cmdStep_receive, Board.shows, CmdSys.apply, Option.toList_none,
        List.append_nil]
      split
      · next x q hheld hrun hq =>
        obtain ⟨-, -, hrecv⟩ := Ledger.recv_eq_some hq
        exact ⟨hhanded, by simp [hrecv, ← hserved, hheld]⟩
      · exact ⟨hhanded, hserved⟩
    | hook P past =>
      cases hheld : s.cmds.held with
      | none =>
        simp only [Board.apply, Board.cmdStep_hook, Board.shows, CmdSys.apply, hheld,
          Option.map_none, Option.toList_none, List.append_nil]
        exact ⟨hhanded, hheld ▸ hserved⟩
      | some x =>
        simp only [Board.apply, Board.cmdStep_hook, Board.shows, CmdSys.apply, hheld,
          Option.map_some, Option.toList_some]
        exact ⟨by simp [hhanded, Op.cmd], by simpa [hheld] using hserved⟩
  | sensorPass ms r =>
    by_cases hs : s.Samples
    · simp only [Board.apply, Board.shows, if_pos hs]
      exact ⟨by simp [sample_command, hhanded], hserved⟩
    · simp only [Board.apply, Board.shows, if_neg hs, Option.toList_none, List.append_nil]
      split_ifs <;> exact ⟨hhanded, hserved⟩
  | relay op => exact ⟨by simpa [Board.shows, Board.apply] using hhanded, hserved⟩
  | diag id => exact ⟨by simp [Board.shows, Board.apply, hhanded, Op.cmd], hserved⟩
  | otaProgress state => exact ⟨by simp [Board.shows, Board.apply, hhanded, Op.cmd], hserved⟩

theorem Board.run_inOrder (d : Device F) (ops : List BoardOp) :
    (ops.foldl (Board.apply profile) (.start d)).InOrder
      ((Board.history profile).labels (.start d) ops) := by
  induction ops using List.reverseRecOn with
  | nil => exact ⟨rfl, rfl⟩
  | append_singleton ops op ih =>
    rw [List.foldl_append, Simulation.labels_concat]
    exact ih.step op

/-- The pipeline has the flag of the device. -/
def Board.Heeds (s : Board F) : Prop := s.pipe.shutdown = s.dev.sys.shutdown

theorem Board.cmdStep_shutdown {s : Board F} (h : s.dev.sys.shutdown = true) (op : CmdOp) :
    (s.cmdStep profile op).dev.sys.shutdown = true := by
  cases op with
  | bleWrite uuid16 value =>
    rw [(s.arrival profile rfl).dev]
    exact h
  | mqttData data =>
    rw [(s.arrival profile rfl).dev]
    exact h
  | receive =>
    simp only [Board.cmdStep_receive, CmdSys.apply]
    split <;> exact h
  | hook P past =>
    simp only [Board.cmdStep_hook, CmdSys.apply]
    split
    · next x hx => exact (cmdHook_shutBy P s.dev past x.msg profile).mpr (Or.inl h)
    · exact h

theorem sample_sys (r : SensorReads) (d : Device F) :
    ((profile.sample r).apply profile d).sys = d.sys := by cases profile <;> rfl

/-- A step of the pipeline other than a pass makes no message and leaves the flag. -/
theorem relay_kept (s : Pipeline) (op : RelayOp) : (s.apply op.pipeOp).passes = s.passes ∧
    (s.apply op.pipeOp).produced = s.produced ∧ (s.apply op.pipeOp).shutdown = s.shutdown := by
  cases op with
  | mqttStop => exact ⟨rfl, rfl, rfl⟩
  | _ =>
    simp only [RelayOp.pipeOp, Pipeline.apply]
    split <;> exact ⟨rfl, rfl, rfl⟩

theorem heed_kept (flag : Bool) (s : Pipeline) : (s.heed flag).passes = s.passes ∧
    (s.heed flag).produced = s.produced ∧ (s.heed flag).shutdown = (flag || s.shutdown) := by
  cases flag <;> exact ⟨rfl, rfl, rfl⟩

/-- What a pass through the loop of `sensor_task` adds to the pipeline. -/
theorem pass_added {s : Pipeline} (hnone : s.sensor = none) (hrun : s.shutdown = false)
    (ms : UInt32) (hook : SeqHook) (hok : (hook.1 (.stamped (s.seq + 1) ms.toNat)).1 = .ok) :
    let s' := s.apply (.sensorPass ms hook)
    let m := (hook.1 (.stamped (s.seq + 1) ms.toNat)).2
    s'.passes = s.passes + 1 ∧ s'.produced = s.produced ++ [m] ∧ s'.shutdown = false ∧
      m.seq = s.seq + 1 := by
  intro s' m
  refine ⟨?_, ?_, ?_, hook.2 _⟩ <;>
    simp only [s', m, Pipeline.apply, hnone, hrun, hok, if_true]

theorem seqHook_ok (profile : Profile) (r : SensorReads) (d : Device F) (msg : IotTelemetryMsg) :
    ((profile.seqHook r d).1 msg).1 = .ok := by
  obtain ⟨payload, len, h⟩ := sensorHook_spec profile r msg d
  simp only [Profile.seqHook, h]

theorem Board.Heeds.step {s : Board F} (h : s.Heeds) (op : BoardOp) :
    (s.apply profile op).Heeds := by
  unfold Board.Heeds at h
  cases op with
  | setHooks => exact h
  | cmd op =>
    have hflag := (heed_kept (s.cmdStep profile op).dev.sys.shutdown s.pipe).2.2
    refine hflag.trans (Bool.or_eq_left_iff_imp.mpr ?_)
    rw [h]
    exact fun hset => Board.cmdStep_shutdown hset op
  | sensorPass ms r =>
    by_cases hs : s.Samples
    · have hadded := pass_added hs.1.1 (h.trans hs.1.2) ms _ (seqHook_ok profile r s.dev _)
      simp only [Board.apply, if_pos hs, Board.Heeds, Board.dev, sensorHook_dev, sample_sys]
      exact hadded.2.2.1.trans hs.1.2.symm
    · simp only [Board.apply, if_neg hs]
      split_ifs with hp
      · have hadded := pass_added hp.1 (h.trans hp.2) ms bareHook rfl
        exact hadded.2.2.1.trans hp.2.symm
      · exact h
  | relay op => exact (relay_kept s.pipe op).2.2.trans h
  | diag id => exact h
  | otaProgress state => exact h

theorem Board.run_heeds (P : Platform) (wdtReset : Bool) (nvs : Option NvsImage)
    (ops : List BoardOp) : (ops.foldl (Board.apply profile)
      (.start (appMain P profile wdtReset nvs : Device F))).Heeds :=
  List.foldlRecOn ops _ rfl fun _ h op _ => h.step op

end

section
variable {F : Type} [CFloat F]

/-- A message of one of the `bare` passes before the hooks were set; or its number counts on from
there to the sample that it tells. -/
def TellsPass (profile : Profile) (bare : ℕ) (states : List (Device F)) (m : IotTelemetryMsg) :
    Prop :=
  m.seq.toNat ≤ bare ∧ m.sent = txt "\x7b\x7d" ∨
    ∃ k d, m.seq.toNat = bare + k + 1 ∧ states[k]? = some d ∧ profile.Reports d m.sent

/-- The passes are those before the hooks were set and the samples, and every message tells its
pass. -/
structure Board.Tells (profile : Profile) (bare : ℕ) (states : List (Device F)) (s : Board F) :
    Prop where
  counted : s.pipe.passes = bare + states.length
  hooked : s.hooks = false → states = []
  told : ∀ m ∈ s.pipe.produced, TellsPass profile bare states m

variable {profile : Profile} {bare : ℕ} {states : List (Device F)} {s : Board F}

theorem TellsPass.append {m : IotTelemetryMsg} (h : TellsPass profile bare states m)
    (more : List (Device F)) : TellsPass profile bare (states ++ more) m := by
  rcases h with h | ⟨k, d, hk, hstate, hreports⟩
  · exact Or.inl h
  · have hlt : k < states.length := (List.getElem?_eq_some_iff.mp hstate).1
    exact Or.inr ⟨k, d, hk, (List.getElem?_append_left hlt).trans hstate, hreports⟩

/-- A step that is no pass through the loop of `sensor_task` adds neither sample nor message. -/
theorem Board.Tells.keep {s' : Board F} (h : s.Tells profile bare states)
    (hpasses : s'.pipe.passes = s.pipe.passes) (hproduced : s'.pipe.produced = s.pipe.produced)
    (hhooks : s'.hooks = false → s.hooks = false) : s'.Tells profile bare states :=
  ⟨hpasses.trans h.counted, fun hn => h.hooked (hhooks hn), hproduced ▸ h.told⟩

theorem bareHook_sent (msg : IotTelemetryMsg) : (bareHook.1 msg).2.sent = txt "\x7b\x7d" := by
  change (CBuf.store 768 (txt "\x7b\x7d")).text.take (2 : UInt16).toNat = _
  decide +kernel

theorem seq_succ_toNat {s : Pipeline} (hseq : s.seq.toNat = s.passes)
    (hlt : s.passes + 1 < 2 ^ 32) : (s.seq + 1).toNat = s.passes + 1 := by
  rw [UInt32.toNat_add, hseq]
  exact Nat.mod_eq_of_lt hlt

section
variable (h : s.Tells profile bare states) (hheeds : s.Heeds)
  (hseq : s.pipe.seq.toNat = s.pipe.passes) {ms : UInt32} {r : SensorReads}
  (hlt : (s.apply profile (.sensorPass ms r)).pipe.passes < 2 ^ 32)
include h hheeds hseq hlt

theorem Board.Tells.pass [CFloat.Prints F] (hs : s.Samples) (hd : Reachable profile s.dev) :
    (s.apply profile (.sensorPass ms r)).Tells profile bare
      (states ++ [(profile.sample r).apply profile s.dev]) := by
  obtain ⟨hpasses, hproduced, -, hnum⟩ :=
    pass_added hs.1.1 (hheeds.trans hs.1.2) ms _ (seqHook_ok profile r s.dev _)
  simp only [Board.apply, if_pos hs] at hlt ⊢
  rw [hpasses] at hlt
  refine ⟨by rw [hpasses, h.counted, List.length_append, List.length_singleton, add_assoc],
    fun hn => absurd (hs.2.symm.trans hn) (by decide), ?_⟩
  rw [hproduced, List.forall_mem_append, List.forall_mem_singleton]
  refine ⟨fun m hm => (h.told m hm).append _, Or.inr ⟨states.length, _, ?_,
    List.getElem?_concat_length, sensorHook_reports hd r _⟩⟩
  rw [hnum, seq_succ_toNat hseq hlt, h.counted]

/-- A pass before the hooks are set sends an empty object. -/
theorem Board.Tells.barePass (hs : ¬ s.Samples) (hp : s.Passes) :
    (s.apply profile (.sensorPass ms r)).Tells profile (bare + 1) states := by
  have hhooks : s.hooks = false := Bool.eq_false_of_not_eq_true fun ht => hs ⟨hp, ht⟩
  obtain rfl := h.hooked hhooks
  have hcounted := h.counted
  rw [List.length_nil, add_zero] at hcounted
  obtain ⟨hpasses, hproduced, -, hnum⟩ :=
    pass_added hp.1 (hheeds.trans hp.2) ms bareHook rfl
  simp only [Board.apply, if_neg hs, if_pos hp] at hlt ⊢
  rw [hpasses] at hlt
  refine ⟨by rw [hpasses, hcounted]; rfl, fun _ => rfl, ?_⟩
  rw [hproduced, List.forall_mem_append, List.forall_mem_singleton]
  refine ⟨fun m hm => ?_, Or.inl ⟨?_, bareHook_sent _⟩⟩
  · rcases h.told m hm with ⟨hle, hsent⟩ | ⟨k, d, -, hstate, -⟩
    · exact Or.inl ⟨hle.trans (Nat.le_succ _), hsent⟩
    · cases hstate
  · rw [hnum, seq_succ_toNat hseq hlt, hcounted]

end

theorem Board.Tells.step [CFloat.Prints F] {d : Device F} {history : List (Op F)}
    (h : s.Tells profile bare (sampleStates profile d history)) (hheeds : s.Heeds)
    (hdev : s.dev = d.after profile history) (hd : Reachable profile s.dev)
    (hseq : s.pipe.seq.toNat = s.pipe.passes) (op : BoardOp)
    (hlt : (s.apply profile op).pipe.passes < 2 ^ 32) :
    ∃ bare', (s.apply profile op).Tells profile bare'
      (sampleStates profile d (history ++ (s.shows profile op).toList)) := by
  by_cases hpass : ∃ ms r, op = .sensorPass ms r ∧ s.Samples
  · obtain ⟨ms, r, rfl, hs⟩ := hpass
    have hstates : sampleStates profile d (history ++
        (s.shows profile (.sensorPass ms r)).toList) =
          sampleStates profile d history ++ [(profile.sample r).apply profile s.dev] := by
      rw [Board.shows, if_pos hs, Option.toList_some, sampleStates_concat,
        if_pos (sample_isSome profile r), hdev]
    rw [hstates]
    exact ⟨bare, h.pass hheeds hseq hlt hs hd⟩
  · have hquiet : ∀ ms r, op = .sensorPass ms r → ¬ s.Samples :=
      fun ms r hop hs => hpass ⟨ms, r, hop, hs⟩
    rw [sampleStates_quiet profile d history (shows_quiet profile s hquiet)]
    cases op with
    | setHooks => exact ⟨bare, h.keep rfl rfl fun hn => absurd hn (by simp [Board.apply])⟩
    | cmd op =>
      obtain ⟨hpasses, hproduced, -⟩ := heed_kept (s.cmdStep profile op).dev.sys.shutdown s.pipe
      exact ⟨bare, h.keep hpasses hproduced id⟩
    | sensorPass ms r =>
      have hs := hquiet ms r rfl
      by_cases hp : s.Passes
      · exact ⟨bare + 1, h.barePass hheeds hseq hlt hs hp⟩
      · simp only [Board.apply, if_neg hs, if_neg hp]
        exact ⟨bare, h⟩
    | relay op =>
      obtain ⟨hpasses, hproduced, -⟩ := relay_kept s.pipe op
      exact ⟨bare, h.keep hpasses hproduced id⟩
    | diag id => exact ⟨bare, h.keep rfl rfl fun hn => hn⟩
    | otaProgress state => exact ⟨bare, h.keep rfl rfl fun hn => hn⟩

theorem Board.passes_le (s : Board F) (op : BoardOp) :
    s.pipe.passes ≤ (s.apply profile op).pipe.passes := by
  have hsim : (s.apply profile op).pipe = (s.pipeShows profile op).elim s.pipe s.pipe.apply :=
    (Board.pipeline profile).sim s op
  rw [hsim]
  cases s.pipeShows profile op with
  | none => exact le_rfl
  | some op => exact s.pipe.passes_le op

end

section
variable (F : Type) [CFloat F] (P : Platform) (profile : Profile) (wdtReset : Bool)
  (nvs : Option NvsImage) (ops : List BoardOp)

/-- The board after a run from boot. -/
def boardAfter : Board F :=
  ops.foldl (Board.apply profile) (.start (appMain P profile wdtReset nvs))

/-- What the device has gone through in that run. -/
def boardHistory : List (Op F) :=
  (Board.history profile).labels (.start (appMain P profile wdtReset nvs)) ops

theorem board_dev : (boardAfter F P profile wdtReset nvs ops).dev =
    (appMain P profile wdtReset nvs).after profile (boardHistory F P profile wdtReset nvs ops) :=
  (Board.history profile).run _ ops

theorem board_reachable : Reachable profile (boardAfter F P profile wdtReset nvs ops).dev :=
  (Board.history profile).invariant (fun _ op h => h.step op) (.boot P wdtReset nvs) ops

theorem board_pipe : (boardAfter F P profile wdtReset nvs ops).pipe = Pipeline.after
    ((Board.pipeline profile).labels (.start (appMain P profile wdtReset nvs : Device F)) ops) :=
  (Board.pipeline profile).run (.start (appMain P profile wdtReset nvs : Device F)) ops

theorem board_ordered (h : (boardAfter F P profile wdtReset nvs ops).pipe.passes < 2 ^ 32) :
    (boardAfter F P profile wdtReset nvs ops).pipe.Ordered := by
  rw [board_pipe] at h ⊢
  exact Pipeline.after_ordered _ h

theorem board_tells [CFloat.Prints F]
    (h : (boardAfter F P profile wdtReset nvs ops).pipe.passes < 2 ^ 32) :
    ∃ bare, (boardAfter F P profile wdtReset nvs ops).Tells profile bare
      (sampleStates profile (appMain P profile wdtReset nvs)
        (boardHistory F P profile wdtReset nvs ops)) := by
  induction ops using List.reverseRecOn with
  | nil => exact ⟨0, rfl, fun _ => rfl, fun m hm => absurd hm List.not_mem_nil⟩
  | append_singleton ops op ih =>
    have hnext : boardAfter F P profile wdtReset nvs (ops ++ [op]) =
        (boardAfter F P profile wdtReset nvs ops).apply profile op := by
      simp [boardAfter]
    have hhistory : boardHistory F P profile wdtReset nvs (ops ++ [op]) =
        boardHistory F P profile wdtReset nvs ops ++
          ((boardAfter F P profile wdtReset nvs ops).shows profile op).toList :=
      (Board.history profile).labels_concat _ ops op
    rw [hnext] at h ⊢
    rw [hhistory]
    have hlt := (Board.passes_le _ op).trans_lt h
    obtain ⟨bare, htells⟩ := ih hlt
    exact htells.step (Board.run_heeds P wdtReset nvs ops) (board_dev F P profile wdtReset nvs ops)
      (board_reachable F P profile wdtReset nvs ops)
      (board_ordered F P profile wdtReset nvs ops hlt).seq op h

end

/-- The tasks whose hooks work on the device. -/
inductive HookTask
  | cmd | sensor
  deriving DecidableEq, Repr

/-- A task enters its hook, or a step of the board is made, which may complete one. `torn` is what
the device has become where hooks overlap. -/
inductive TaskEvent (F : Type)
  | enter (t : HookTask)
  | step (op : BoardOp) (torn : Device F)

/-- The task whose hook a step completes. -/
def BoardOp.completes : BoardOp → Option HookTask
  | .cmd (.hook _ _) => some .cmd
  | .sensorPass _ _ => some .sensor
  | _ => none

/-- A step that reads or writes what hooks work on. -/
def BoardOp.touches : BoardOp → Bool
  | .cmd (.hook _ _) | .sensorPass _ _ | .diag _ | .otaProgress _ => true
  | _ => false

/-- The board, who is inside a hook, and whether anything has fallen into the hook of another. -/
structure Crew (F : Type) where
  board : Board F
  inside : HookTask → Bool
  torn : Bool

section
variable {F : Type}

/-- A hook is completed by a task that has entered it. -/
def Crew.Ready (s : Crew F) (op : BoardOp) : Prop := ∀ t ∈ op.completes, s.inside t = true

/-- A step on the device while another task is inside its hook. -/
def Crew.Overlaps (s : Crew F) (op : BoardOp) : Prop :=
  op.touches = true ∧ ∃ t ∈ [HookTask.cmd, .sensor], s.inside t = true ∧ op.completes ≠ some t

instance Crew.decidableReady (s : Crew F) (op : BoardOp) : Decidable (s.Ready op) :=
  inferInstanceAs (Decidable (∀ t ∈ op.completes, s.inside t = true))

instance Crew.decidableOverlaps (s : Crew F) (op : BoardOp) : Decidable (s.Overlaps op) :=
  inferInstanceAs (Decidable (op.touches = true ∧ ∃ t ∈ [HookTask.cmd, .sensor],
    s.inside t = true ∧ op.completes ≠ some t))

variable [CFloat F]

/-- A hook takes effect when it is completed. From the first overlap on the device may be
anything. -/
def Crew.apply (profile : Profile) (s : Crew F) : TaskEvent F → Crew F
  | .enter t => { s with inside := Function.update s.inside t true }
  | .step op torn =>
    if s.Ready op then
      let board := s.board.apply profile op
      let inside := op.completes.elim s.inside fun t => Function.update s.inside t false
      if s.torn = true ∨ s.Overlaps op then
        ⟨{ board with cmds := { board.cmds with dev := torn } }, inside, true⟩
      else ⟨board, inside, false⟩
    else s

/-- Steps of a board that is there until hooks overlap. -/
def Board.applyWhole (profile : Profile) (s : Option (Board F)) :
    Option BoardOp → Option (Board F)
  | some op => s.map fun b => b.apply profile op
  | none => none

/-- The step that an event makes, or the overlap that it is. -/
def Crew.shows (s : Crew F) : TaskEvent F → Option (Option BoardOp)
  | .enter _ => none
  | .step op _ => if s.Ready op then some (if s.Overlaps op then none else some op) else none

def Crew.whole (profile : Profile) :
    Simulation (Crew.apply (F := F) profile) (Board.applyWhole (F := F) profile) where
  abs s := if s.torn then none else some s.board
  label := Crew.shows
  sim s e := by
    cases e with
    | enter t => rfl
    | step op torn =>
      simp only [Crew.apply, Crew.shows]
      by_cases hready : s.Ready op
      · cases ht : s.torn <;> by_cases hover : s.Overlaps op <;>
          simp [hready, hover, Board.applyWhole]
      · simp [hready]

theorem applyWhole_run {profile : Profile} {steps : List (Option BoardOp)} {b b' : Board F}
    (h : steps.foldl (Board.applyWhole profile) (some b) = some b') :
    steps.reduceOption.foldl (Board.apply profile) b = b' := by
  induction steps generalizing b with
  | nil => exact Option.some.inj h
  | cons step steps ih =>
    cases step with
    | some op => exact ih h
    | none =>
      have hnone : ∀ steps : List (Option BoardOp),
          steps.foldl (Board.applyWhole (F := F) profile) none = none := by
        intro steps
        refine List.foldlRecOn (motive := (· = none)) steps _ rfl ?_
        rintro s rfl step -
        cases step <;> rfl
      have habsent := (hnone steps).symm.trans h
      cases habsent

end

section
variable (F : Type) [CFloat F] (P : Platform) (profile : Profile) (wdtReset : Bool)
  (nvs : Option NvsImage) (events : List (TaskEvent F))

/-- The tasks when they are started: none is inside a hook. -/
def Crew.start : Crew F := ⟨.start (appMain P profile wdtReset nvs), fun _ => false, false⟩

def crewAfter : Crew F := events.foldl (Crew.apply profile) (.start F P profile wdtReset nvs)

/-- The steps of the board in a run. -/
def crewSteps : List BoardOp :=
  ((Crew.whole profile).labels (.start F P profile wdtReset nvs) events).reduceOption

/-- Where nothing overlaps, the board is what its steps make of it one after the other. -/
theorem crew_board (h : (crewAfter F P profile wdtReset nvs events).torn = false) :
    (crewAfter F P profile wdtReset nvs events).board =
      boardAfter F P profile wdtReset nvs (crewSteps F P profile wdtReset nvs events) := by
  have hrun := (Crew.whole profile).run (.start F P profile wdtReset nvs) events
  have habs : (Crew.whole profile).abs (crewAfter F P profile wdtReset nvs events) =
      some (crewAfter F P profile wdtReset nvs events).board := by
    simp [Crew.whole, h]
  exact (applyWhole_run (hrun.symm.trans habs)).symm

/-- Where no hook overlaps another, nor another access to the device, the device goes through one
history of operations. Its commands are the first of those that the queue accepted, in their order,
and the messages handed to `iot_mqtt_publish_telemetry` have rising numbers and tell the samples of
the history, one after the other, behind the passes made before the hooks were set. -/
theorem tasks_share_one_history [CFloat.Prints F]
    (hwhole : (crewAfter F P profile wdtReset nvs events).torn = false)
    (hpasses : (crewAfter F P profile wdtReset nvs events).board.pipe.passes < 2 ^ 32) :
    let s := (crewAfter F P profile wdtReset nvs events).board
    let boot : Device F := appMain P profile wdtReset nvs
    let history := boardHistory F P profile wdtReset nvs (crewSteps F P profile wdtReset nvs events)
    s.dev = boot.after profile history ∧
      history.filterMap Op.cmd <+: s.cmds.queue.sent.map Queued.msg ∧
      (s.pipe.handed.Pairwise fun a b => a.seq < b.seq) ∧
      ∃ bare, s.pipe.passes = bare + (sampleStates profile boot history).length ∧
        ∀ m ∈ s.pipe.handed, TellsPass profile bare (sampleStates profile boot history) m := by
  intro s boot history
  have hs : s = boardAfter F P profile wdtReset nvs (crewSteps F P profile wdtReset nvs events) :=
    crew_board F P profile wdtReset nvs events hwhole
  have hlt : (boardAfter F P profile wdtReset nvs
      (crewSteps F P profile wdtReset nvs events)).pipe.passes < 2 ^ 32 := hs ▸ hpasses
  obtain ⟨hsub, hrising, -⟩ := (board_ordered F P profile wdtReset nvs _ hlt).handed
  obtain ⟨bare, htells⟩ := board_tells F P profile wdtReset nvs _ hlt
  rw [hs]
  exact ⟨board_dev F P profile wdtReset nvs _, (Board.run_inOrder _ _).isPrefix, hrising, bare,
    htells.counted, fun m hm => htells.told m (hsub.subset hm)⟩

end

/-- An empty object is sent before the hooks are set. Then a command arrives and is executed while
the message of the first sample is on its way, and is inside its hook while the message moves on. -/
def commandMeanwhile : List (TaskEvent ℚ) :=
  let d : Device ℚ := .static ℚ none
  [.enter .sensor, .step (.sensorPass 0 anyReads) d, .step .setHooks d,
    .step (.relay .sensorSend) d,
    .step (.cmd (.mqttData (txt "\x7b\"uc\":\"robot.battery\",\"mv\":7000\x7d"))) d,
    .enter .sensor, .step (.relay .procRecv) d, .step (.sensorPass 200 anyReads) d,
    .step (.cmd .receive) d, .step (.relay .procSend) d, .enter .cmd,
    .step (.relay .sensorSend) d, .step (.relay .procRecv) d,
    .step (.cmd (.hook hostPlatform [])) d, .step (.relay .procSend) d,
    .step (.relay .pumpRecv) d, .step (.relay (.pumpPublish .ok)) d,
    .step (.relay .pumpRecv) d, .step (.relay (.pumpPublish .ok)) d]

theorem first_message_tells_first_sample :
    let s := (crewAfter ℚ hostPlatform .robotics false none commandMeanwhile).board
    let history := boardHistory ℚ hostPlatform .robotics false none
      (crewSteps ℚ hostPlatform .robotics false none commandMeanwhile)
    s.pipe.handed.map (·.seq) = [1, 2] ∧ history.length = 2 ∧
      ∃ bare, s.pipe.passes = bare + 1 ∧ ∀ m ∈ s.pipe.handed, TellsPass .robotics bare
        (sampleStates .robotics (appMain hostPlatform .robotics false none) history) m := by
  intro s history
  obtain ⟨-, -, -, bare, hcounted, htells⟩ := tasks_share_one_history ℚ hostPlatform .robotics false
    none commandMeanwhile (by decide +kernel) (by decide +kernel)
  have hsamples : (sampleStates .robotics (appMain hostPlatform .robotics false none)
      history).length = 1 := by decide +kernel
  refine ⟨by decide +kernel, by decide +kernel, bare, ?_, htells⟩
  rw [← hsamples]
  exact hcounted

end IotPlatform
