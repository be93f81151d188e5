import IotPlatform.Interleaving

/-!
# Accepted commands are executed

While `cmd_task` is not told to end, every round in which it receives and hands over takes the
oldest accepted command one step on, and none is dropped once it is on the queue. So what the device
goes through comes to hold every accepted command, in the order of the queue.
-/
namespace IotPlatform
open CText CFloat Queues Runs

/-- The two steps of a pass through the loop of `cmd_task`. -/
inductive CmdStep
  | receive | hook
  deriving DecidableEq

def CmdStep.Serves : CmdStep → BoardOp → Prop
  | .receive, .cmd .receive => True
  | .hook, .cmd (.hook _ _) => True
  | _, _ => False

section
variable {F : Type}

/-- The step that the oldest command waits for. -/
def CmdSys.next (s : CmdSys F) : CmdStep := if s.held.isSome then .hook else .receive

/-- The steps until the first `n` accepted commands have been handed over. -/
def CmdSys.stepsLeft (n : ℕ) (s : CmdSys F) : ℕ :=
  2 * (n - s.handed.length) - s.held.toList.length

theorem CmdSys.held_le (s : CmdSys F) : s.held.toList.length ≤ 1 := by cases s.held <;> simp

/-- What has been received is handed over or held, and `old` was accepted first. -/
structure CmdSys.Accepts (old : List Queued) (s : CmdSys F) : Prop where
  served : s.handed ++ s.held.toList = s.queue.received
  accepted : old <+: s.queue.sent

/-- A task that goes on has this many steps left for the accepted commands `old`; one that was told
to end has none. -/
def Board.CmdDue (old : List Queued) (s : Board F) (n : ℕ) (next : CmdStep) : Prop :=
  next = s.cmds.next ∧ if s.dev.sys.shutdown then n = 0 else
    s.cmds.Accepts old ∧ n = s.cmds.stepsLeft old.length

variable {old : List Queued} {s s' : Board F} {n : ℕ} {next : CmdStep}

/-- A step that leaves `cmd_task` alone may add to the queue. -/
theorem Board.CmdDue.quiet (h : s.CmdDue old n next) (hheld : s'.cmds.held = s.cmds.held)
    (hhanded : s'.cmds.handed = s.cmds.handed)
    (hreceived : s'.cmds.queue.received = s.cmds.queue.received)
    (hsent : s.cmds.queue.sent <+: s'.cmds.queue.sent)
    (hshut : s'.dev.sys.shutdown = s.dev.sys.shutdown) : s'.CmdDue old n next := by
  obtain ⟨hnext, hdue⟩ := h
  refine ⟨by rw [hnext, CmdSys.next, CmdSys.next, hheld], ?_⟩
  rw [hshut]
  split_ifs at hdue ⊢
  · exact hdue
  · obtain ⟨⟨hserved, haccepted⟩, hn⟩ := hdue
    refine ⟨⟨by rw [hhanded, hheld, hreceived, hserved], haccepted.trans hsent⟩, ?_⟩
    rw [hn, CmdSys.stepsLeft, CmdSys.stepsLeft, hhanded, hheld]

variable [CFloat F] {profile : Profile}

/-- A reception that finds a command held, the flag set or nothing waiting changes nothing. -/
theorem receive_idle {s : CmdSys F}
    (h : s.held ≠ none ∨ s.dev.sys.shutdown = true ∨ s.queue.waiting = []) :
    s.apply profile .receive = s := by
  simp only [CmdSys.apply]
  split
  · next x q hheld hrun hrecv =>
    rcases h with h | h | h
    · exact absurd hheld h
    · exact absurd (hrun.symm.trans h) (by decide)
    · rw [Ledger.recv_eq_none.mpr h] at hrecv
      cases hrecv
  · rfl

theorem Board.CmdDue.receive (h : s.CmdDue old n next) : ∃ n' next',
    (s.apply profile (.cmd .receive)).CmdDue old n' next' ∧
      (n' < n ∨ n' = n ∧ (n = 0 ∨ next' = next ∧ ¬ next.Serves (.cmd .receive))) := by
  have hidle (hcmds : s.cmds.apply profile .receive = s.cmds)
      (hwhy : n = 0 ∨ ¬ next.Serves (.cmd .receive)) : ∃ n' next',
        (s.apply profile (.cmd .receive)).CmdDue old n' next' ∧
          (n' < n ∨ n' = n ∧ (n = 0 ∨ next' = next ∧ ¬ next.Serves (.cmd .receive))) := by
    refine ⟨n, next, ?_, Or.inr ⟨rfl, hwhy.imp_right fun hnot => ⟨rfl, hnot⟩⟩⟩
    have hsame : (s.apply profile (.cmd .receive)).cmds = s.cmds := hcmds
    exact h.quiet (by rw [hsame]) (by rw [hsame]) (by rw [hsame]) (by rw [hsame])
      (by rw [Board.dev, hsame])
  obtain ⟨rfl, hdue⟩ := id h
  cases hheld : s.cmds.held with
  | some x =>
    refine hidle (receive_idle (Or.inl (by simp [hheld]))) (Or.inr ?_)
    rw [CmdSys.next, hheld]
    exact id
  | none =>
    split_ifs at hdue with hshut
    · exact hidle (receive_idle (Or.inr (Or.inl hshut))) (Or.inl hdue)
    · obtain ⟨⟨hserved, haccepted⟩, hn⟩ := hdue
      rw [hheld, Option.toList_none, List.append_nil] at hserved
      by_cases hwait : s.cmds.queue.waiting = []
      · -- all that was accepted has been handed over
        refine hidle (receive_idle (Or.inr (Or.inr hwait))) (Or.inl ?_)
        have hle := haccepted.length_le
        rw [s.cmds.queue.complete, hwait, List.append_nil, ← hserved] at hle
        rw [hn, CmdSys.stepsLeft]
        omega
      · obtain ⟨x, q, hrecv⟩ := Ledger.recv_isSome hwait
        obtain ⟨hcons, hsent, hreceived⟩ := Ledger.recv_eq_some hrecv
        have hrun : s.cmds.dev.sys.shutdown = false := Bool.eq_false_of_not_eq_true hshut
        have hnew : (s.apply profile (.cmd .receive)).cmds =
            { s.cmds with queue := q, held := some x } := by
          simp [Board.apply, CmdSys.apply, hheld, hrun, hrecv]
        refine ⟨s.cmds.stepsLeft old.length - 1, .hook, ⟨?_, ?_⟩, ?_⟩
        · rw [hnew]
          rfl
        · rw [Board.dev, hnew, if_neg hshut]
          refine ⟨⟨?_, hsent ▸ haccepted⟩, ?_⟩
          · simp [hreceived, hserved]
          · simp [CmdSys.stepsLeft, hheld]
        · omega

/-- A hook call: there is nothing to hand over, or one command less is left. -/
theorem Board.CmdDue.hook (h : s.CmdDue old n next) (P : Platform) (past : List UInt8) :
    ∃ n' next', (s.apply profile (.cmd (.hook P past))).CmdDue old n' next' ∧
      (n' < n ∨ n' = n ∧ (n = 0 ∨ next' = next ∧ ¬ next.Serves (.cmd (.hook P past)))) := by
  cases hheld : s.cmds.held with
  | none =>
    have hsame : (s.apply profile (.cmd (.hook P past))).cmds = s.cmds := by
      simp [Board.apply, CmdSys.apply, hheld]
    refine ⟨n, next, ?_, Or.inr ⟨rfl, Or.inr ⟨rfl, ?_⟩⟩⟩
    · exact h.quiet (by rw [hsame]) (by rw [hsame]) (by rw [hsame]) (by rw [hsame])
        (by rw [Board.dev, hsame])
    · rw [h.1, CmdSys.next, hheld]
      exact id
  | some x =>
    obtain ⟨rfl, hdue⟩ := h
    set s' := s.apply profile (.cmd (.hook P past)) with hs'
    have hnew : s'.cmds = { s.cmds with
        dev := (profile.cmdHook P past x.msg s.dev).2
        held := none
        handed := s.cmds.handed ++ [x] } := by
      simp [hs', Board.apply, CmdSys.apply, hheld]
    by_cases hafter : s'.dev.sys.shutdown = true
    · refine ⟨0, s'.cmds.next, ⟨rfl, by rw [if_pos hafter]⟩, ?_⟩
      omega
    · have hshut : ¬ s.dev.sys.shutdown = true := by
        intro hset
        refine hafter ?_
        rw [Board.dev, hnew]
        exact (cmdHook_shutBy P s.dev past x.msg profile).mpr (Or.inl hset)
      rw [if_neg hshut] at hdue
      obtain ⟨⟨hserved, haccepted⟩, rfl⟩ := hdue
      refine ⟨s'.cmds.stepsLeft old.length, s'.cmds.next, ⟨rfl, ?_⟩, ?_⟩
      · rw [if_neg hafter, hnew]
        refine ⟨⟨?_, haccepted⟩, rfl⟩
        rw [← hserved, hheld]
        simp
      · rw [hnew]
        simp only [CmdSys.stepsLeft, List.length_append, List.length_singleton, hheld,
          Option.toList_none, Option.toList_some, List.length_nil]
        omega

theorem cmdDue_advances (old : List Queued) :
    Advances (Board.apply (F := F) profile) (fun _ => True) CmdStep.Serves
      (Board.CmdDue old) := by
  intro s n next op _ h
  have hquiet (hnot : ¬ next.Serves op) (hdue : (s.apply profile op).CmdDue old n next) :
      ∃ n' next', (s.apply profile op).CmdDue old n' next' ∧
        (n' < n ∨ n' = n ∧ (n = 0 ∨ next' = next ∧ ¬ next.Serves op)) :=
    ⟨n, next, hdue, Or.inr ⟨rfl, Or.inr ⟨rfl, hnot⟩⟩⟩
  cases op with
  | setHooks =>
    exact hquiet (by cases next <;> exact id) (h.quiet rfl rfl rfl List.prefix_rfl rfl)
  | cmd op =>
    cases op with
    | receive => exact h.receive
    | hook P past => exact h.hook P past
    | bleWrite uuid16 value =>
      have ha : s.cmds.Arrival (s.cmdStep profile (.bleWrite uuid16 value)) :=
        s.arrival profile rfl
      exact hquiet (by cases next <;> exact id)
        (h.quiet ha.held ha.handed ha.received ha.sent (congrArg (·.sys.shutdown) ha.dev))
    | mqttData data =>
      have ha : s.cmds.Arrival (s.cmdStep profile (.mqttData data)) := s.arrival profile rfl
      exact hquiet (by cases next <;> exact id)
        (h.quiet ha.held ha.handed ha.received ha.sent (congrArg (·.sys.shutdown) ha.dev))
  | sensorPass ms r =>
    refine hquiet (by cases next <;> exact id) ?_
    simp only [Board.apply]
    split_ifs
    · exact h.quiet rfl rfl rfl List.prefix_rfl (by
        rw [Board.dev, sensorHook_dev, sample_sys])
    · exact h.quiet rfl rfl rfl List.prefix_rfl rfl
    · exact h
  | relay op =>
    exact hquiet (by cases next <;> exact id) (h.quiet rfl rfl rfl List.prefix_rfl rfl)
  | diag id =>
    exact hquiet (by cases next <;> exact fun h => h) (h.quiet rfl rfl rfl List.prefix_rfl rfl)
  | otaProgress state =>
    exact hquiet (by cases next <;> exact id) (h.quiet rfl rfl rfl List.prefix_rfl rfl)

/-- A round in which `cmd_task` makes both its steps, in either order and among any others. -/
def ServingRound (round : List BoardOp) : Prop :=
  .cmd .receive ∈ round ∧ ∃ P past, .cmd (.hook P past) ∈ round

theorem ServingRound.serves {round : List BoardOp} (h : ServingRound round) (next : CmdStep) :
    ∃ op ∈ round, next.Serves op := by
  obtain ⟨hreceive, P, past, hhook⟩ := h
  cases next with
  | receive => exact ⟨_, hreceive, trivial⟩
  | hook => exact ⟨_, hhook, trivial⟩

theorem Board.waiting_le {s : Board F} (h : s.cmds.queue.waiting.length ≤ commandQLen)
    (op : BoardOp) : (s.apply profile op).cmds.queue.waiting.length ≤ commandQLen := by
  cases op with
  | cmd op =>
    cases op with
    | bleWrite uuid16 value => exact (s.arrival profile rfl).waiting h
    | mqttData data => exact (s.arrival profile rfl).waiting h
    | receive =>
      simp only [Board.apply, Board.cmdStep_receive, CmdSys.apply]
      split
      · next x q _ _ hrecv =>
        have hlen := congrArg List.length (Ledger.recv_eq_some hrecv).1
        rw [List.length_cons] at hlen
        have hshorter : q.waiting.length ≤ commandQLen := by omega
        exact hshorter
      · exact h
    | hook P past =>
      simp only [Board.apply, Board.cmdStep_hook, CmdSys.apply]
      split <;> exact h
  | sensorPass ms r =>
    simp only [Board.apply]
    split_ifs <;> exact h
  | _ => exact h

theorem Board.run_waiting (d : Device F) (ops : List BoardOp) :
    (ops.foldl (Board.apply profile) (.start d)).cmds.queue.waiting.length ≤ commandQLen :=
  List.foldlRecOn (motive := fun s : Board F => s.cmds.queue.waiting.length ≤ commandQLen) ops _
    (Nat.zero_le _) fun _ h op _ => Board.waiting_le h op

omit [CFloat F] in
/-- Nine commands at most are accepted and not yet handed over. -/
theorem Board.InOrder.due {s : Board F} {history : List (Op F)} (h : s.InOrder history)
    (hwait : s.cmds.queue.waiting.length ≤ commandQLen) :
    ∃ n ≤ 17, s.CmdDue s.cmds.queue.sent n s.cmds.next := by
  by_cases hshut : s.dev.sys.shutdown = true
  · exact ⟨0, by decide, rfl, by rw [if_pos hshut]⟩
  · refine ⟨s.cmds.stepsLeft s.cmds.queue.sent.length, ?_, rfl, ?_⟩
    · have hheld := s.cmds.held_le
      have hlen := congrArg List.length s.cmds.queue.complete
      have hreceived := congrArg List.length h.served
      rw [List.length_append] at hlen hreceived
      rw [commandQLen] at hwait
      rw [CmdSys.stepsLeft]
      omega
    · rw [if_neg hshut]
      exact ⟨⟨h.served, List.prefix_rfl⟩, rfl⟩

omit [CFloat F] in
theorem Board.CmdDue.settled (h : s.CmdDue old 0 next) (hrun : s.dev.sys.shutdown = false) :
    old <+: s.cmds.handed := by
  obtain ⟨-, hdue⟩ := h
  rw [if_neg (by simp [hrun])] at hdue
  obtain ⟨⟨hserved, haccepted⟩, hzero⟩ := hdue
  have hhanded : s.cmds.handed <+: s.cmds.queue.sent := by
    rw [s.cmds.queue.complete, ← hserved, List.append_assoc]
    exact List.prefix_append _ _
  have hheld := s.cmds.held_le
  refine List.prefix_of_prefix_length_le haccepted hhanded ?_
  rw [CmdSys.stepsLeft] at hzero
  omega

end

section
variable (F : Type) [CFloat F] (P : Platform) (profile : Profile) (wdtReset : Bool)
  (nvs : Option NvsImage) (ops : List BoardOp)

/-- While the task is not told to end, 17 rounds in which `cmd_task` makes both its steps execute
every command that was accepted before them: the device goes through them in the order of the queue,
from the first one on. -/
theorem commands_execute (rounds : List (List BoardOp))
    (hserving : ∀ round ∈ rounds, ServingRound round) (hlen : 17 ≤ rounds.length)
    (hrun : (boardAfter F P profile wdtReset nvs
      (ops ++ rounds.flatten)).dev.sys.shutdown = false) :
    (boardAfter F P profile wdtReset nvs ops).cmds.queue.sent.map Queued.msg <+:
      (boardHistory F P profile wdtReset nvs (ops ++ rounds.flatten)).filterMap Op.cmd := by
  have hinOrder (ops : List BoardOp) : (boardAfter F P profile wdtReset nvs ops).InOrder
      (boardHistory F P profile wdtReset nvs ops) := Board.run_inOrder _ ops
  obtain ⟨n, hn, hdue⟩ := (hinOrder ops).due (Board.run_waiting _ ops)
  obtain ⟨n', next, hdone, hle⟩ := (cmdDue_advances _).rounds
    (fun round hround => ⟨fun _ _ => trivial, (hserving round hround).serves⟩) hdue
  obtain rfl : n' = 0 := by omega
  have hafter : boardAfter F P profile wdtReset nvs (ops ++ rounds.flatten) =
      rounds.flatten.foldl (Board.apply profile) (boardAfter F P profile wdtReset nvs ops) :=
    List.foldl_append
  rw [(hinOrder _).handed]
  rw [hafter] at hrun ⊢
  exact (hdone.settled hrun).map Queued.msg

end

/-- Two commands wait, one of either kind. -/
def twoCommands : List BoardOp :=
  [.setHooks, .cmd (.mqttData (txt "\x7b\"uc\":\"robot.battery\",\"mv\":7000\x7d")),
    .cmd (.bleWrite 0xFF02 (txt "\x7b\"uc\":\"plt.get_diag\"\x7d"))]

def servingRound : List BoardOp :=
  [.cmd (.hook hostPlatform []), .relay .procRecv, .cmd .receive]

theorem two_commands_execute :
    let rounds := List.replicate 17 servingRound
    let sent := (boardAfter ℚ hostPlatform .robotics false none twoCommands).cmds.queue.sent
    sent.length = 2 ∧ sent.map Queued.msg <+:
      (boardHistory ℚ hostPlatform .robotics false none
        (twoCommands ++ rounds.flatten)).filterMap Op.cmd := by
  intro rounds sent
  have hserving : ∀ round ∈ rounds, ServingRound round := by
    intro round hround
    rw [List.eq_of_mem_replicate hround]
    exact ⟨by simp [servingRound], hostPlatform, [], by simp [servingRound]⟩
  have hlen : 17 ≤ rounds.length := by simp [rounds]
  exact ⟨by decide +kernel, commands_execute ℚ hostPlatform .robotics false none twoCommands rounds
    hserving hlen (by decide +kernel)⟩

end IotPlatform
