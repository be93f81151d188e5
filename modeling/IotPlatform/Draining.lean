import IotPlatform.Interleaving

/-!
# Messages arrive or are noted as lost

A message arrives when it is handed to `iot_mqtt_publish_telemetry`, whatever this returns. While
the tasks run, every round in which each of them makes its step moves the oldest message on its way
one place on. It is never dropped, and all that is on its way at one time has arrived or was dropped
at a full queue after as many rounds as there are places to go.
-/
namespace IotPlatform
open CText CFloat Queues Runs

inductive Place
  | pump | telemetryQ | proc | sampleQ | sensor
  deriving DecidableEq, Repr

/-- The steps from a place to `iot_mqtt_publish_telemetry`. -/
def Place.steps : Place → ℕ
  | .pump => 1
  | .telemetryQ => 2
  | .proc => 3
  | .sampleQ => 4
  | .sensor => 5

/-- The step that takes a message from its place. -/
def Place.Left : Place → PipeOp → Prop
  | .pump, .pumpPublish _ => True
  | .telemetryQ, .pumpRecv => True
  | .proc, .procSend => True
  | .sampleQ, .procRecv => True
  | .sensor, .sensorSend => True
  | _, _ => False

/-- A step takes a message from one place only. -/
theorem Place.Left.unique {p q : Place} {op : PipeOp} (hp : p.Left op) (hq : q.Left op) :
    p = q := by
  cases op <;> cases p <;> first | exact hp.elim | (cases q <;> first | rfl | exact hq.elim)

/-- What is on its way, oldest first. -/
def Pipeline.onWay (s : Pipeline) : List IotTelemetryMsg :=
  s.pump.toList ++ s.telemetryQ.waiting ++ s.proc.toList ++ s.sampleQ.waiting ++ s.sensor.toList

/-- The place of the oldest message, when any is on its way. -/
def Pipeline.oldestAt (s : Pipeline) : Place :=
  if s.pump.isSome then .pump
  else if s.telemetryQ.waiting ≠ [] then .telemetryQ
  else if s.proc.isSome then .proc
  else if s.sampleQ.waiting ≠ [] then .sampleQ
  else .sensor

theorem Pipeline.flow_eq (s : Pipeline) : s.flow = s.handed ++ s.onWay := by
  simp [Pipeline.flow, Pipeline.onWay]

/-- The tasks have not been told to end. -/
def Pipeline.Going (s : Pipeline) : Prop := s.shutdown = false ∧ s.run = true

/-- A step other than the calls that end the tasks. -/
def PipeOp.Runs : PipeOp → Prop
  | .requestShutdown | .mqttStop => False
  | _ => True

/-- The oldest message stays, with what joins behind it, or moves on, or arrives; or one behind it
is dropped. -/
inductive Pipeline.Advance (op : PipeOp) (s s' : Pipeline) : Prop
  | kept (more : List IotTelemetryMsg) (honWay : s'.onWay = s.onWay ++ more)
      (hhanded : s'.handed = s.handed) (hlost : s.lost ⊆ s'.lost)
      (hplace : s.onWay ≠ [] → s'.oldestAt = s.oldestAt ∧ ¬ s.oldestAt.Left op)
  | moved (honWay : s'.onWay = s.onWay) (hhanded : s'.handed = s.handed)
      (hlost : s'.lost = s.lost) (hplace : s'.oldestAt.steps < s.oldestAt.steps)
  | arrived (m : IotTelemetryMsg) (honWay : s.onWay = m :: s'.onWay)
      (hhanded : s'.handed = s.handed ++ [m]) (hlost : s'.lost = s.lost)
  | dropped (m : IotTelemetryMsg) (why : LostBy) (pre post : List IotTelemetryMsg)
      (hpre : pre ≠ []) (hbefore : s.onWay = pre ++ m :: post) (hafter : s'.onWay = pre ++ post)
      (hhanded : s'.handed = s.handed) (hlost : s'.lost = s.lost ++ [(m.seq, why)])
      (hplace : s'.oldestAt = s.oldestAt ∧ ¬ s.oldestAt.Left op)

section
variable {s : Pipeline}

theorem Pipeline.advance_refl {op : PipeOp} (h : s.onWay ≠ [] → ¬ s.oldestAt.Left op) :
    s.Advance op s :=
  .kept [] (by simp) rfl (List.Subset.refl _) fun hne => ⟨rfl, h hne⟩

/-- A step takes what is at `place` one place on: the oldest message, or one behind it. -/
theorem Pipeline.Advance.forward {s' : Pipeline} {op : PipeOp} (place : Place)
    (hleft : place.Left op) (honWay : s'.onWay = s.onWay) (hhanded : s'.handed = s.handed)
    (hlost : s'.lost = s.lost) (holdest : s.oldestAt = place → s'.oldestAt.steps < place.steps)
    (hbehind : s.oldestAt ≠ place → s'.oldestAt = s.oldestAt) : s.Advance op s' := by
  by_cases hat : s.oldestAt = place
  · exact .moved honWay hhanded hlost (hat ▸ holdest hat)
  · exact .kept [] (by simp [honWay]) hhanded (by simp [hlost])
      fun _ => ⟨hbehind hat, fun h => hat (h.unique hleft)⟩

/-- A full queue holds something. -/
theorem waiting_ne_nil {q : Ledger IotTelemetryMsg} {m : IotTelemetryMsg}
    (h : q.send telemetryQLen m = none) : q.waiting ≠ [] := by
  intro hnil
  have hfull := Ledger.send_eq_none.mp h
  rw [hnil] at hfull
  exact absurd hfull (by decide)

theorem Pipeline.sensorPass_advance (ms : UInt32) (hook : SeqHook) :
    s.Advance (.sensorPass ms hook) (s.apply (.sensorPass ms hook)) := by
  have hstay : ∀ place : Place, ¬ place.Left (.sensorPass ms hook) := by
    intro place
    cases place <;> exact id
  simp only [Pipeline.apply]
  split
  · next hnone hrun =>
    split_ifs
    · exact .kept [(hook.1 (.stamped (s.seq + 1) ms.toNat)).2] (by simp [Pipeline.onWay, hnone]) rfl
        (List.Subset.refl _) fun _ => ⟨rfl, hstay _⟩
    · exact .kept [] (by simp [Pipeline.onWay]) rfl (List.subset_append_left _ _)
        fun _ => ⟨rfl, hstay _⟩
  · exact Pipeline.advance_refl fun _ => hstay _

theorem Pipeline.sensorSend_advance : s.Advance .sensorSend (s.apply .sensorSend) := by
  simp only [Pipeline.apply]
  cases hm : s.sensor with
  | none =>
    refine Pipeline.advance_refl fun hne => ?_
    contrapose! hne
    simp only [Pipeline.oldestAt] at hne
    split_ifs at hne <;> simp_all [Place.Left, Pipeline.onWay]
  | some m =>
    simp only [sendOrDrop]
    cases hq : s.sampleQ.send telemetryQLen m with
    | none =>
      have hne := waiting_ne_nil hq
      refine .dropped m .sampleQ (s.pump.toList ++ s.telemetryQ.waiting ++ s.proc.toList ++
        s.sampleQ.waiting) [] (by simp [hne]) (by simp [Pipeline.onWay, hm])
        (by simp [Pipeline.onWay]) rfl rfl ⟨rfl, ?_⟩
      simp only [Pipeline.oldestAt]
      split_ifs <;> exact id
    | some q =>
      have hwait := (Ledger.send_eq_some hq).2.2.2
      refine .forward .sensor trivial (by simp [Pipeline.onWay, hm, hwait]) rfl (by simp) ?_ ?_
      all_goals
        intro hat
        simp only [Pipeline.oldestAt] at hat ⊢
        split_ifs at hat ⊢ <;> simp_all [Place.steps]

theorem Pipeline.procRecv_advance (hgo : s.Going) : s.Advance .procRecv (s.apply .procRecv) := by
  simp only [Pipeline.apply]
  split
  · next m q hnone hrun hq =>
    obtain ⟨hwait, -, -⟩ := Ledger.recv_eq_some hq
    refine .forward .sampleQ trivial (by simp [Pipeline.onWay, hwait, hnone, passthroughProc]) rfl
      rfl ?_ ?_
    all_goals
      intro hat
      simp only [Pipeline.oldestAt] at hat ⊢
      split_ifs at hat ⊢ <;> simp_all [Place.steps]
  · next hidle =>
    refine Pipeline.advance_refl fun _ hleft => ?_
    have hready : s.proc = none ∧ s.sampleQ.waiting ≠ [] := by
      simp only [Pipeline.oldestAt] at hleft
      split_ifs at hleft <;> simp_all [Place.Left]
    obtain ⟨m, q, hq⟩ := Ledger.recv_isSome hready.2
    exact hidle m q hready.1 hgo.1 hq

theorem Pipeline.procSend_advance : s.Advance .procSend (s.apply .procSend) := by
  simp only [Pipeline.apply]
  cases hm : s.proc with
  | none =>
    refine Pipeline.advance_refl fun _ hleft => ?_
    simp only [Pipeline.oldestAt] at hleft
    split_ifs at hleft <;> simp_all [Place.Left]
  | some m =>
    simp only [sendOrDrop]
    cases hq : s.telemetryQ.send telemetryQLen m with
    | none =>
      have hne := waiting_ne_nil hq
      have hplace : s.oldestAt ≠ .proc := by
        simp only [Pipeline.oldestAt]
        split_ifs <;> simp_all
      refine .dropped m .telemetryQ (s.pump.toList ++ s.telemetryQ.waiting)
        (s.sampleQ.waiting ++ s.sensor.toList) (by simp [hne]) (by simp [Pipeline.onWay, hm])
        (by simp [Pipeline.onWay]) rfl rfl ⟨?_, ?_⟩
      · simp [Pipeline.oldestAt, hne]
      · exact fun h => hplace (h.unique trivial)
    | some q =>
      have hwait := (Ledger.send_eq_some hq).2.2.2
      refine .forward .proc trivial (by simp [Pipeline.onWay, hm, hwait]) rfl (by simp) ?_ ?_
      all_goals
        intro hat
        simp only [Pipeline.oldestAt] at hat ⊢
        split_ifs at hat ⊢ <;> simp_all [Place.steps]

theorem Pipeline.pumpRecv_advance (hgo : s.Going) : s.Advance .pumpRecv (s.apply .pumpRecv) := by
  simp only [Pipeline.apply]
  split
  · next m q hnone hrun hq =>
    obtain ⟨hwait, -, -⟩ := Ledger.recv_eq_some hq
    refine .moved (by simp [Pipeline.onWay, hwait, hnone]) rfl rfl ?_
    simp [Pipeline.oldestAt, hnone, hwait, Place.steps]
  · next hidle =>
    refine Pipeline.advance_refl fun _ hleft => ?_
    have hready : s.pump = none ∧ s.telemetryQ.waiting ≠ [] := by
      simp only [Pipeline.oldestAt] at hleft
      split_ifs at hleft <;> simp_all [Place.Left]
    obtain ⟨m, q, hq⟩ := Ledger.recv_isSome hready.2
    exact hidle m q hready.1 hgo.2 hq

theorem Pipeline.pumpPublish_advance (e : IotErr) :
    s.Advance (.pumpPublish e) (s.apply (.pumpPublish e)) := by
  simp only [Pipeline.apply]
  cases hm : s.pump with
  | none =>
    refine Pipeline.advance_refl fun _ hleft => ?_
    simp only [Pipeline.oldestAt] at hleft
    split_ifs at hleft <;> simp_all [Place.Left]
  | some m => exact .arrived m (by simp [Pipeline.onWay, hm]) rfl rfl

theorem Pipeline.apply_advance (hgo : s.Going) {op : PipeOp} (hop : op.Runs) :
    s.Advance op (s.apply op) := by
  cases op with
  | sensorPass ms hook => exact s.sensorPass_advance ms hook
  | sensorSend => exact s.sensorSend_advance
  | procRecv => exact s.procRecv_advance hgo
  | procSend => exact s.procSend_advance
  | pumpRecv => exact s.pumpRecv_advance hgo
  | pumpPublish e => exact s.pumpPublish_advance e
  | requestShutdown => exact hop.elim
  | mqttStop => exact hop.elim

end

/-- Of the messages `old`, `rest` are still on their way, before all others; `first` goes ahead. -/
structure Pipeline.Settling (old : List IotTelemetryMsg) (first : Option IotTelemetryMsg)
    (rest : List IotTelemetryMsg) (s : Pipeline) : Prop where
  going : s.Going
  onWay : rest <+: s.onWay
  accounted : ∀ m ∈ old, m ∈ rest ∨ m ∈ s.handed ∨ ∃ why, (m.seq, why) ∈ s.lost
  first : ∀ m ∈ first, m ∈ rest.head? ∨ m ∈ s.handed

/-- With `n` messages left, the oldest with this many steps to go. -/
def stepsLeft (n steps : ℕ) : ℕ := 5 * n - (5 - steps)

/-- `n` steps are left for what there was, and the next one is from `place`. -/
def Pipeline.Due (old : List IotTelemetryMsg) (first : Option IotTelemetryMsg) (s : Pipeline)
    (n : ℕ) (place : Place) : Prop :=
  ∃ rest, s.Settling old first rest ∧ n = stepsLeft rest.length place.steps ∧ place = s.oldestAt

theorem Place.steps_pos (place : Place) : 0 < place.steps ∧ place.steps ≤ 5 := by
  cases place <;> decide

section
variable {s : Pipeline}

/-- A list with one item taken out still begins with a prefix, or that prefix is one shorter. -/
theorem prefix_erase {α : Type*} {rest pre post : List α} {m : α}
    (h : rest <+: pre ++ m :: post) :
    rest <+: pre ∨ ∃ mid, rest = pre ++ m :: mid ∧ mid <+: post := by
  obtain ⟨more, hmore⟩ := h
  rcases List.append_eq_append_iff.mp hmore with ⟨t, ht, -⟩ | ⟨t, ht, hcons⟩
  · exact Or.inl ⟨t, ht.symm⟩
  · rcases List.cons_eq_append_iff.mp hcons with ⟨rfl, -⟩ | ⟨mid, rfl, hpost⟩
    · exact Or.inl (by simp [ht])
    · exact Or.inr ⟨mid, ht, more, hpost.symm⟩

theorem Pipeline.Going.step (h : s.Going) {op : PipeOp} (hop : op.Runs) : (s.apply op).Going := by
  cases op with
  | requestShutdown => exact hop.elim
  | mqttStop => exact hop.elim
  | sensorPass ms hook =>
    simp only [Pipeline.apply]
    split
    · split_ifs <;> exact h
    · exact h
  | _ =>
    simp only [Pipeline.apply]
    split <;> exact h

/-- What is still to be done for `rest'` after a step, and for `rest` before it. -/
def Pipeline.Nearer (op : PipeOp) (s s' : Pipeline) (rest rest' : List IotTelemetryMsg) : Prop :=
  stepsLeft rest'.length s'.oldestAt.steps < stepsLeft rest.length s.oldestAt.steps ∨
    rest' = rest ∧ (rest ≠ [] → s'.oldestAt = s.oldestAt ∧ ¬ s.oldestAt.Left op)

section
variable {s' : Pipeline} {old rest : List IotTelemetryMsg} {first : Option IotTelemetryMsg}
  {op : PipeOp}

/-- The accounts of the old messages, when none of `rest` goes. -/
theorem Pipeline.Settling.stay (h : s.Settling old first rest) (hgo : s'.Going)
    (honWay : rest <+: s'.onWay) (hhanded : s.handed ⊆ s'.handed)
    (hlost : s.lost ⊆ s'.lost) : s'.Settling old first rest := by
  refine ⟨hgo, honWay, fun m hm => ?_, fun m hm => (h.first m hm).imp_right (@hhanded m)⟩
  rcases h.accounted m hm with hrest | hpub | ⟨why, hwhy⟩
  · exact Or.inl hrest
  · exact Or.inr (Or.inl (hhanded hpub))
  · exact Or.inr (Or.inr ⟨why, hlost hwhy⟩)

theorem Pipeline.Settling.arrived {m : IotTelemetryMsg} (h : s.Settling old first (m :: rest))
    (hgo : s'.Going) (honWay : s.onWay = m :: s'.onWay)
    (hhanded : s'.handed = s.handed ++ [m]) (hlost : s'.lost = s.lost) :
    s'.Settling old first rest := by
  obtain ⟨-, hprefix, haccounted, hfirst⟩ := h
  rw [honWay, List.cons_prefix_cons] at hprefix
  refine ⟨hgo, hprefix.2, fun x hx => ?_, fun x hx => Or.inr ?_⟩
  · rw [hhanded, hlost]
    rcases haccounted x hx with hrest | hpub | hwhy
    · rcases List.mem_cons.mp hrest with rfl | hrest
      · exact Or.inr (Or.inl (by simp))
      · exact Or.inl hrest
    · exact Or.inr (Or.inl (List.mem_append_left _ hpub))
    · exact Or.inr (Or.inr hwhy)
  · rw [hhanded]
    rcases hfirst x hx with hhead | hpub
    · obtain rfl : m = x := Option.some.inj hhead
      simp
    · exact List.mem_append_left _ hpub

theorem Pipeline.Settling.dropped {m : IotTelemetryMsg} {why : LostBy}
    {pre mid post : List IotTelemetryMsg} (h : s.Settling old first (pre ++ m :: mid))
    (hgo : s'.Going) (hpre : pre ≠ []) (hmid : mid <+: post) (honWay : s'.onWay = pre ++ post)
    (hhanded : s'.handed = s.handed) (hlost : s'.lost = s.lost ++ [(m.seq, why)]) :
    s'.Settling old first (pre ++ mid) := by
  refine ⟨hgo, ?_, fun x hx => ?_, fun x hx => ?_⟩
  · rw [honWay]
    exact (List.prefix_append_right_inj pre).mpr hmid
  · rw [hhanded, hlost]
    rcases h.accounted x hx with hrest | hpub | ⟨w, hw⟩
    · rcases List.mem_append.mp hrest with hrest | hrest
      · exact Or.inl (List.mem_append_left _ hrest)
      · rcases List.mem_cons.mp hrest with rfl | hrest
        · exact Or.inr (Or.inr ⟨why, by simp⟩)
        · exact Or.inl (List.mem_append_right _ hrest)
    · exact Or.inr (Or.inl hpub)
    · exact Or.inr (Or.inr ⟨w, List.mem_append_left _ hw⟩)
  · rw [hhanded]
    simpa [List.head?_append_of_ne_nil _ hpre] using h.first x hx

theorem Pipeline.Settling.step (h : s.Settling old first rest) (hop : op.Runs) :
    ∃ rest', (s.apply op).Settling old first rest' ∧ s.Nearer op (s.apply op) rest rest' := by
  have hgo := h.going.step hop
  have hpos := s.oldestAt.steps_pos
  have hne : rest ≠ [] → s.onWay ≠ [] := by
    intro hrest hnil
    exact hrest (List.prefix_nil.mp (hnil ▸ h.onWay))
  have hstay (honWay : rest <+: (s.apply op).onWay)
      (hhanded : s.handed ⊆ (s.apply op).handed) (hlost : s.lost ⊆ (s.apply op).lost)
      (hplace : rest ≠ [] → (s.apply op).oldestAt = s.oldestAt ∧ ¬ s.oldestAt.Left op) :=
    (⟨rest, h.stay hgo honWay hhanded hlost, Or.inr ⟨rfl, hplace⟩⟩ :
      ∃ rest', (s.apply op).Settling old first rest' ∧ s.Nearer op (s.apply op) rest rest')
  cases Pipeline.apply_advance h.going hop with
  | kept more honWay hhanded hlost hplace =>
    exact hstay (honWay ▸ h.onWay.trans (List.prefix_append _ _)) (hhanded ▸ List.Subset.refl _)
      hlost fun hrest => hplace (hne hrest)
  | moved honWay hhanded hlost hplace =>
    have hmoved := h.stay hgo (honWay ▸ h.onWay) (hhanded ▸ List.Subset.refl _)
      (hlost ▸ List.Subset.refl _)
    by_cases hrest : rest = []
    · exact ⟨rest, hmoved, Or.inr ⟨rfl, fun h => absurd hrest h⟩⟩
    · have hlen := List.length_pos_iff.mpr hrest
      refine ⟨rest, hmoved, Or.inl ?_⟩
      simp only [stepsLeft]
      omega
  | arrived m honWay hhanded hlost =>
    cases rest with
    | nil =>
      exact hstay List.nil_prefix (hhanded ▸ List.subset_append_left _ _)
        (hlost ▸ List.Subset.refl _) fun h => absurd rfl h
    | cons x rest =>
      obtain ⟨rfl, -⟩ := List.cons_prefix_cons.mp (honWay ▸ h.onWay)
      refine ⟨rest, h.arrived hgo honWay hhanded hlost, Or.inl ?_⟩
      simp only [stepsLeft, List.length_cons]
      omega
  | dropped m why pre post hpre hbefore hafter hhanded hlost hplace =>
    rcases prefix_erase (hbefore ▸ h.onWay) with hrest | ⟨mid, rfl, hmid⟩
    · exact hstay (hafter ▸ hrest.trans (List.prefix_append _ _))
        (hhanded ▸ List.Subset.refl _) (hlost ▸ List.subset_append_left _ _) fun _ => hplace
    · have hlen := List.length_pos_iff.mpr hpre
      refine ⟨pre ++ mid, h.dropped hgo hpre hmid hafter hhanded hlost, Or.inl ?_⟩
      simp only [stepsLeft, List.length_append, List.length_cons, hplace.1]
      omega

end

/-- A step does some of what is due, or it is none that the oldest message waits for. -/
theorem due_advances (old : List IotTelemetryMsg) (first : Option IotTelemetryMsg) :
    Advances Pipeline.apply PipeOp.Runs Place.Left (Pipeline.Due old first) := by
  rintro s n place op hop ⟨rest, h, rfl, rfl⟩
  obtain ⟨rest', h', hnearer⟩ := h.step hop
  refine ⟨_, _, ⟨rest', h', rfl, rfl⟩, ?_⟩
  rcases hnearer with hlt | ⟨rfl, hplace⟩
  · exact Or.inl hlt
  · right
    by_cases hrest : rest' = []
    · subst hrest
      simp [stepsLeft]
    · obtain ⟨hsame, hnot⟩ := hplace hrest
      exact ⟨by rw [hsame], Or.inr ⟨hsame, hnot⟩⟩

theorem Pipeline.Due.settled {old : List IotTelemetryMsg} {first : Option IotTelemetryMsg}
    {place : Place} (h : s.Due old first 0 place) : s.Settling old first [] := by
  obtain ⟨rest, h, hzero, -⟩ := h
  have hpos := place.steps_pos
  obtain rfl : rest = [] := by
    refine List.eq_nil_of_length_eq_zero ?_
    simp only [stepsLeft] at hzero
    omega
  exact h

/-- A round in which a message can leave any place, and which ends no task. -/
def ServesAll (round : List PipeOp) : Prop :=
  (∀ op ∈ round, op.Runs) ∧ ∀ place : Place, ∃ op ∈ round, place.Left op

/-- As many rounds as there are places to go settle a backlog. -/
theorem Pipeline.Settling.rounds {old rest : List IotTelemetryMsg} {first : Option IotTelemetryMsg}
    (h : s.Settling old first rest) {rounds : List (List PipeOp)}
    (hrounds : ∀ round ∈ rounds, ServesAll round) (hlen : 5 * rest.length ≤ rounds.length) :
    (rounds.flatten.foldl Pipeline.apply s).Settling old first [] := by
  have hstart : s.Due old first (stepsLeft rest.length s.oldestAt.steps) s.oldestAt :=
    ⟨rest, h, rfl, rfl⟩
  obtain ⟨n, place, hdue, hle⟩ := (due_advances old first).rounds hrounds hstart
  obtain rfl : n = 0 := by
    simp only [stepsLeft] at hle
    omega
  exact hdue.settled

end

/-- Neither queue holds more than it can, and all that was produced is in the flow or was lost. -/
structure Pipeline.Bounded (s : Pipeline) : Prop where
  sampleQ : s.sampleQ.waiting.length ≤ telemetryQLen
  telemetryQ : s.telemetryQ.waiting.length ≤ telemetryQLen
  accounted : ∀ m ∈ s.produced, m ∈ s.flow ∨ ∃ why, (m.seq, why) ∈ s.lost

theorem sendOrDrop_le {q : Ledger IotTelemetryMsg} (h : q.waiting.length ≤ telemetryQLen)
    (m : IotTelemetryMsg) (why : LostBy) :
    (sendOrDrop q m why).1.waiting.length ≤ telemetryQLen := by
  unfold sendOrDrop
  cases hq : q.send telemetryQLen m with
  | none => exact h
  | some q' =>
    obtain ⟨hroom, -, -, hwait⟩ := Ledger.send_eq_some hq
    simpa [hwait] using hroom

section
variable {s : Pipeline}

/-- The queues after a step: one that receives is shorter, one that is sent to has room. -/
theorem Pipeline.waiting_le (hsample : s.sampleQ.waiting.length ≤ telemetryQLen)
    (htelemetry : s.telemetryQ.waiting.length ≤ telemetryQLen) (op : PipeOp) :
    (s.apply op).sampleQ.waiting.length ≤ telemetryQLen ∧
      (s.apply op).telemetryQ.waiting.length ≤ telemetryQLen := by
  cases op with
  | sensorPass ms hook =>
    simp only [Pipeline.apply]
    split
    · split_ifs <;> exact ⟨hsample, htelemetry⟩
    · exact ⟨hsample, htelemetry⟩
  | sensorSend =>
    simp only [Pipeline.apply]
    split
    · exact ⟨sendOrDrop_le hsample _ _, htelemetry⟩
    · exact ⟨hsample, htelemetry⟩
  | procRecv =>
    simp only [Pipeline.apply]
    split
    · next m q _ _ hq =>
      have hlen := congrArg List.length (Ledger.recv_eq_some hq).1
      rw [List.length_cons] at hlen
      have hshorter : q.waiting.length ≤ telemetryQLen := by omega
      exact ⟨hshorter, htelemetry⟩
    · exact ⟨hsample, htelemetry⟩
  | procSend =>
    simp only [Pipeline.apply]
    split
    · exact ⟨hsample, sendOrDrop_le htelemetry _ _⟩
    · exact ⟨hsample, htelemetry⟩
  | pumpRecv =>
    simp only [Pipeline.apply]
    split
    · next m q _ _ hq =>
      have hlen := congrArg List.length (Ledger.recv_eq_some hq).1
      rw [List.length_cons] at hlen
      have hshorter : q.waiting.length ≤ telemetryQLen := by omega
      exact ⟨hsample, hshorter⟩
    · exact ⟨hsample, htelemetry⟩
  | pumpPublish e =>
    simp only [Pipeline.apply]
    split <;> exact ⟨hsample, htelemetry⟩
  | requestShutdown => exact ⟨hsample, htelemetry⟩
  | mqttStop => exact ⟨hsample, htelemetry⟩

theorem Pipeline.accounted_step (h : ∀ m ∈ s.produced, m ∈ s.flow ∨ ∃ why, (m.seq, why) ∈ s.lost)
    (op : PipeOp) : ∀ m ∈ (s.apply op).produced,
      m ∈ (s.apply op).flow ∨ ∃ why, (m.seq, why) ∈ (s.apply op).lost := by
  rcases s.apply_cases op with
    ⟨-, -, ⟨x, -, hflow, hprod, hlost⟩ | ⟨why, hflow, hprod, hlost⟩⟩ |
    ⟨-, -, hprod, ⟨hflow, hlost⟩ | ⟨x, why, pre, post, hbefore, hafter, hlost⟩⟩
  · rw [hprod, hflow, hlost, List.forall_mem_append, List.forall_mem_singleton]
    exact ⟨fun m hm => (h m hm).imp_left (List.mem_append_left _), Or.inl (by simp)⟩
  · rw [hprod, hflow, hlost]
    exact fun m hm => (h m hm).imp_right fun ⟨w, hw⟩ => ⟨w, List.mem_append_left _ hw⟩
  · rw [hprod, hflow, hlost]
    exact h
  · rw [hprod, hafter, hlost]
    rw [hbefore] at h
    intro m hm
    rcases h m hm with hmem | ⟨w, hw⟩
    · rcases List.mem_append.mp hmem with hmem | hmem
      · exact Or.inl (List.mem_append_left _ hmem)
      · rcases List.mem_cons.mp hmem with rfl | hmem
        · exact Or.inr ⟨why, by simp⟩
        · exact Or.inl (List.mem_append_right _ hmem)
    · exact Or.inr ⟨w, List.mem_append_left _ hw⟩

theorem Pipeline.after_bounded (ops : List PipeOp) : (Pipeline.after ops).Bounded := by
  refine List.foldlRecOn ops _ ⟨by decide, by decide, fun m hm => absurd hm List.not_mem_nil⟩ ?_
  intro s h op _
  obtain ⟨hsample, htelemetry⟩ := Pipeline.waiting_le h.sampleQ h.telemetryQ op
  exact ⟨hsample, htelemetry, Pipeline.accounted_step h.accounted op⟩

theorem Pipeline.Bounded.onWay_le (h : s.Bounded) : s.onWay.length ≤ 35 := by
  have hone (o : Option IotTelemetryMsg) : o.toList.length ≤ 1 := by cases o <;> simp
  have hpump := hone s.pump
  have hproc := hone s.proc
  have hsensor := hone s.sensor
  obtain ⟨hsample, htelemetry, -⟩ := h
  simp only [Pipeline.onWay, List.length_append, telemetryQLen] at *
  omega

/-- A run that ends with the tasks going has nowhere ended them. -/
theorem Pipeline.Going.back {op : PipeOp} (h : (s.apply op).Going) : s.Going ∧ op.Runs := by
  cases op with
  | requestShutdown => exact absurd h.1 (by simp [Pipeline.apply])
  | mqttStop => exact absurd h.2 (by simp [Pipeline.apply])
  | sensorPass ms hook =>
    refine ⟨?_, trivial⟩
    simp only [Pipeline.apply] at h
    split at h
    · split_ifs at h <;> exact h
    · exact h
  | _ =>
    refine ⟨?_, trivial⟩
    simp only [Pipeline.apply] at h
    split at h <;> exact h

theorem Pipeline.Going.back_run {ops : List PipeOp} (h : (ops.foldl Pipeline.apply s).Going) :
    s.Going ∧ ∀ op ∈ ops, op.Runs := by
  induction ops generalizing s with
  | nil => exact ⟨h, by simp⟩
  | cons op ops ih =>
    obtain ⟨hgo, hops⟩ := ih h
    obtain ⟨hgo, hop⟩ := hgo.back
    exact ⟨hgo, List.forall_mem_cons.mpr ⟨hop, hops⟩⟩

end

/-- A round in which the tasks make all their steps, in any order and among any others. -/
def FairRound (round : List BoardOp) : Prop :=
  (∀ op ∈ [RelayOp.sensorSend, .procRecv, .procSend, .pumpRecv], .relay op ∈ round) ∧
    ∃ e, .relay (.pumpPublish e) ∈ round

section
variable {F : Type} [CFloat F] {profile : Profile}

theorem FairRound.shows {round : List BoardOp} (h : FairRound round) (s : Board F) (place : Place) :
    ∃ op ∈ (Board.pipeline profile).labels s round, place.Left op := by
  obtain ⟨hsteps, e, hpublish⟩ := h
  have hshown {op : RelayOp} (hop : .relay op ∈ round) :
      op.pipeOp ∈ (Board.pipeline profile).labels s round :=
    (Board.pipeline profile).mem_labels (fun _ => rfl) hop s
  cases place with
  | pump => exact ⟨_, hshown hpublish, trivial⟩
  | telemetryQ => exact ⟨_, hshown (hsteps .pumpRecv (by simp)), trivial⟩
  | proc => exact ⟨_, hshown (hsteps .procSend (by simp)), trivial⟩
  | sampleQ => exact ⟨_, hshown (hsteps .procRecv (by simp)), trivial⟩
  | sensor => exact ⟨_, hshown (hsteps .sensorSend (by simp)), trivial⟩

end

section
variable (F : Type) [CFloat F] (P : Platform) (profile : Profile) (wdtReset : Bool)
  (nvs : Option NvsImage) (ops : List BoardOp)

/-- A backlog of the board is settled by as many fair rounds as it has places to go. -/
theorem board_settles {old rest : List IotTelemetryMsg} {first : Option IotTelemetryMsg}
    (h : (boardAfter F P profile wdtReset nvs ops).pipe.Going →
      (boardAfter F P profile wdtReset nvs ops).pipe.Settling old first rest)
    {rounds : List (List BoardOp)} (hfair : ∀ round ∈ rounds, FairRound round)
    (hgo : (boardAfter F P profile wdtReset nvs (ops ++ rounds.flatten)).pipe.Going)
    (hlen : 5 * rest.length ≤ rounds.length) :
    (boardAfter F P profile wdtReset nvs (ops ++ rounds.flatten)).pipe.Settling old first [] := by
  obtain ⟨shown, hlabels, hcount, hshown⟩ := (Board.pipeline profile).labels_flatten
    (D := fun round => ∀ place : Place, ∃ op ∈ round, place.Left op)
    (fun s round hround => FairRound.shows hround s) hfair (boardAfter F P profile wdtReset nvs ops)
  have hrun : (boardAfter F P profile wdtReset nvs (ops ++ rounds.flatten)).pipe =
      shown.flatten.foldl Pipeline.apply (boardAfter F P profile wdtReset nvs ops).pipe := by
    rw [← hlabels, boardAfter, List.foldl_append]
    exact (Board.pipeline profile).run (boardAfter F P profile wdtReset nvs ops) rounds.flatten
  rw [hrun] at hgo ⊢
  obtain ⟨hbefore, hruns⟩ := hgo.back_run
  refine (h hbefore).rounds (fun round hround => ⟨fun op hop => ?_, hshown round hround⟩) ?_
  · exact hruns op (List.mem_flatten_of_mem hround hop)
  · rw [hcount]
    exact hlen

/-- While the tasks are not told to end, the oldest message on its way is handed to
`iot_mqtt_publish_telemetry` within five rounds in which each makes its steps, and after 175
everything produced before them is handed to it or noted as lost. The steps of a round may stand in
any order, among commands and new samples. -/
theorem messages_settle (rounds : List (List BoardOp)) (hfair : ∀ round ∈ rounds, FairRound round)
    (hgo : (boardAfter F P profile wdtReset nvs (ops ++ rounds.flatten)).pipe.Going) :
    let s := (boardAfter F P profile wdtReset nvs ops).pipe
    let s' := (boardAfter F P profile wdtReset nvs (ops ++ rounds.flatten)).pipe
    (5 ≤ rounds.length → ∀ m ∈ s.onWay.head?, m ∈ s'.handed) ∧
      (175 ≤ rounds.length → ∀ m ∈ s.produced,
        m ∈ s'.handed ∨ ∃ why, (m.seq, why) ∈ s'.lost) := by
  intro s s'
  refine ⟨fun hlen m hm => ?_, fun hlen m hm => ?_⟩
  · have hstart (hgo : s.Going) : s.Settling [] (some m) [m] := by
      refine ⟨hgo, ?_, by simp, by simp⟩
      obtain ⟨rest, hrest⟩ := List.head?_eq_some_iff.mp hm
      exact ⟨rest, hrest.symm⟩
    have hdone := board_settles F P profile wdtReset nvs ops hstart hfair hgo hlen
    simpa using hdone.first m rfl
  · have hbounded : s.Bounded := by
      simp only [s, board_pipe]
      exact Pipeline.after_bounded _
    have hstart (hgo : s.Going) : s.Settling s.produced none s.onWay := by
      refine ⟨hgo, List.prefix_rfl, fun m hm => ?_, by simp⟩
      rcases hbounded.accounted m hm with hflow | hwhy
      · rw [s.flow_eq, List.mem_append] at hflow
        exact hflow.elim (fun h => Or.inr (Or.inl h)) Or.inl
      · exact Or.inr (Or.inr hwhy)
    have hplaces := hbounded.onWay_le
    have hdone := board_settles F P profile wdtReset nvs ops hstart hfair hgo (by omega)
    simpa using hdone.accounted m hm

end

/-- A round with a new sample and a command in it, in which MQTT is not up. -/
def busyRound : List BoardOp :=
  [.relay .procSend, .sensorPass 200 anyReads, .relay (.pumpPublish .fail), .cmd .receive,
    .relay .sensorSend, .relay .procRecv, .relay .pumpRecv]

theorem first_message_arrives :
    let ops : List BoardOp := [.sensorPass 0 anyReads]
    let s' := (boardAfter ℚ hostPlatform .robotics false none
      (ops ++ (List.replicate 5 busyRound).flatten)).pipe
    let s := (boardAfter ℚ hostPlatform .robotics false none ops).pipe
    s.onWay.length = 1 ∧ ∀ m ∈ s.onWay.head?, m ∈ s'.handed := by
  intro ops s' s
  have hfair : ∀ round ∈ List.replicate 5 busyRound, FairRound round := by
    intro round hround
    rw [List.eq_of_mem_replicate hround]
    exact ⟨by simp [busyRound], .fail, by simp [busyRound]⟩
  have hsettle := messages_settle ℚ hostPlatform .robotics false none ops
    (List.replicate 5 busyRound) hfair ⟨by decide +kernel, by decide +kernel⟩
  exact ⟨by decide +kernel, hsettle.1 (by simp)⟩

end IotPlatform
