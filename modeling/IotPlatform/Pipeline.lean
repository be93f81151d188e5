import IotPlatform.Queues
import IotPlatform.Sensors

/-!
# The telemetry pipeline

`sensor_task`, `proc_task` and `mqtt_pump` pass a message on over two queues of sixteen. Each task
holds one message of its own at most, and drops it when the next queue is full.
-/
namespace IotPlatform
open CText CFloat Queues

/-- The length of `sample_q` and of `telemetry_q`. -/
def telemetryQLen : ℕ := 16

/-- What a sensor hook makes of a message; it leaves the number alone. -/
def SeqHook : Type := { h : IotTelemetryMsg → IotErr × IotTelemetryMsg // ∀ m, (h m).2.seq = m.seq }

/-- The sensor hook of a profile is one. -/
def Profile.seqHook {F : Type} [CFloat F] (profile : Profile) (r : SensorReads) (d : Device F) :
    SeqHook where
  val m := ((profile.sensorHook r m d).1, (profile.sensorHook r m d).2.1)
  property m := by
    obtain ⟨payload, len, h⟩ := sensorHook_spec profile r m d
    simp only [h]

def passthroughProc (inp _out : IotTelemetryMsg) : IotErr × IotTelemetryMsg := (.ok, inp)

/-- Why a message went no further. -/
inductive LostBy
  | sensorHook | sampleQ | telemetryQ
  deriving DecidableEq, Repr

/-- The queues and the message each task holds. For the proofs it is noted how often `sensor_task`
has gone through its loop, what it has produced, what was handed to `iot_mqtt_publish_telemetry`,
and what was lost. -/
structure Pipeline where
  seq : UInt32
  sensor : Option IotTelemetryMsg
  sampleQ : Ledger IotTelemetryMsg
  proc : Option IotTelemetryMsg
  telemetryQ : Ledger IotTelemetryMsg
  pump : Option IotTelemetryMsg
  shutdown : Bool
  run : Bool
  passes : ℕ
  produced : List IotTelemetryMsg
  handed : List IotTelemetryMsg
  lost : List (UInt32 × LostBy)

/-- The steps of the three tasks, and the calls that end them. -/
inductive PipeOp
  | sensorPass (ms : UInt32) (hook : SeqHook)
  | sensorSend
  | procRecv
  | procSend
  | pumpRecv
  | pumpPublish (e : IotErr)
  | requestShutdown
  | mqttStop

/-- The send that a task makes of the message it holds; without room the message is dropped. -/
def sendOrDrop (q : Ledger IotTelemetryMsg) (m : IotTelemetryMsg) (why : LostBy) :
    Ledger IotTelemetryMsg × List (UInt32 × LostBy) :=
  match q.send telemetryQLen m with
  | some q => (q, [])
  | none => (q, [(m.seq, why)])

/-- One step; a step that is not the next one of its task changes nothing. -/
def Pipeline.apply (s : Pipeline) : PipeOp → Pipeline
  | .sensorPass ms hook =>
    match s.sensor, s.shutdown with
    | none, false =>
      let (e, m) := hook.1 (.stamped (s.seq + 1) ms.toNat)
      let s := { s with seq := s.seq + 1, passes := s.passes + 1 }
      if e = .ok then { s with sensor := some m, produced := s.produced ++ [m] }
      else { s with lost := s.lost ++ [(m.seq, .sensorHook)] }
    | _, _ => s
  | .sensorSend =>
    match s.sensor with
    | some m =>
      let (q, lost) := sendOrDrop s.sampleQ m .sampleQ
      { s with sensor := none, sampleQ := q, lost := s.lost ++ lost }
    | none => s
  | .procRecv =>
    match s.proc, s.shutdown, s.sampleQ.recv with
    | none, false, some (m, q) => { s with sampleQ := q, proc := some (passthroughProc m m).2 }
    | _, _, _ => s
  | .procSend =>
    match s.proc with
    | some m =>
      let (q, lost) := sendOrDrop s.telemetryQ m .telemetryQ
      { s with proc := none, telemetryQ := q, lost := s.lost ++ lost }
    | none => s
  | .pumpRecv =>
    match s.pump, s.run, s.telemetryQ.recv with
    | none, true, some (m, q) => { s with telemetryQ := q, pump := some m }
    | _, _, _ => s
  | .pumpPublish _ =>
    match s.pump with
    | some m => { s with pump := none, handed := s.handed ++ [m] }
    | none => s
  | .requestShutdown => { s with shutdown := true }
  | .mqttStop => { s with run := false }

/-- The pipeline that `iot_tasks_start` and `iot_mqtt_start` leave. -/
def Pipeline.start : Pipeline :=
  ⟨0, none, .empty, none, .empty, none, false, true, 0, [], [], []⟩

def Pipeline.after (ops : List PipeOp) : Pipeline := ops.foldl Pipeline.apply .start

/-- Everything that is still on its way, or has arrived, oldest first. -/
def Pipeline.flow (s : Pipeline) : List IotTelemetryMsg :=
  s.handed ++ s.pump.toList ++ s.telemetryQ.waiting ++ s.proc.toList ++ s.sampleQ.waiting ++
    s.sensor.toList

/-- The message of a pass is added at the end, or its number is noted as lost. -/
def Pipeline.Passed (s s' : Pipeline) : Prop :=
  s'.seq = s.seq + 1 ∧ s'.passes = s.passes + 1 ∧
    ((∃ m, m.seq = s'.seq ∧ s'.flow = s.flow ++ [m] ∧ s'.produced = s.produced ++ [m] ∧
      s'.lost = s.lost) ∨
    (∃ why, s'.flow = s.flow ∧ s'.produced = s.produced ∧ s'.lost = s.lost ++ [(s'.seq, why)]))

/-- At most one message leaves the flow, and then it is noted as lost. -/
def Pipeline.Moved (s s' : Pipeline) : Prop :=
  s'.seq = s.seq ∧ s'.passes = s.passes ∧ s'.produced = s.produced ∧
    ((s'.flow = s.flow ∧ s'.lost = s.lost) ∨
    ∃ m why pre post, s.flow = pre ++ m :: post ∧ s'.flow = pre ++ post ∧
      s'.lost = s.lost ++ [(m.seq, why)])

theorem sendOrDrop_spec (q : Ledger IotTelemetryMsg) (m : IotTelemetryMsg) (why : LostBy) :
    ((sendOrDrop q m why).1.waiting = q.waiting ++ [m] ∧ (sendOrDrop q m why).2 = []) ∨
      ((sendOrDrop q m why).1 = q ∧ (sendOrDrop q m why).2 = [(m.seq, why)]) := by
  unfold sendOrDrop
  cases hq : q.send telemetryQLen m with
  | none => exact Or.inr ⟨rfl, rfl⟩
  | some q' => exact Or.inl ⟨(Ledger.send_eq_some hq).2.2.2, rfl⟩

/-- A send takes the message of its task to the end of the queue, or out of the flow. -/
theorem flow_send {q : Ledger IotTelemetryMsg} {m : IotTelemetryMsg} {why : LostBy}
    {s s' : Pipeline} (pre post : List IotTelemetryMsg)
    (hbefore : s.flow = pre ++ q.waiting ++ m :: post)
    (hafter : s'.flow = pre ++ (sendOrDrop q m why).1.waiting ++ post)
    (hlost : s'.lost = s.lost ++ (sendOrDrop q m why).2) :
    (s'.flow = s.flow ∧ s'.lost = s.lost) ∨
      ∃ m why pre post, s.flow = pre ++ m :: post ∧ s'.flow = pre ++ post ∧
        s'.lost = s.lost ++ [(m.seq, why)] := by
  rcases sendOrDrop_spec q m why with ⟨hwait, hnone⟩ | ⟨hq, hdrop⟩
  · refine Or.inl ⟨?_, by rw [hlost, hnone, List.append_nil]⟩
    rw [hafter, hbefore, hwait]
    simp
  · exact Or.inr ⟨m, why, pre ++ q.waiting, post, hbefore, by rw [hafter, hq],
      by rw [hlost, hdrop]⟩

theorem Pipeline.moved_refl (s : Pipeline) : s.Moved s := ⟨rfl, rfl, rfl, Or.inl ⟨rfl, rfl⟩⟩

theorem Pipeline.apply_cases (s : Pipeline) (op : PipeOp) :
    s.Passed (s.apply op) ∨ s.Moved (s.apply op) := by
  cases op with
  | sensorPass ms hook =>
    simp only [Pipeline.apply]
    split
    · next hnone hrun =>
      have hseq := hook.2 (.stamped (s.seq + 1) ms.toNat)
      refine Or.inl ?_
      split_ifs
      · exact ⟨rfl, rfl, Or.inl ⟨_, hseq, by simp [Pipeline.flow, hnone], rfl, rfl⟩⟩
      · exact ⟨rfl, rfl, Or.inr ⟨.sensorHook, by simp [Pipeline.flow], rfl, by rw [hseq]; rfl⟩⟩
    · exact Or.inr s.moved_refl
  | sensorSend =>
    simp only [Pipeline.apply]
    split
    · next m hm =>
      refine Or.inr ⟨rfl, rfl, rfl, flow_send (s.handed ++ s.pump.toList ++
        s.telemetryQ.waiting ++ s.proc.toList) [] ?_ ?_ rfl⟩
      · simp [Pipeline.flow, hm]
      · simp [Pipeline.flow]
    · exact Or.inr s.moved_refl
  | procRecv =>
    simp only [Pipeline.apply]
    split
    · next m q hnone hrun hq =>
      obtain ⟨hwait, -, -⟩ := Ledger.recv_eq_some hq
      exact Or.inr ⟨rfl, rfl, rfl, Or.inl ⟨by
        simp [Pipeline.flow, hwait, hnone, passthroughProc], rfl⟩⟩
    · exact Or.inr s.moved_refl
  | procSend =>
    simp only [Pipeline.apply]
    split
    · next m hm =>
      refine Or.inr ⟨rfl, rfl, rfl, flow_send (s.handed ++ s.pump.toList)
        (s.sampleQ.waiting ++ s.sensor.toList) ?_ ?_ rfl⟩
      · simp [Pipeline.flow, hm]
      · simp [Pipeline.flow]
    · exact Or.inr s.moved_refl
  | pumpRecv =>
    simp only [Pipeline.apply]
    split
    · next m q hnone hrun hq =>
      obtain ⟨hwait, -, -⟩ := Ledger.recv_eq_some hq
      exact Or.inr ⟨rfl, rfl, rfl, Or.inl ⟨by simp [Pipeline.flow, hwait, hnone], rfl⟩⟩
    · exact Or.inr s.moved_refl
  | pumpPublish e =>
    simp only [Pipeline.apply]
    split
    · next m hm =>
      exact Or.inr ⟨rfl, rfl, rfl, Or.inl ⟨by simp [Pipeline.flow, hm], rfl⟩⟩
    · exact Or.inr s.moved_refl
  | requestShutdown => exact Or.inr ⟨rfl, rfl, rfl, Or.inl ⟨rfl, rfl⟩⟩
  | mqttStop => exact Or.inr ⟨rfl, rfl, rfl, Or.inl ⟨rfl, rfl⟩⟩

/-- Numbers count the passes, the flow is part of what was produced, in its order, and every number
given out is in the flow or noted as lost. -/
structure Pipeline.Ordered (s : Pipeline) : Prop where
  seq : s.seq.toNat = s.passes
  flow : s.flow.Sublist s.produced
  rising : s.produced.Pairwise fun a b => a.seq < b.seq
  given : ∀ m ∈ s.produced, m.seq ≤ s.seq
  explained : ∀ k, 0 < k → k ≤ s.seq → (∃ m ∈ s.flow, m.seq = k) ∨ ∃ why, (k, why) ∈ s.lost

theorem Pipeline.start_ordered : Pipeline.start.Ordered where
  seq := rfl
  flow := List.Sublist.refl _
  rising := List.Pairwise.nil
  given := fun _ h => absurd h List.not_mem_nil
  explained k h0 hle := absurd (UInt32.le_iff_toNat_le.mp hle) (by
    have := UInt32.lt_iff_toNat_lt.mp h0
    simp only [Pipeline.start, UInt32.toNat_zero] at this ⊢
    omega)

section
variable {s s' : Pipeline}

theorem Pipeline.Ordered.moved (hs : s.Ordered) (h : s.Moved s') : s'.Ordered := by
  obtain ⟨hseq, hpasses, hprod, h⟩ := h
  rcases h with ⟨hflow, hlost⟩ | ⟨m, why, pre, post, hbefore, hafter, hlost⟩
  · exact ⟨by rw [hseq, hpasses, hs.seq], by rw [hflow, hprod]; exact hs.flow,
      by rw [hprod]; exact hs.rising, by rw [hprod, hseq]; exact hs.given,
      by rw [hseq, hflow, hlost]; exact hs.explained⟩
  · refine ⟨by rw [hseq, hpasses, hs.seq], ?_, by rw [hprod]; exact hs.rising,
      by rw [hprod, hseq]; exact hs.given, fun k h0 hle => ?_⟩
    · rw [hafter, hprod]
      refine List.Sublist.trans ?_ (hbefore ▸ hs.flow)
      exact (List.sublist_cons_self m post).append_left pre
    · rw [hseq] at hle
      rcases hs.explained k h0 hle with ⟨x, hx, hk⟩ | ⟨y, hy⟩
      · rw [hbefore] at hx
        rcases List.mem_append.mp hx with hx | hx
        · exact Or.inl ⟨x, by rw [hafter]; exact List.mem_append_left _ hx, hk⟩
        · rcases List.mem_cons.mp hx with rfl | hx
          · exact Or.inr ⟨why, by rw [hlost, ← hk]; simp⟩
          · exact Or.inl ⟨x, by rw [hafter]; exact List.mem_append_right _ hx, hk⟩
      · exact Or.inr ⟨y, by rw [hlost]; exact List.mem_append_left _ hy⟩

theorem Pipeline.Ordered.passed (hs : s.Ordered) (h : s.Passed s') (hlt : s'.passes < 2 ^ 32) :
    s'.Ordered := by
  obtain ⟨hseq, hpasses, h⟩ := h
  have hnum : s'.seq.toNat = s.seq.toNat + 1 := by
    have hsum := hs.seq
    rw [hseq, UInt32.toNat_add]
    exact Nat.mod_eq_of_lt (by simp; omega)
  have hnew : s.seq < s'.seq := UInt32.lt_iff_toNat_lt.mpr (by omega)
  have hold : ∀ k, k ≤ s'.seq → k ≤ s.seq ∨ k = s'.seq := by
    intro k hk
    have hk' := UInt32.le_iff_toNat_le.mp hk
    by_cases hlast : k.toNat = s'.seq.toNat
    · exact Or.inr (UInt32.toNat_inj.mp hlast)
    · exact Or.inl (UInt32.le_iff_toNat_le.mpr (by omega))
  have hcount : s'.seq.toNat = s'.passes := by rw [hnum, hs.seq, hpasses]
  rcases h with ⟨m, hm, hflow, hprod, hlost⟩ | ⟨why, hflow, hprod, hlost⟩
  · refine ⟨hcount, by rw [hflow, hprod]; exact hs.flow.append_right [m], ?_, fun x hx => ?_,
      fun k h0 hle => ?_⟩
    · rw [hprod]
      refine List.pairwise_append.mpr ⟨hs.rising, List.pairwise_singleton _ _, fun a ha b hb => ?_⟩
      rw [List.mem_singleton.mp hb, hm]
      exact UInt32.lt_of_le_of_lt (hs.given a ha) hnew
    · rw [hprod] at hx
      rcases List.mem_append.mp hx with hx | hx
      · exact UInt32.le_trans (hs.given x hx) (UInt32.le_of_lt hnew)
      · rw [List.mem_singleton.mp hx, hm]
        exact UInt32.le_refl _
    · rcases hold k hle with hle | rfl
      · rcases hs.explained k h0 hle with ⟨x, hx, hk⟩ | ⟨y, hy⟩
        · exact Or.inl ⟨x, by rw [hflow]; exact List.mem_append_left _ hx, hk⟩
        · exact Or.inr ⟨y, by rw [hlost]; exact hy⟩
      · exact Or.inl ⟨m, by rw [hflow]; simp, hm⟩
  · refine ⟨hcount, by rw [hflow, hprod]; exact hs.flow, by rw [hprod]; exact hs.rising,
      fun x hx => ?_, fun k h0 hle => ?_⟩
    · rw [hprod] at hx
      exact UInt32.le_trans (hs.given x hx) (UInt32.le_of_lt hnew)
    · rcases hold k hle with hle | rfl
      · rcases hs.explained k h0 hle with ⟨x, hx, hk⟩ | ⟨y, hy⟩
        · exact Or.inl ⟨x, by rw [hflow]; exact hx, hk⟩
        · exact Or.inr ⟨y, by rw [hlost]; exact List.mem_append_left _ hy⟩
      · exact Or.inr ⟨why, by rw [hlost]; simp⟩

/-- The flow of an ordered pipeline rises; what is missing below a message handed over was lost. -/
theorem Pipeline.Ordered.handed (hs : s.Ordered) :
    s.handed.Sublist s.produced ∧ (s.handed.Pairwise fun a b => a.seq < b.seq) ∧
      ∀ last ∈ s.handed, ∀ k, 0 < k → k < last.seq →
        (∃ m ∈ s.handed, m.seq = k) ∨ ∃ why, (k, why) ∈ s.lost := by
  have hpre : s.handed.Sublist s.flow := by
    simp only [Pipeline.flow, List.append_assoc]
    exact List.sublist_append_left _ _
  have hsub := hpre.trans hs.flow
  refine ⟨hsub, hs.rising.sublist hsub, fun last hlast k h0 hlt => ?_⟩
  have hle : k ≤ s.seq :=
    UInt32.le_trans (UInt32.le_of_lt hlt) (hs.given last (hsub.subset hlast))
  rcases hs.explained k h0 hle with ⟨m, hm, hk⟩ | hlost
  · left
    -- behind the last message handed over the numbers are greater
    have hrise := hs.rising.sublist hs.flow
    simp only [Pipeline.flow, List.append_assoc] at hm hrise
    rcases List.mem_append.mp hm with hm | hm
    · exact ⟨m, hm, hk⟩
    · have hgt := (List.pairwise_append.mp hrise).2.2 last hlast m hm
      exact absurd (UInt32.lt_trans hlt hgt) (by rw [hk]; exact UInt32.lt_irrefl k)
  · exact Or.inr hlost

end

theorem Pipeline.passes_le (s : Pipeline) (op : PipeOp) : s.passes ≤ (s.apply op).passes := by
  rcases s.apply_cases op with ⟨-, h, -⟩ | ⟨-, h, -⟩ <;> omega

theorem Pipeline.after_ordered (ops : List PipeOp) (h : (Pipeline.after ops).passes < 2 ^ 32) :
    (Pipeline.after ops).Ordered := by
  induction ops using List.reverseRecOn with
  | nil => exact Pipeline.start_ordered
  | append_singleton ops op ih =>
    have heq : Pipeline.after (ops ++ [op]) = (Pipeline.after ops).apply op := by
      simp [Pipeline.after]
    rw [heq] at h ⊢
    have hs := ih ((Pipeline.passes_le _ op).trans_lt h)
    rcases (Pipeline.after ops).apply_cases op with hp | hm
    · exact hs.passed hp h
    · exact hs.moved hm

/-- What makes a step lose the number `seq`: a hook that fails, or a queue that holds sixteen. -/
def Pipeline.Loses (s : Pipeline) (seq : UInt32) : PipeOp → LostBy → Prop
  | .sensorPass ms hook, .sensorHook =>
    seq = s.seq + 1 ∧ (hook.1 (.stamped (s.seq + 1) ms.toNat)).1 ≠ .ok
  | .sensorSend, .sampleQ =>
    (∃ m ∈ s.sensor, m.seq = seq) ∧ telemetryQLen ≤ s.sampleQ.waiting.length
  | .procSend, .telemetryQ =>
    (∃ m ∈ s.proc, m.seq = seq) ∧ telemetryQLen ≤ s.telemetryQ.waiting.length
  | _, _ => False

theorem sendOrDrop_lost {q : Ledger IotTelemetryMsg} {m : IotTelemetryMsg} {why : LostBy}
    {x : UInt32 × LostBy} (h : x ∈ (sendOrDrop q m why).2) :
    x = (m.seq, why) ∧ telemetryQLen ≤ q.waiting.length := by
  unfold sendOrDrop at h
  cases hq : q.send telemetryQLen m with
  | none =>
    rw [hq] at h
    exact ⟨List.mem_singleton.mp h, Ledger.send_eq_none.mp hq⟩
  | some q' => simp [hq] at h

/-- A step notes a loss only where it loses the message. -/
theorem Pipeline.lost_step {s : Pipeline} {op : PipeOp} {x : UInt32 × LostBy}
    (h : x ∈ (s.apply op).lost) : x ∈ s.lost ∨ s.Loses x.1 op x.2 := by
  cases op with
  | sensorPass ms hook =>
    simp only [Pipeline.apply] at h
    split at h
    · split_ifs at h with hok
      · exact Or.inl h
      · refine (List.mem_append.mp h).imp_right fun hnew => ?_
        rw [List.mem_singleton.mp hnew]
        exact ⟨hook.2 _, hok⟩
    · exact Or.inl h
  | sensorSend =>
    simp only [Pipeline.apply] at h
    split at h
    · next m hm =>
      refine (List.mem_append.mp h).imp_right fun hnew => ?_
      obtain ⟨rfl, hfull⟩ := sendOrDrop_lost hnew
      exact ⟨⟨m, hm, rfl⟩, hfull⟩
    · exact Or.inl h
  | procSend =>
    simp only [Pipeline.apply] at h
    split at h
    · next m hm =>
      refine (List.mem_append.mp h).imp_right fun hnew => ?_
      obtain ⟨rfl, hfull⟩ := sendOrDrop_lost hnew
      exact ⟨⟨m, hm, rfl⟩, hfull⟩
    · exact Or.inl h
  | procRecv | pumpRecv | pumpPublish =>
    simp only [Pipeline.apply] at h
    split at h <;> exact Or.inl h
  | requestShutdown | mqttStop => exact Or.inl h

/-- Every note of a run was made by a step that lost the message. -/
theorem Pipeline.lost_run (ops : List PipeOp) {x : UInt32 × LostBy}
    (h : x ∈ (Pipeline.after ops).lost) : ∃ before op behind, ops = before ++ op :: behind ∧
      (Pipeline.after before).Loses x.1 op x.2 := by
  induction ops using List.reverseRecOn with
  | nil => exact absurd h List.not_mem_nil
  | append_singleton ops op ih =>
    have heq : Pipeline.after (ops ++ [op]) = (Pipeline.after ops).apply op := by
      simp [Pipeline.after]
    rw [heq] at h
    rcases Pipeline.lost_step h with hold | hnew
    · obtain ⟨before, op', behind, rfl, hloses⟩ := ih hold
      exact ⟨before, op', behind ++ [op], by simp, hloses⟩
    · exact ⟨ops, op, [], rfl, hnew⟩

/-- What is handed to `iot_mqtt_publish_telemetry` is part of what was produced, unaltered, in the
same order and with rising numbers, and every number missing below was lost to a failed hook or a
full queue. -/
theorem pipeline_keeps_order (ops : List PipeOp) (h : (Pipeline.after ops).passes < 2 ^ 32) :
    let s := Pipeline.after ops
    s.handed.Sublist s.produced ∧ (s.handed.Pairwise fun a b => a.seq < b.seq) ∧
      ∀ last ∈ s.handed, ∀ k, 0 < k → k < last.seq →
        (∃ m ∈ s.handed, m.seq = k) ∨ ∃ why, (k, why) ∈ s.lost :=
  (Pipeline.after_ordered ops h).handed

/-- The first hook fails, and the second message goes all the way. -/
def secondMessage : List PipeOp :=
  [.sensorPass 0 ⟨fun m => (.fail, m), fun _ => rfl⟩,
    .sensorPass 200 ⟨fun m => (.ok, m), fun _ => rfl⟩,
    .sensorSend, .procRecv, .procSend, .pumpRecv, .pumpPublish .ok]

theorem second_message_explains_first : ∃ why, (1, why) ∈ (Pipeline.after secondMessage).lost := by
  obtain ⟨-, -, hmissing⟩ := pipeline_keeps_order secondMessage (by decide)
  rcases hmissing (.stamped 2 200) (by decide) 1 (by decide) (by decide) with h | h
  · exact absurd h (by decide)
  · exact h

end IotPlatform
