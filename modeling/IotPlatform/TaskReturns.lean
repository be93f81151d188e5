import IotPlatform.Watchdog

/-!
# Task functions that return

FreeRTOS has no place for a task function to return to. The five platform tasks and the MQTT pump
end by returning once their stop flag tells them to, and an update deletes itself.
-/
namespace IotPlatform
open CText Runs

/-- The places of a function. -/
def TaskFn.places : TaskFn → List TaskPc
  | .sensorTask | .procTask => [.top, .body, .work, .send, .returned]
  | .cmdTask | .wdtTask | .mqttPump => [.top, .body, .work, .returned]
  | .diagTask => [.top, .body, .returned]
  | .otaTask => [.top, .body, .work, .send, .finishing, .done, .leaving, .restarting, .deleted]

/-- The function of a task returns if the task is left to run. -/
def CanReturn (s : TaskSys) : Prop :=
  ∃ t ∈ s.tasks, ∃ pc, Reaches (Exec s.shutdown s.mqtt.run t.fn) t.pc pc ∧
    Exec s.shutdown s.mqtt.run t.fn pc .ret .returned

/-- No loop that still runs is told to stop. -/
def NothingStopped (s : TaskSys) : Prop :=
  ∀ t ∈ s.tasks, t.pc ≠ .returned →
    (t.fn ∈ platformFns → s.shutdown = false) ∧ (t.fn = .mqttPump → s.mqtt.run = true)

section
variable {shutdown run : Bool} {fn : TaskFn} {pc pc' : TaskPc}

theorem Exec.mem_places {what : Call} (h : Exec shutdown run fn pc what pc') : pc' ∈ fn.places := by
  cases h with
  | stop hfn | goOn hfn => revert fn; decide
  | sensorHook b | procRecv b | cmdRecv b | pumpRecv b | otaBegin b | otaPerform b | otaFinish b =>
    cases b <;> decide
  | _ => decide

theorem Exec.not_of_returned {what : Call} : ¬ Exec shutdown run fn .returned what pc' := nofun

/-- Every pass of a loop comes back to the test, whatever the flags. -/
theorem reaches_top (hfn : fn ≠ .otaTask) (hpc : pc ∈ fn.places) (hr : pc ≠ .returned) :
    Reaches (Exec shutdown run fn) pc .top := by
  cases fn with
  | sensorTask =>
    have hwork : Reaches (Exec shutdown run .sensorTask) .work .top :=
      .single ⟨_, .sensorHook false⟩
    cases pc with
    | top => exact .refl
    | body => exact .head ⟨_, .sensorTake⟩ hwork
    | work => exact hwork
    | send => exact .single ⟨_, .sensorSend⟩
    | returned => exact absurd rfl hr
    | _ => simp [TaskFn.places] at hpc
  | procTask =>
    have hsend : Reaches (Exec shutdown run .procTask) .send .top := .single ⟨_, .procSend⟩
    cases pc with
    | top => exact .refl
    | body => exact .single ⟨_, .procRecv false⟩
    | work => exact .head ⟨_, .procHook⟩ hsend
    | send => exact hsend
    | returned => exact absurd rfl hr
    | _ => simp [TaskFn.places] at hpc
  | cmdTask =>
    cases pc with
    | top => exact .refl
    | body => exact .single ⟨_, .cmdRecv false⟩
    | work => exact .single ⟨_, .cmdHook⟩
    | returned => exact absurd rfl hr
    | _ => simp [TaskFn.places] at hpc
  | diagTask =>
    cases pc with
    | top => exact .refl
    | body => exact .single ⟨_, .diagDelay⟩
    | returned => exact absurd rfl hr
    | _ => simp [TaskFn.places] at hpc
  | wdtTask =>
    have hwork : Reaches (Exec shutdown run .wdtTask) .work .top := .single ⟨_, .wdtDelay⟩
    cases pc with
    | top => exact .refl
    | body => exact .head ⟨_, .wdtReset⟩ hwork
    | work => exact hwork
    | returned => exact absurd rfl hr
    | _ => simp [TaskFn.places] at hpc
  | mqttPump =>
    cases pc with
    | top => exact .refl
    | body => exact .single ⟨_, .pumpNoQueue⟩
    | work => exact .single ⟨_, .pumpPublish⟩
    | returned => exact absurd rfl hr
    | _ => simp [TaskFn.places] at hpc
  | otaTask => exact absurd rfl hfn

end

/-- Every task is at a place of its function. -/
def PlacesKept (s : TaskSys) : Prop := ∀ t ∈ s.tasks, t.pc ∈ t.fn.places

theorem not_canReturn_iff {s : TaskSys} (h : PlacesKept s) : ¬ CanReturn s ↔ NothingStopped s := by
  constructor
  · intro hno t ht hr
    have hreach : t.fn ≠ .otaTask → Reaches (Exec s.shutdown s.mqtt.run t.fn) t.pc .top :=
      fun hfn => reaches_top hfn (h t ht) hr
    constructor
    · intro hfn
      by_contra hs
      have hota : t.fn ≠ .otaTask := fun he => by simp [he, platformFns] at hfn
      exact hno ⟨t, ht, .top, hreach hota, .stop hfn (Bool.not_eq_false _ ▸ hs)⟩
    · intro hfn
      by_contra hs
      have hota : t.fn ≠ .otaTask := fun he => by simp [he] at hfn
      exact hno ⟨t, ht, .top, hreach hota,
        Exec.ret_iff.mpr ⟨rfl, rfl, Or.inr ⟨hfn, Bool.not_eq_true _ ▸ hs⟩⟩⟩
  · rintro hn ⟨t, ht, pc, hreach, hret⟩
    have hr : t.pc ≠ .returned := by
      intro he
      rw [he] at hreach
      rcases hreach.cases_head with rfl | ⟨_, ⟨what, hstep⟩, -⟩
      · exact Exec.not_of_returned hret
      · exact Exec.not_of_returned hstep
    obtain ⟨hplatform, hpump⟩ := hn t ht hr
    obtain ⟨-, -, ⟨hfn, hs⟩ | ⟨hfn, hs⟩⟩ := Exec.ret_iff.mp hret
    · simp [hplatform hfn] at hs
    · simp [hpump hfn] at hs

theorem newTasks_top {st st' : TasksSt} {t : TaskInst} (h : t ∈ newTasks st st') : t.pc = .top := by
  obtain ⟨o, -, ho⟩ := List.mem_filterMap.mp h
  obtain ⟨fn, -, rfl⟩ := Option.map_eq_some_iff.mp ho
  rfl

theorem top_mem_places (fn : TaskFn) : TaskPc.top ∈ fn.places := by cases fn <;> decide

theorem PlacesKept.step {s s' : TaskSys} {a : TaskAct} (h : PlacesKept s) (hn : TaskNext s a s') :
    PlacesKept s' := by
  cases hn with
  | tasksStart mem hpc =>
    intro t ht
    rcases List.mem_append.mp ht with ht | ht
    · exact h t ht
    · rw [newTasks_top ht]
      exact top_mem_places t.fn
  | mqttStart deviceId answers hpc =>
    intro t ht
    simp only at ht
    split_ifs at ht
    · rcases List.mem_append.mp ht with ht | ht
      · exact h t ht
      · rw [List.mem_singleton.mp ht]
        decide
    · exact h t ht
  | task i t what pc ht hstep =>
    intro t' ht'
    rcases List.mem_or_eq_of_mem_set ht' with ht' | rfl
    · exact h t' ht'
    · exact hstep.mem_places
  | otaStart ht =>
    intro t ht
    rcases List.mem_append.mp ht with ht | ht
    · exact h t ht
    · rw [List.mem_singleton.mp ht]
      decide
  | restart ht => exact fun t ht => absurd ht List.not_mem_nil
  | _ => exact h

theorem NothingStopped.no_return {s s' : TaskSys} {c : Caller} (h : NothingStopped s) :
    ¬ TaskNext s (.call c .ret) s' := by
  intro hn
  cases hn with
  | main _ pc hstep hwhat => exact MainExec.not_ret hstep
  | task i t _ pc ht hstep =>
    obtain ⟨htop, -, hstop⟩ := Exec.ret_iff.mp hstep
    obtain ⟨hplatform, hpump⟩ := h t (List.mem_of_getElem? ht) (by simp [htop])
    rcases hstop with ⟨hfn, hs⟩ | ⟨hfn, hs⟩
    · simp [hplatform hfn] at hs
    · simp [hpump hfn] at hs

/-- Along a run of the system no task function returns or is about to, exactly when no loop that
still runs is told to stop. -/
theorem tasks_never_return_iff {tr : List (TaskSys × TaskAct × TaskSys)} {s : TaskSys}
    (h : Run TaskNext .boot tr s) :
    (∀ e ∈ tr, NothingStopped e.2.2) ↔
      ∀ e ∈ tr, (∀ c, e.2.1 ≠ .call c .ret) ∧ ¬ CanReturn e.2.2 := by
  refine Run.forall_iff (I := fun s => NothingStopped s ∧ PlacesKept s)
    (C := fun _ _ s' => NothingStopped s')
    (G := fun _ a s' => (∀ c, a ≠ .call c .ret) ∧ ¬ CanReturn s') ?_ ?_ h
    ⟨fun t ht => absurd ht List.not_mem_nil, fun t ht => absurd ht List.not_mem_nil⟩
  · rintro s a s' ⟨hn, hp⟩ hstep
    rw [not_canReturn_iff (hp.step hstep)]
    refine (and_iff_right fun c hc => ?_).symm
    subst hc
    exact hn.no_return hstep
  · rintro s a s' ⟨-, hp⟩ hstep hn
    exact ⟨hn, hp.step hstep⟩

/-- The devices that are never asked to stop: no shutdown, and no end of a pump. -/
def NotAsked (s : TaskSys) (a : TaskAct) : Prop :=
  a ≠ .requestShutdown ∧ (a = .mqttStop → ∀ t ∈ s.tasks, t.fn ≠ .mqttPump)

/-- What holds until somebody asks. -/
structure FlagsClear (s : TaskSys) : Prop where
  shutdown : s.shutdown = false
  run : ∀ t ∈ s.tasks, t.fn = .mqttPump → s.mqtt.run = true

theorem iotMqttStart_run {deviceId : CBuf 32} {a : MqttAnswers} {m : MqttSt} :
    (m.run = true → (iotMqttStart deviceId a m).2.run = true) ∧
      ((iotMqttStart deviceId a m).1 = .ok → (iotMqttStart deviceId a m).2.run = true) := by
  unfold iotMqttStart
  cases a.client with
  | false => exact ⟨fun h => h, fun h => by simp at h⟩
  | true =>
    by_cases hs : a.start = 0
    · simp [hs]
    · refine ⟨by simp [hs], fun h => ?_⟩
      simp only [Bool.not_true, Bool.false_eq_true, if_false, ne_eq, hs, not_false_eq_true,
        if_true, iotErrFromEsp_eq_ok] at h

theorem newTasks_not_pump {st st' : TasksSt} {t : TaskInst} (h : t ∈ newTasks st st') :
    t.fn ≠ .mqttPump := by
  obtain ⟨o, -, ho⟩ := List.mem_filterMap.mp h
  obtain ⟨fn, hfn, rfl⟩ := Option.map_eq_some_iff.mp ho
  rintro rfl
  revert hfn
  cases o.1 <;> decide

theorem FlagsClear.step {s s' : TaskSys} {a : TaskAct} (h : FlagsClear s) (hn : TaskNext s a s')
    (ha : NotAsked s a) : FlagsClear s' := by
  obtain ⟨hshut, hrun⟩ := h
  cases hn with
  | tasksStart mem hpc =>
    refine ⟨hshut, fun t ht hfn => ?_⟩
    rcases List.mem_append.mp ht with ht | ht
    · exact hrun t ht hfn
    · exact absurd hfn (newTasks_not_pump ht)
  | mqttStart deviceId answers hpc =>
    refine ⟨hshut, fun t ht hfn => ?_⟩
    simp only at ht
    split_ifs at ht with hok
    · exact iotMqttStart_run.2 hok
    · exact iotMqttStart_run.1 (hrun t ht hfn)
  | task i t what pc ht hstep =>
    refine ⟨hshut, fun t' ht' hfn => ?_⟩
    rcases List.mem_or_eq_of_mem_set ht' with ht' | rfl
    · exact hrun t' ht' hfn
    · exact hrun t (List.mem_of_getElem? ht) hfn
  | otaStart ht =>
    refine ⟨hshut, fun t ht hfn => ?_⟩
    rcases List.mem_append.mp ht with ht | ht
    · exact hrun t ht hfn
    · rw [List.mem_singleton.mp ht] at hfn
      cases hfn
  | requestShutdown => exact absurd rfl ha.1
  | mqttStop => exact ⟨hshut, fun t ht hfn => absurd hfn (ha.2 rfl t ht)⟩
  | restart ht => exact ⟨rfl, fun t ht => absurd ht List.not_mem_nil⟩
  | _ => exact ⟨hshut, hrun⟩

/-- Unless somebody asks, no loop is told to stop. -/
theorem nothingStopped_of_notAsked {tr : List (TaskSys × TaskAct × TaskSys)} {s : TaskSys}
    (h : Run TaskNext .boot tr s) (hasked : ∀ e ∈ tr, NotAsked e.1 e.2.1) :
    ∀ e ∈ tr, NothingStopped e.2.2 := by
  have hboot : FlagsClear .boot := ⟨rfl, fun t ht => absurd ht List.not_mem_nil⟩
  intro e he
  obtain ⟨hshut, hrun⟩ := ((h.invariant (I := FlagsClear) (C := fun s a _ => NotAsked s a)
    (fun s a s' hi hstep ha => hi.step hstep ha) hboot hasked).2 e he).2
  exact fun t ht _ => ⟨fun _ => hshut, hrun t ht⟩

/-- The five tasks that `iot_tasks_start` leaves. -/
theorem tasks_never_return_iff_started : ∃ s : TaskSys, s.tasks.length = 5 ∧ ¬ CanReturn s := by
  have hrun := Run.cons (.main .boot .nvsInit .drivers (.nvs true) (by decide))
    (.cons (.main _ .init .addFirst .drivers (by decide))
    (.cons (.wdtAdd _ .services .addFirst)
    (.cons (.main _ .init .start .services (by decide))
    (.cons (TaskNext.tasksStart _ (fun _ => true) rfl) (.nil _)))))
  have hclear := nothingStopped_of_notAsked hrun (by simp [NotAsked])
  exact ⟨_, rfl, ((tasks_never_return_iff hrun).mp hclear _ (List.mem_of_getLast? rfl)).2⟩

/-- A shutdown right after `iot_tasks_start` makes `sensor_task` return. -/
theorem shutdown_returns_sensor_task :
    ¬ ∀ tr s, Run TaskNext .boot tr s → ∀ e ∈ tr, ∀ c, e.2.1 ≠ .call c .ret := by
  intro h
  have hrun := Run.cons (.main .boot .nvsInit .drivers (.nvs true) (by decide))
    (.cons (.main _ .init .addFirst .drivers (by decide))
    (.cons (.wdtAdd _ .services .addFirst)
    (.cons (.main _ .init .start .services (by decide))
    (.cons (.tasksStart _ (fun _ => true) rfl)
    (.cons (.requestShutdown _)
    (.cons (TaskNext.task _ 0 ⟨.sensorTask, .top⟩ .ret .returned rfl (.stop (by decide) rfl))
    (.nil _)))))))
  exact h _ _ hrun _ (List.mem_of_getLast? rfl) (.task 0) rfl

end IotPlatform
