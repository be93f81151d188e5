import IotPlatform.Links
import IotPlatform.TasksStart

/-!
# The tasks of the target build

`app_main` and the seven functions passed to `iot_task_create`, each as a program whose statements
are the steps of one task. The scheduler may take the next statement of any task.
-/
namespace IotPlatform
open CText Runs

/-- What a statement calls, as far as the rest of the system sees it. -/
inductive Call
  /-- The test of a loop's stop flag, when it goes on. -/
  | test
  | semTake | queueRecv | queueSend | hook | delay | publish | eventSet | eventClear | eventWait
  | nvsInit | init | tasksStart | mqttStart
  | otaBegin | otaPerform | otaFinish | otaAbort
  | wdtAdd | wdtReset
  /-- `vTaskDelete(NULL)`. -/
  | taskDelete
  /-- The task function returns to its caller. -/
  | ret
  deriving DecidableEq, Repr

inductive TaskFn
  | sensorTask | procTask | cmdTask | diagTask | wdtTask | mqttPump | otaTask
  deriving DecidableEq, Repr

/-- The functions that loop until `s_shutdown`. -/
def platformFns : List TaskFn := [.sensorTask, .procTask, .cmdTask, .diagTask, .wdtTask]

/-- The place of a task between two statements; `top` is the beginning of the function and of its
loop. -/
inductive TaskPc
  | top | body | work | send
  | finishing | done | leaving
  /-- `esp_restart` comes next. -/
  | restarting
  | deleted | returned
  deriving DecidableEq, Repr

/-- The statements of the task functions; `run` is `s_run` of `iot_mqtt.c`. -/
inductive Exec (shutdown run : Bool) : TaskFn → TaskPc → Call → TaskPc → Prop
  /-- `if (s_shutdown) break;`, after which all five functions end. -/
  | stop {fn : TaskFn} (hfn : fn ∈ platformFns) (h : shutdown = true) :
      Exec shutdown run fn .top .ret .returned
  | goOn {fn : TaskFn} (hfn : fn ∈ platformFns) (h : shutdown = false) :
      Exec shutdown run fn .top .test .body
  | sensorTake : Exec shutdown run .sensorTask .body .semTake .work
  | sensorHook (sends : Bool) :
      Exec shutdown run .sensorTask .work .hook (if sends then .send else .top)
  | sensorSend : Exec shutdown run .sensorTask .send .queueSend .top
  | procRecv (got : Bool) :
      Exec shutdown run .procTask .body .queueRecv (if got then .work else .top)
  | procHook : Exec shutdown run .procTask .work .hook .send
  | procSend : Exec shutdown run .procTask .send .queueSend .top
  | cmdRecv (got : Bool) :
      Exec shutdown run .cmdTask .body .queueRecv (if got then .work else .top)
  | cmdHook : Exec shutdown run .cmdTask .work .hook .top
  | diagDelay : Exec shutdown run .diagTask .body .delay .top
  | wdtReset : Exec shutdown run .wdtTask .body .wdtReset .work
  | wdtDelay : Exec shutdown run .wdtTask .work .delay .top
  /-- `while (s_run)`. -/
  | pumpStop (h : run = false) : Exec shutdown run .mqttPump .top .ret .returned
  | pumpGoOn (h : run = true) : Exec shutdown run .mqttPump .top .test .body
  | pumpNoQueue : Exec shutdown run .mqttPump .body .delay .top
  | pumpRecv (got : Bool) :
      Exec shutdown run .mqttPump .body .queueRecv (if got then .work else .top)
  | pumpPublish : Exec shutdown run .mqttPump .work .publish .top
  | otaBusy : Exec shutdown run .otaTask .top .eventSet .body
  | otaBegin (ok : Bool) : Exec shutdown run .otaTask .body .otaBegin (if ok then .work else .done)
  | otaReset : Exec shutdown run .otaTask .work .wdtReset .send
  | otaPerform (more : Bool) :
      Exec shutdown run .otaTask .send .otaPerform (if more then .work else .finishing)
  | otaFinish (ok : Bool) :
      Exec shutdown run .otaTask .finishing .otaFinish (if ok then .restarting else .done)
  | otaAbort : Exec shutdown run .otaTask .finishing .otaAbort .done
  | otaIdle : Exec shutdown run .otaTask .done .eventClear .leaving
  | otaDelete : Exec shutdown run .otaTask .leaving .taskDelete .deleted

inductive MainPc
  | nvs | drivers | addFirst | services | start | addSecond | profile | wifiWait | mqtt | markValid
  | returned
  deriving DecidableEq, Repr

/-- The statements of `app_main`, those between two calls of interest taken together. -/
inductive MainExec : MainPc → Call → MainPc → Prop
  | nvs (ok : Bool) : MainExec .nvs .nvsInit (if ok then .drivers else .returned)
  | drivers : MainExec .drivers .init .addFirst
  | addFirst : MainExec .addFirst .wdtAdd .services
  | services : MainExec .services .init .start
  | start (ok : Bool) : MainExec .start .tasksStart (if ok then .addSecond else .returned)
  | addSecond : MainExec .addSecond .wdtAdd .profile
  | profile (provisioned : Bool) :
      MainExec .profile .init (if provisioned then .wifiWait else .markValid)
  | wifiWait (ip : Bool) : MainExec .wifiWait .eventWait (if ip then .mqtt else .markValid)
  | mqtt : MainExec .mqtt .mqttStart .markValid
  | markValid : MainExec .markValid .init .returned

/-- Who executes a call: the task of `app_main`, or the task created as number `i`. -/
inductive Caller
  | main
  | task (i : ℕ)
  deriving DecidableEq, Repr

structure TaskInst where
  fn : TaskFn
  pc : TaskPc
  deriving DecidableEq

/-- `tasks` are those created so far, and `subscribed` those that the watchdog watches on their own
request. -/
structure TaskSys where
  mainPc : MainPc
  ctx : TasksSt
  mqtt : MqttSt
  shutdown : Bool
  tasks : List TaskInst
  subscribed : List Caller

def TaskSys.boot : TaskSys where
  mainPc := .nvs
  ctx := .static
  mqtt := .init
  shutdown := false
  tasks := []
  subscribed := []

/-- The function behind a handle of `s_ctx`. -/
def CtxField.taskFn : CtxField → Option TaskFn
  | .sensorTask => some .sensorTask
  | .procTask => some .procTask
  | .cmdTask => some .cmdTask
  | .diagTask => some .diagTask
  | .wdtTask => some .wdtTask
  | _ => none

/-- The tasks that a call of `iot_tasks_start` has created, at the beginning of their functions. -/
def newTasks (st st' : TasksSt) : List TaskInst :=
  (st'.live.drop st.live.length).filterMap fun o => o.1.taskFn.map fun fn => ⟨fn, .top⟩

/-- `iot_wdt_add_current` of the caller; a caller that is subscribed already stays so. -/
def iotWdtAddCurrent (c : Caller) (subscribed : List Caller) : List Caller :=
  if c ∈ subscribed then subscribed else subscribed ++ [c]

/-- `iot_wdt_reset` of the caller, `ESP_ERR_NOT_FOUND` without a subscription. -/
def iotWdtReset (c : Caller) (subscribed : List Caller) : IotErr :=
  iotErrFromEsp .target (if c ∈ subscribed then 0 else 0x105)

inductive TaskAct
  | call (c : Caller) (what : Call)
  | otaStart
  | requestShutdown
  | mqttStop
  | restart
  deriving DecidableEq

/-- One step: the next statement of some task, an update started by the command hook, one of the two
requests to stop at any time, or the restart that a finished update asks for. -/
inductive TaskNext : TaskSys → TaskAct → TaskSys → Prop
  | main (s : TaskSys) (what : Call) (pc : MainPc) (hstep : MainExec s.mainPc what pc)
      (hwhat : what ∉ [Call.wdtAdd, .tasksStart, .mqttStart]) :
      TaskNext s (.call .main what) { s with mainPc := pc }
  | wdtAdd (s : TaskSys) (pc : MainPc) (hstep : MainExec s.mainPc .wdtAdd pc) :
      TaskNext s (.call .main .wdtAdd) { s with
        mainPc := pc
        subscribed := iotWdtAddCurrent .main s.subscribed }
  | tasksStart (s : TaskSys) (mem : CtxField → Bool) (hpc : s.mainPc = .start) :
      TaskNext s (.call .main .tasksStart) { s with
        mainPc := if (iotTasksStart mem s.ctx).1 = .ok then .addSecond else .returned
        ctx := (iotTasksStart mem s.ctx).2
        tasks := s.tasks ++ newTasks s.ctx (iotTasksStart mem s.ctx).2 }
  | mqttStart (s : TaskSys) (deviceId : CBuf 32) (a : MqttAnswers) (hpc : s.mainPc = .mqtt) :
      TaskNext s (.call .main .mqttStart) { s with
        mainPc := .markValid
        mqtt := (iotMqttStart deviceId a s.mqtt).2
        tasks := if (iotMqttStart deviceId a s.mqtt).1 = .ok then s.tasks ++ [⟨.mqttPump, .top⟩]
          else s.tasks }
  | task (s : TaskSys) (i : ℕ) (t : TaskInst) (what : Call) (pc : TaskPc)
      (ht : s.tasks[i]? = some t) (hstep : Exec s.shutdown s.mqtt.run t.fn t.pc what pc) :
      TaskNext s (.call (.task i) what) { s with tasks := s.tasks.set i ⟨t.fn, pc⟩ }
  | otaStart (s : TaskSys) (ht : ⟨.cmdTask, .work⟩ ∈ s.tasks) :
      TaskNext s .otaStart { s with tasks := s.tasks ++ [⟨.otaTask, .top⟩] }
  | requestShutdown (s : TaskSys) : TaskNext s .requestShutdown { s with shutdown := true }
  | mqttStop (s : TaskSys) : TaskNext s .mqttStop { s with mqtt := iotMqttStop s.mqtt }
  | restart (s : TaskSys) (ht : ⟨.otaTask, .restarting⟩ ∈ s.tasks) :
      TaskNext s .restart .boot

theorem MainExec.not_wdtReset {pc pc' : MainPc} : ¬ MainExec pc .wdtReset pc' := nofun

theorem MainExec.not_ret {pc pc' : MainPc} : ¬ MainExec pc .ret pc' := nofun

theorem iotWdtReset_ok_iff {c : Caller} {subscribed : List Caller} :
    iotWdtReset c subscribed = .ok ↔ c ∈ subscribed := by
  rw [iotWdtReset, iotErrFromEsp_eq_ok]
  split_ifs with h <;> simp [h]

theorem mem_iotWdtAddCurrent {c : Caller} {subscribed : List Caller} :
    c ∈ iotWdtAddCurrent c subscribed := by
  unfold iotWdtAddCurrent
  split_ifs with h
  · exact h
  · exact List.mem_append_right _ (List.mem_singleton_self c)

/-- A function returns at the test of its stop flag only, and an update never does. -/
theorem Exec.ret_iff {shutdown run : Bool} {fn : TaskFn} {pc pc' : TaskPc} :
    Exec shutdown run fn pc .ret pc' ↔ pc = .top ∧ pc' = .returned ∧
      ((fn ∈ platformFns ∧ shutdown = true) ∨ (fn = .mqttPump ∧ run = false)) := by
  constructor
  · intro h
    cases h with
    | stop hfn hs => exact ⟨rfl, rfl, Or.inl ⟨hfn, hs⟩⟩
    | pumpStop hr => exact ⟨rfl, rfl, Or.inr ⟨rfl, hr⟩⟩
  · rintro ⟨rfl, rfl, ⟨hfn, hs⟩ | ⟨rfl, hr⟩⟩
    · exact .stop hfn hs
    · exact .pumpStop hr

end IotPlatform
