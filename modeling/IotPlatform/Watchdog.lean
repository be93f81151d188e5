import IotPlatform.TaskSystem

/-!
# Watchdog subscriptions

Only `app_main` subscribes, twice, and it never resets its entry. The watchdog task and the updates
reset entries they do not have.
-/
namespace IotPlatform
open Runs

/-- The programs reachable by any statements. -/
def Reaches {σ : Type} (exec : σ → Call → σ → Prop) : σ → σ → Prop :=
  Relation.ReflTransGen fun x y => ∃ what, exec x what y

/-- Wherever the program gets to, it can still get to a call of `iot_wdt_reset`. -/
def GoesOnResetting {σ : Type} (exec : σ → Call → σ → Prop) (x : σ) : Prop :=
  ∀ y, Reaches exec x y → ∃ z w, Reaches exec y z ∧ exec z .wdtReset w

/-- The loop of the caller goes on resetting, with the stop flags as they are. -/
def TaskSys.GoesOn (s : TaskSys) : Caller → Prop
  | .main => GoesOnResetting MainExec s.mainPc
  | .task i => ∃ t, s.tasks[i]? = some t ∧
      GoesOnResetting (Exec s.shutdown s.mqtt.run t.fn) t.pc

/-- Every subscribed task goes on resetting. -/
def SubscribersReset (s : TaskSys) : Prop := ∀ c ∈ s.subscribed, s.GoesOn c

/-- The step resets no entry that does not exist. -/
def ResetsOwnEntry (s : TaskSys) (a : TaskAct) : Prop :=
  ∀ c, a = .call c .wdtReset → iotWdtReset c s.subscribed = .ok

theorem mainExec_not_goesOn (pc : MainPc) : ¬ GoesOnResetting MainExec pc := by
  intro h
  obtain ⟨z, w, -, hreset⟩ := h pc .refl
  exact MainExec.not_wdtReset hreset

/-- The loop of `wdt_task` would make a well-formed subscriber, as long as nobody requests a
shutdown. -/
theorem wdtTask_goesOn (run : Bool) : GoesOnResetting (Exec false run .wdtTask) .top := by
  have hpc : ∀ y, Reaches (Exec false run .wdtTask) .top y → y = .top ∨ y = .body ∨ y = .work := by
    intro y h
    induction h with
    | refl => exact Or.inl rfl
    | tail _ hstep ih =>
      obtain ⟨what, hstep⟩ := hstep
      rcases ih with rfl | rfl | rfl
      · cases hstep with
        | stop hfn h => exact absurd h Bool.false_ne_true
        | goOn hfn h => exact Or.inr (Or.inl rfl)
      · cases hstep with
        | wdtReset => exact Or.inr (Or.inr rfl)
      · cases hstep with
        | wdtDelay => exact Or.inl rfl
  have htop : Reaches (Exec false run .wdtTask) .top .body :=
    .single ⟨_, .goOn (by decide) rfl⟩
  intro y h
  refine ⟨.body, .work, ?_, .wdtReset⟩
  rcases hpc y h with rfl | rfl | rfl
  · exact htop
  · exact .refl
  · exact .head ⟨_, .wdtDelay⟩ htop

/-- Nobody is subscribed, and there is no task yet that could reset. -/
structure Unsubscribed (s : TaskSys) : Prop where
  subscribed : s.subscribed = []
  tasks : s.tasks = []
  mainPc : s.mainPc ∈ [MainPc.nvs, .drivers, .addFirst, .returned]

section
variable {s s' : TaskSys} {a : TaskAct}

theorem Unsubscribed.ok (h : Unsubscribed s) : SubscribersReset s := by
  intro c hc
  simp [h.subscribed] at hc

/-- Subscribing `app_main` breaks the property for good. -/
theorem not_subscribersReset (h : Caller.main ∈ s.subscribed) : ¬ SubscribersReset s :=
  fun hs => mainExec_not_goesOn s.mainPc (hs .main h)

theorem TaskNext.main_subscribed (h : TaskNext s (.call .main .wdtAdd) s') :
    Caller.main ∈ s'.subscribed := by
  cases h with
  | main _ pc hstep hwhat => exact absurd (List.mem_cons_self) hwhat
  | wdtAdd pc hstep => exact mem_iotWdtAddCurrent

/-- Without a subscription boot gets no further than the first call. -/
theorem Unsubscribed.step (hi : Unsubscribed s) (h : TaskNext s a s')
    (ha : a ≠ .call .main .wdtAdd) : Unsubscribed s' ∧ ResetsOwnEntry s a := by
  obtain ⟨hsub, htasks, hpc⟩ := hi
  simp only [List.mem_cons, List.not_mem_nil, or_false] at hpc
  cases h with
  | main what pc hstep hwhat =>
    have hpc' : pc ∈ [MainPc.nvs, .drivers, .addFirst, .returned] := by
      rcases hpc with hpc | hpc | hpc | hpc <;> rw [hpc] at hstep
      · cases hstep with
        | nvs ok => cases ok <;> decide
      · cases hstep with
        | drivers => decide
      · cases hstep with
        | addFirst => exact absurd rfl ha
      · cases hstep
    refine ⟨⟨hsub, htasks, hpc'⟩, ?_⟩
    rintro c ⟨⟩
    exact absurd hstep MainExec.not_wdtReset
  | wdtAdd pc hstep => exact absurd rfl ha
  | tasksStart mem hstart => simp [hstart] at hpc
  | mqttStart deviceId answers hmqtt => simp [hmqtt] at hpc
  | task i t what pc ht hstep => simp [htasks] at ht
  | otaStart ht => simp [htasks] at ht
  | requestShutdown => exact ⟨⟨hsub, htasks, by simpa using hpc⟩, nofun⟩
  | mqttStop => exact ⟨⟨hsub, htasks, by simpa using hpc⟩, nofun⟩
  | restart ht => simp [htasks] at ht

end

/-- Along a run of the system every subscribed task goes on resetting and every reset finds its
entry, exactly when `app_main` does not get to its first subscription. -/
theorem watchdog_iff {tr : List (TaskSys × TaskAct × TaskSys)} {s : TaskSys}
    (h : Run TaskNext .boot tr s) :
    (∀ e ∈ tr, e.2.1 ≠ .call .main .wdtAdd) ↔
      ∀ e ∈ tr, SubscribersReset e.2.2 ∧ ResetsOwnEntry e.1 e.2.1 := by
  refine Run.forall_iff (I := Unsubscribed) (C := fun _ a _ => a ≠ .call .main .wdtAdd)
    (G := fun s a s' => SubscribersReset s' ∧ ResetsOwnEntry s a) ?_ ?_ h ⟨rfl, rfl, by decide⟩
  · intro s a s' hi hstep
    refine ⟨fun ha => ?_, fun hg ha => ?_⟩
    · obtain ⟨hi', hreset⟩ := hi.step hstep ha
      exact ⟨hi'.ok, hreset⟩
    · subst ha
      exact not_subscribersReset hstep.main_subscribed hg.1
  · exact fun s a s' hi hstep ha => (hi.step hstep ha).1

/-- `app_main` whose NVS does not come up. -/
theorem watchdog_iff_nvs_fail :
    SubscribersReset { TaskSys.boot with mainPc := .returned } ∧
      ResetsOwnEntry .boot (.call .main .nvsInit) := by
  have hrun : Run TaskNext .boot
      [(.boot, .call .main .nvsInit, { TaskSys.boot with mainPc := .returned })]
      { TaskSys.boot with mainPc := .returned } :=
    .cons (.main .boot .nvsInit .returned (.nvs false) (by decide)) (.nil _)
  exact (watchdog_iff hrun).mp (by simp) _ List.mem_cons_self

/-- Three statements of `app_main` subscribe its task. -/
theorem app_main_subscribed :
    ¬ ∀ tr s, Run TaskNext .boot tr s → SubscribersReset s := by
  intro h
  have hs := h _ _ (.cons (.main .boot .nvsInit .drivers (.nvs true) (by decide))
    (.cons (.main _ .init .addFirst .drivers (by decide))
      (.cons (.wdtAdd _ .services .addFirst) (.nil _))))
  have hmain : Caller.main ∈ iotWdtAddCurrent .main [] := by decide
  exact not_subscribersReset hmain hs

/-- Nobody but `app_main` is ever subscribed, so that no reset of a run finds an entry. -/
theorem resets_find_no_entry {tr : List (TaskSys × TaskAct × TaskSys)} {s : TaskSys}
    (h : Run TaskNext .boot tr s) :
    ∀ e ∈ tr, ∀ c, e.2.1 = .call c .wdtReset → iotWdtReset c e.1.subscribed ≠ .ok := by
  have honly : ∀ s a s', (∀ c ∈ s.subscribed, c = Caller.main) → TaskNext s a s' →
      ∀ c ∈ s'.subscribed, c = Caller.main := by
    intro s a s' hi hstep
    cases hstep with
    | wdtAdd pc hstep =>
      intro c hc
      simp only [iotWdtAddCurrent] at hc
      split_ifs at hc
      · exact hi c hc
      · rcases List.mem_append.mp hc with hc | hc
        · exact hi c hc
        · exact List.mem_singleton.mp hc
    | restart ht => exact fun c hc => absurd hc List.not_mem_nil
    | _ => exact hi
  have hstray : ∀ s a s', (∀ c ∈ s.subscribed, c = Caller.main) → TaskNext s a s' →
      ∀ c, a = .call c .wdtReset → iotWdtReset c s.subscribed ≠ .ok := by
    rintro s a s' hi hstep c rfl
    rw [Ne, iotWdtReset_ok_iff]
    intro hc
    obtain rfl := hi c hc
    cases hstep with
    | main what pc hstep hwhat => exact MainExec.not_wdtReset hstep
  exact (Run.forall_iff (I := fun s => ∀ c ∈ s.subscribed, c = Caller.main)
    (C := fun _ _ _ => True)
    (G := fun s a _ => ∀ c, a = .call c .wdtReset → iotWdtReset c s.subscribed ≠ .ok)
    (fun s a s' hi hstep => iff_of_true trivial (hstray s a s' hi hstep))
    (fun s a s' hi hstep _ => honly s a s' hi hstep) h (by simp [TaskSys.boot])).mp
    fun _ _ => trivial

/-- The first reset of `wdt_task`, with `app_main` subscribed. -/
theorem wdt_task_resets_nothing : ∃ s : TaskSys, s.subscribed = [.main] ∧
    s.tasks[4]? = some ⟨.wdtTask, .body⟩ ∧ iotWdtReset (.task 4) s.subscribed ≠ .ok := by
  have hrun := Run.cons (.main .boot .nvsInit .drivers (.nvs true) (by decide))
    (.cons (.main _ .init .addFirst .drivers (by decide))
    (.cons (.wdtAdd _ .services .addFirst)
    (.cons (.main _ .init .start .services (by decide))
    (.cons (.tasksStart _ (fun _ => true) rfl)
    (.cons (.task _ 4 ⟨.wdtTask, .top⟩ .test .body rfl (.goOn (by decide) rfl))
    (.cons (TaskNext.task _ 4 ⟨.wdtTask, .body⟩ .wdtReset .work rfl .wdtReset) (.nil _)))))))
  exact ⟨_, rfl, rfl, resets_find_no_entry hrun _ (List.mem_of_getLast? rfl) (.task 4) rfl⟩

end IotPlatform
