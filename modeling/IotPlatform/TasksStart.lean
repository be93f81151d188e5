import IotPlatform.Types
import IotPlatform.Runs

/-!
# `iot_tasks_start`

Eleven creation calls fill in the shared context, and the first one that fails returns at once: what
was created before it stays, and the next attempt overwrites its handles.
-/
namespace IotPlatform
open Runs

/-- The members of `iot_task_ctx_t`. -/
inductive CtxField
  | sampleQ | telemetryQ | commandQ | sensorIsrSem | sampleLock | systemEvt
  | sensorTask | procTask | cmdTask | diagTask | wdtTask
  deriving DecidableEq, Repr

/-- The creation calls of `iot_rtos.h`, the items of a queue left out. -/
inductive Creation
  | queue (length : ℕ)
  | semBinary
  | mutex
  | event
  | task (name : String) (stackBytes prio : ℕ)

/-- `s_ctx` and `s_started`, and what has been created and not been deleted: objects and running
tasks with their handles, oldest first. -/
structure TasksSt where
  ctx : CtxField → Option ℕ
  started : Bool
  live : List (CtxField × ℕ)
  nextHandle : ℕ

def TasksSt.static : TasksSt where
  ctx := fun _ => none
  started := false
  live := []
  nextHandle := 1

/-- A creation call with the handle stored in `field`; `mem` is whether the kernel has the memory
for it. -/
def iotCreate (c : Creation) (field : CtxField) (mem : Bool) (st : TasksSt) : IotErr × TasksSt :=
  let invalid := match c with
    | .task _ stackBytes _ => decide (stackBytes < 1024)
    | _ => false
  if invalid then (.invalidArg, st)
  else if !mem then (.noMem, st)
  else (.ok, { st with
    ctx := Function.update st.ctx field (some st.nextHandle)
    live := st.live ++ [(field, st.nextHandle)]
    nextHandle := st.nextHandle + 1 })

/-- The calls of `iot_tasks_start` in order; the tasks carry their `iot_task_prio_t`. -/
def startCalls : List (CtxField × Creation) :=
  [(.sampleQ, .queue 16), (.telemetryQ, .queue 16), (.commandQ, .queue 8),
    (.sensorIsrSem, .semBinary), (.sampleLock, .mutex), (.systemEvt, .event),
    (.sensorTask, .task "sensor" 4096 12), (.procTask, .task "proc" 4096 7),
    (.cmdTask, .task "cmd" 4096 11), (.diagTask, .task "diag" 3072 3),
    (.wdtTask, .task "wdt" 2048 14)]

/-- The calls one after the other, up to the first that fails. -/
def createAll (mem : CtxField → Bool) : List (CtxField × Creation) → TasksSt → IotErr × TasksSt
  | [], st => (.ok, st)
  | (field, c) :: cs, st =>
    match iotCreate c field (mem field) st with
    | (.ok, st) => createAll mem cs st
    | (e, st) => (e, st)

def iotTasksStart (mem : CtxField → Bool) (st : TasksSt) : IotErr × TasksSt :=
  if st.started then (.alreadyInit, st)
  else
    match createAll mem startCalls st with
    | (.ok, st) => (.ok, { st with started := true })
    | (e, st) => (e, st)

def taskFields : List CtxField := [.sensorTask, .procTask, .cmdTask, .diagTask, .wdtTask]

/-- One task of each kind runs, and `s_ctx` holds its handle. -/
def OneEach (st : TasksSt) : Prop :=
  ∀ k ∈ taskFields, ∃ h, st.live.filter (fun o => o.1 = k) = [(k, h)] ∧ st.ctx k = some h

/-- A call that returns an error leaves nothing that it created, and one that succeeds leaves one
task of each kind. -/
structure AllOrNothing (mem : CtxField → Bool) (st st' : TasksSt) : Prop where
  nothing : (iotTasksStart mem st).1 ≠ .ok → st'.live = st.live
  all : (iotTasksStart mem st).1 = .ok → OneEach st'

/-- Only the first creation fails, if any does. -/
def FailsFirst (mem : CtxField → Bool) (st : TasksSt) : Prop :=
  st.started = true ∨ (∀ field, mem field = true) ∨ mem .sampleQ = false

/-- No stack of the table is too small. -/
def Creation.Valid : Creation → Prop
  | .task _ stackBytes _ => 1024 ≤ stackBytes
  | _ => True

instance : (c : Creation) → Decidable c.Valid
  | .task .. => inferInstanceAs (Decidable (_ ≤ _))
  | .queue _ | .semBinary | .mutex | .event => .isTrue trivial

theorem startCalls_valid : ∀ c ∈ startCalls, c.2.Valid := by decide

/-- The fields whose calls succeed before the first that fails. -/
def created (mem : CtxField → Bool) (cs : List (CtxField × Creation)) : List CtxField :=
  (cs.map Prod.fst).takeWhile mem

/-- `s_ctx` holds the handle of what was created last for each field. -/
def Latest (st : TasksSt) : Prop :=
  ∀ k, st.ctx k = ((st.live.filter fun o => o.1 = k).getLast?).map Prod.snd

theorem iotCreate_ok {c : Creation} (hc : c.Valid) (field : CtxField) (st : TasksSt) :
    iotCreate c field true st = (.ok, { st with
      ctx := Function.update st.ctx field (some st.nextHandle)
      live := st.live ++ [(field, st.nextHandle)]
      nextHandle := st.nextHandle + 1 }) := by
  cases c with
  | task name stackBytes prio => simp [iotCreate, Nat.not_lt.mpr hc]
  | _ => rfl

theorem iotCreate_noMem {c : Creation} (hc : c.Valid) (field : CtxField) (st : TasksSt) :
    iotCreate c field false st = (.noMem, st) := by
  cases c with
  | task name stackBytes prio => simp [iotCreate, Nat.not_lt.mpr hc]
  | _ => rfl

theorem Latest.create {st : TasksSt} (h : Latest st) (field : CtxField) (n : ℕ) :
    Latest { st with
      ctx := Function.update st.ctx field (some st.nextHandle)
      live := st.live ++ [(field, st.nextHandle)]
      nextHandle := n } := by
  intro k
  by_cases hk : k = field
  · subst hk
    simp
  · have hk' : ¬ field = k := fun h => hk h.symm
    simpa [hk, hk'] using h k

/-- The calls create what comes before the first failure, in this order, and succeed when that is
everything. -/
theorem createAll_spec (mem : CtxField → Bool) {cs : List (CtxField × Creation)}
    (hcs : ∀ c ∈ cs, c.2.Valid) {st : TasksSt} (h : Latest st) :
    let r := createAll mem cs st
    (∃ new, r.2.live = st.live ++ new ∧ new.map Prod.fst = created mem cs) ∧ Latest r.2 ∧
      r.2.started = st.started ∧ (r.1 = .ok ↔ created mem cs = cs.map Prod.fst) := by
  induction cs generalizing st with
  | nil => exact ⟨⟨[], by simp [createAll], rfl⟩, h, rfl, iff_of_true rfl rfl⟩
  | cons c cs ih =>
    obtain ⟨field, c⟩ := c
    have hc : c.Valid := hcs _ List.mem_cons_self
    have hcs' : ∀ c ∈ cs, c.2.Valid := fun c hc => hcs c (List.mem_cons_of_mem _ hc)
    cases hm : mem field with
    | false =>
      simp only [createAll, hm, iotCreate_noMem hc, created, List.map_cons, List.takeWhile_cons,
        Bool.false_eq_true, if_false]
      exact ⟨⟨[], by simp⟩, h, trivial, by simp⟩
    | true =>
      simp only [createAll, hm, iotCreate_ok hc, created, List.map_cons, List.takeWhile_cons,
        if_true]
      obtain ⟨⟨new, hlive, hnew⟩, hlatest, hstarted, hok⟩ := ih hcs' (h.create field _)
      refine ⟨⟨(field, st.nextHandle) :: new, ?_, ?_⟩, hlatest, hstarted, ?_⟩
      · rw [hlive, List.append_assoc]
        rfl
      · rw [List.map_cons, hnew, created]
      · rw [hok, created]
        simp

/-- A context that holds the latest handles has one task of each kind when one of each has been
created. -/
theorem Latest.oneEach_iff {st : TasksSt} (h : Latest st) :
    OneEach st ↔ ∀ k ∈ taskFields, (st.live.map Prod.fst).count k = 1 := by
  refine forall₂_congr fun k _ => ?_
  have hcount : (st.live.map Prod.fst).count k = (st.live.filter fun o => o.1 = k).length := by
    rw [List.count_eq_countP, List.countP_map, List.countP_eq_length_filter]
    congr 1
  rw [hcount]
  constructor
  · rintro ⟨hd, hf, -⟩
    rw [hf]
    rfl
  · intro hlen
    obtain ⟨⟨k', hd⟩, hf⟩ := List.length_eq_one_iff.mp hlen
    obtain rfl : k' = k := by
      have hmem : (k', hd) ∈ st.live.filter fun o => o.1 = k := by simp [hf]
      simpa using (List.mem_filter.mp hmem).2
    exact ⟨hd, hf, by rw [h k', hf]; rfl⟩

/-- The invariant of the module: handles are the latest ones, and as long as every failed call has
failed at once nothing is left over from it. -/
structure StartInv (st : TasksSt) : Prop where
  latest : Latest st
  clean : st.started = false → st.live = []

section
variable {mem : CtxField → Bool} {st : TasksSt}

theorem created_all_iff :
    created mem startCalls = startCalls.map Prod.fst ↔ ∀ field, mem field = true := by
  rw [created, List.takeWhile_eq_self_iff]
  refine ⟨fun h field => h field ?_, fun h field _ => h field⟩
  cases field <;> decide

theorem created_nil_iff : created mem startCalls = [] ↔ mem .sampleQ = false := by
  simp [created, startCalls, List.takeWhile_cons]

theorem iotTasksStart_started (h : st.started = true) :
    iotTasksStart mem st = (.alreadyInit, st) := if_pos h

/-- The outcome of a call that is not refused. -/
theorem iotTasksStart_spec (hl : Latest st) (h : st.started = false) :
    let r := iotTasksStart mem st
    (∃ new, r.2.live = st.live ++ new ∧ new.map Prod.fst = created mem startCalls) ∧ Latest r.2 ∧
      (r.1 = .ok ↔ ∀ field, mem field = true) ∧ (r.1 = .ok ↔ r.2.started = true) := by
  obtain ⟨hnew, hlatest, hstarted, hok⟩ := createAll_spec mem startCalls_valid hl
  rw [created_all_iff] at hok
  rw [h] at hstarted
  simp only [iotTasksStart, h, Bool.false_eq_true, if_false]
  cases hr : createAll mem startCalls st with
  | mk e st' =>
    rw [hr] at hnew hlatest hstarted hok
    have hstarted' : st'.started = false := hstarted
    cases e
    case ok => exact ⟨hnew, hlatest, hok, iff_of_true rfl rfl⟩
    all_goals exact ⟨hnew, hlatest, hok, by simp [hstarted']⟩

theorem iotTasksStart_iff (hi : StartInv st) :
    (FailsFirst mem st ↔ AllOrNothing mem st (iotTasksStart mem st).2) ∧
      (FailsFirst mem st → StartInv (iotTasksStart mem st).2) := by
  cases hs : st.started with
  | true =>
    have hr : iotTasksStart mem st = (.alreadyInit, st) := iotTasksStart_started hs
    have hall : AllOrNothing mem st (iotTasksStart mem st).2 := by
      rw [hr]
      exact ⟨fun _ => rfl, fun h => by simp [hr] at h⟩
    refine ⟨iff_of_true (Or.inl hs) hall, fun _ => ?_⟩
    rw [hr]
    exact hi
  | false =>
    obtain ⟨⟨new, hlive, hnew⟩, hlatest, hok, hstarted⟩ := iotTasksStart_spec hi.latest hs
    rw [hi.clean hs, List.nil_append] at hlive
    rw [← hlive] at hnew
    have hfirst : FailsFirst mem st ↔ (∀ field, mem field = true) ∨ mem .sampleQ = false := by
      simp [FailsFirst, hs]
    have hnil : (iotTasksStart mem st).2.live = [] ↔ mem .sampleQ = false := by
      rw [← created_nil_iff, ← hnew, List.map_eq_nil_iff]
    rw [hfirst]
    refine ⟨⟨fun h => ⟨fun he => ?_, fun he => ?_⟩, fun h => ?_⟩, fun h => ⟨hlatest, fun he => ?_⟩⟩
    · rw [hi.clean hs, hnil]
      exact h.resolve_left (mt hok.mpr he)
    · rw [hlatest.oneEach_iff, hnew, created_all_iff.mpr (hok.mp he)]
      decide
    · by_cases he : (iotTasksStart mem st).1 = .ok
      · exact Or.inl (hok.mp he)
      · exact Or.inr (hnil.mp ((h.nothing he).trans (hi.clean hs)))
    · refine hnil.mpr (h.resolve_left fun hall => ?_)
      simp [hstarted.mp (hok.mpr hall)] at he

end

/-- Along a run of calls from boot each one is all or nothing, exactly when no call gets past its
first creation and fails at a later one. -/
theorem tasks_start_iff (calls : List (CtxField → Bool)) :
    let tr := trace (fun st mem => (iotTasksStart mem st).2) TasksSt.static calls
    (∀ e ∈ tr, FailsFirst e.2.1 e.1) ↔ ∀ e ∈ tr, AllOrNothing e.2.1 e.1 e.2.2 := by
  refine (run_trace _ _ calls).forall_iff (I := StartInv) (C := fun st mem _ => FailsFirst mem st)
    (G := fun st mem st' => AllOrNothing mem st st') ?_ ?_ ⟨fun _ => rfl, fun _ => rfl⟩
  · rintro st mem st' hi rfl
    exact (iotTasksStart_iff hi).1
  · rintro st mem st' hi rfl hc
    exact (iotTasksStart_iff hi).2 hc

/-- Failed calls leave what they have created. -/
theorem failed_calls_live {failed : List (CtxField → Bool)}
    (hfail : ∀ mem ∈ failed, ∃ field, mem field = false) {st : TasksSt} (hl : Latest st)
    (h : st.started = false) :
    let st' := failed.foldl (fun st mem => (iotTasksStart mem st).2) st
    st'.live.map Prod.fst = st.live.map Prod.fst ++ failed.flatMap (created · startCalls) ∧
      Latest st' ∧ st'.started = false := by
  induction failed generalizing st with
  | nil => exact ⟨by simp, hl, h⟩
  | cons mem failed ih =>
    obtain ⟨⟨new, hlive, hnew⟩, hlatest, hok, hstarted⟩ := @iotTasksStart_spec mem st hl h
    obtain ⟨field, hm⟩ := hfail mem List.mem_cons_self
    have hstarted' : (iotTasksStart mem st).2.started = false := by
      rw [← Bool.not_eq_true, ← hstarted, hok]
      exact fun hall => by simp [hall field] at hm
    obtain ⟨hrest, hlatest', hstarted''⟩ :=
      ih (fun m hmem => hfail m (List.mem_cons_of_mem _ hmem)) hlatest hstarted'
    refine ⟨?_, hlatest', hstarted''⟩
    rw [List.foldl_cons, hrest, hlive, List.map_append, hnew, List.append_assoc,
      List.flatMap_cons]

/-- After failed calls the next one that succeeds leaves one task of each kind, exactly when none of
them has got as far as a task. -/
theorem retried_start_iff {failed : List (CtxField → Bool)}
    (hfail : ∀ mem ∈ failed, ∃ field, mem field = false) {mem : CtxField → Bool}
    (hmem : ∀ field, mem field = true) :
    OneEach (iotTasksStart mem (failed.foldl (fun st mem => (iotTasksStart mem st).2) .static)).2 ↔
      ∀ k ∈ taskFields, ∀ m ∈ failed, k ∉ created m startCalls := by
  obtain ⟨hlive, hl, h⟩ := @failed_calls_live failed hfail .static (fun _ => rfl) rfl
  obtain ⟨⟨new, hlive', hnew⟩, hlatest, -, -⟩ := @iotTasksStart_spec mem _ hl h
  rw [hlatest.oneEach_iff]
  refine forall₂_congr fun k hk => ?_
  have hone : (created mem startCalls).count k = 1 := by
    rw [created_all_iff.mpr hmem]
    revert k
    decide
  rw [hlive', List.map_append, hnew, hlive, List.count_append, hone, Nat.add_eq_right,
    List.count_eq_zero]
  simp [TasksSt.static]

/-- Calls that fail before the first task may be repeated. -/
theorem retried_start_after_queues :
    OneEach (iotTasksStart (fun _ => true)
      ([fun field => decide (field ≠ CtxField.sampleLock),
        fun field => decide (field ≠ CtxField.sensorTask)].foldl
          (fun st mem => (iotTasksStart mem st).2) .static)).2 := by
  refine (retried_start_iff ?_ fun _ => rfl).mpr (by decide)
  simp

/-- A call that fails to create the watchdog task leaves four tasks running, and the next call
creates them again. -/
theorem failed_start_leaves_tasks : ¬ ∀ calls : List (CtxField → Bool),
    ∀ e ∈ trace (fun st mem => (iotTasksStart mem st).2) TasksSt.static calls,
      AllOrNothing e.2.1 e.1 e.2.2 := by
  intro h
  have hall := h [fun field => field ≠ .wdtTask, fun _ => true]
  have hfirst := (hall _ List.mem_cons_self).nothing
  revert hfirst
  decide

end IotPlatform
