import IotPlatform.Ota
import IotPlatform.Runs

/-!
# OTA tasks on the target build

`iot_ota_start` creates a task that FreeRTOS schedules later. Each statement of `ota_task` that
touches shared state is a step of its own, and the command task's next start may come between any
two of them.
-/
namespace IotPlatform
open CText Runs

/-- Where an `ota_task` stands. -/
inductive OtaPc
  /-- Created and not yet scheduled. -/
  | created
  /-- `IOT_EVT_OTA_BUSY` is set. -/
  | announced
  /-- `s_state` is DOWNLOADING and `esp_https_ota_begin` is called. -/
  | connecting
  | performing
  | verifying
  | done
  /-- `IOT_EVT_OTA_BUSY` is cleared and `vTaskDelete` comes next. -/
  | leaving
  | restarting
  deriving DecidableEq, Repr

/-- The task has begun and has not reached its exit. -/
def OtaPc.Begun : OtaPc → Prop
  | .created | .leaving => False
  | _ => True

/-- An `ota_task`, with the value of `s_url` when it was created. -/
structure OtaTask where
  pc : OtaPc
  url : CBuf 256
  deriving DecidableEq

/-- `s_state` and `s_url`, the busy bit of the event group, and the tasks that exist. -/
structure OtaSys where
  ota : OtaSt
  busy : Bool
  tasks : List OtaTask
  deriving DecidableEq

def otaBoot : OtaSys where
  ota := { state := .idle, url := CBuf.store 256 [] }
  busy := false
  tasks := []

/-- The target build, with the answer of `xTaskCreate`. -/
def targetPlatform (taskCreate : Bool) : Platform :=
  { hostPlatform with build := .target, taskCreate := taskCreate }

def OtaSys.start (s : OtaSys) (url : Text) (taskCreate : Bool) : OtaSys :=
  let r := otaStart (targetPlatform taskCreate) url s.ota
  { s with
    ota := r.2
    tasks := if r.1 = .ok then s.tasks ++ [⟨.created, r.2.url⟩] else s.tasks }

/-- A statement of `ota_task`, with `s_state` and the busy bit before and after it. -/
inductive TaskStep : OtaPc → OtaState → Bool → OtaPc → OtaState → Bool → Prop
  | announce (st : OtaState) (b : Bool) : TaskStep .created st b .announced st true
  | download (st : OtaState) (b : Bool) : TaskStep .announced st b .connecting .downloading b
  | connect (st : OtaState) (b : Bool) : TaskStep .connecting st b .performing st b
  | connectFail (st : OtaState) (b : Bool) : TaskStep .connecting st b .done .fail b
  | perform (st : OtaState) (b : Bool) : TaskStep .performing st b .performing st b
  | received (st : OtaState) (b : Bool) : TaskStep .performing st b .verifying .verify b
  | abort (st : OtaState) (b : Bool) : TaskStep .performing st b .done .fail b
  | finish (st : OtaState) (b : Bool) : TaskStep .verifying st b .restarting .reboot b
  | finishFail (st : OtaState) (b : Bool) : TaskStep .verifying st b .done .fail b
  | clear (st : OtaState) (b : Bool) : TaskStep .done st b .leaving st false

inductive OtaAct
  | start (url : Text) (taskCreate : Bool)
  | task
  | delete
  | restart
  deriving DecidableEq

/-- One step of the system: a start, a statement of some task, the deletion of a task that has
left, or the restart that a finished task asks for. -/
inductive OtaNext : OtaSys → OtaAct → OtaSys → Prop
  | start (s : OtaSys) (url : Text) (taskCreate : Bool) :
      OtaNext s (.start url taskCreate) (s.start url taskCreate)
  | task (s : OtaSys) (pre post : List OtaTask) (t : OtaTask) (pc : OtaPc) (st : OtaState)
      (b : Bool) (ht : s.tasks = pre ++ t :: post)
      (hstep : TaskStep t.pc s.ota.state s.busy pc st b) :
      OtaNext s .task
        { ota := { s.ota with state := st }
          busy := b
          tasks := pre ++ { t with pc := pc } :: post }
  | delete (s : OtaSys) (pre post : List OtaTask) (t : OtaTask) (ht : s.tasks = pre ++ t :: post)
      (hpc : t.pc = .leaving) : OtaNext s .delete { s with tasks := pre ++ post }
  | restart (s : OtaSys) (t : OtaTask) (ht : t ∈ s.tasks) (hpc : t.pc = .restarting) :
      OtaNext s .restart otaBoot

structure SingleOta (s : OtaSys) : Prop where
  atMostOne : s.tasks.length ≤ 1
  urlKept : ∀ t ∈ s.tasks, s.ota.url = t.url
  busySet : ∀ t ∈ s.tasks, t.pc.Begun → s.busy = true

/-- A start that is refused, finds no task, or fails to create one for the stored URL. -/
def StartsAlone (s : OtaSys) : OtaAct → Prop
  | .start url taskCreate =>
    ¬ IsHttps url ∨ s.ota.state = .downloading ∨ s.tasks = [] ∨
      (taskCreate = false ∧ CBuf.store 256 url = s.ota.url)
  | _ => True

theorem OtaSys.start_cases (s : OtaSys) (url : Text) (taskCreate : Bool) :
    ((¬ IsHttps url ∨ s.ota.state = .downloading) ∧ s.start url taskCreate = s) ∨
    (IsHttps url ∧ s.ota.state ≠ .downloading ∧ s.start url taskCreate =
      { s with
        ota := { s.ota with url := CBuf.store 256 url }
        tasks := if taskCreate then
            s.tasks ++ [⟨.created, CBuf.store 256 url⟩] else s.tasks }) := by
  by_cases hu : IsHttps url
  · by_cases hd : s.ota.state = .downloading
    · exact Or.inl ⟨Or.inr hd, by simp [OtaSys.start, otaStart, hu, hd]⟩
    · refine Or.inr ⟨hu, hd, ?_⟩
      cases taskCreate <;> simp [OtaSys.start, otaStart, hu, hd, targetPlatform]
  · exact Or.inl ⟨Or.inl hu, by simp [OtaSys.start, otaStart, hu]⟩

theorem SingleOta.start_iff {s : OtaSys} (h : SingleOta s) (url : Text) (taskCreate : Bool) :
    StartsAlone s (.start url taskCreate) ↔ SingleOta (s.start url taskCreate) := by
  rcases s.start_cases url taskCreate with ⟨hrefused, hsame⟩ | ⟨hu, hd, hs⟩
  · rw [hsame]
    refine iff_of_true ?_ h
    rcases hrefused with hu | hd
    · exact Or.inl hu
    · exact Or.inr (Or.inl hd)
  · have hcond : StartsAlone s (.start url taskCreate) ↔ s.tasks = [] ∨
        (taskCreate = false ∧ CBuf.store 256 url = s.ota.url) := by
      simp [StartsAlone, hu, hd]
    rw [hcond, hs]
    rcases ht : s.tasks with _ | ⟨t, _ | ⟨t', ts⟩⟩
    · refine iff_of_true (Or.inl rfl) ⟨?_, ?_, ?_⟩ <;> cases taskCreate <;>
        simp [OtaPc.Begun]
    · have hurl := h.urlKept t (by simp [ht])
      have hbusy := h.busySet t (by simp [ht])
      constructor
      · rintro (hnil | ⟨rfl, hsame⟩)
        · simp at hnil
        · exact ⟨by simp, by simp [hsame, hurl], by simpa using hbusy⟩
      · intro hs'
        right
        cases taskCreate with
        | true => exact absurd hs'.atMostOne (by simp)
        | false => exact ⟨rfl, (hs'.urlKept t (by simp)).trans hurl.symm⟩
    · exact absurd h.atMostOne (by simp [ht])

theorem SingleOta.task {s : OtaSys} (h : SingleOta s) {pre post : List OtaTask} {t : OtaTask}
    {pc : OtaPc} {st : OtaState} {b : Bool} (ht : s.tasks = pre ++ t :: post)
    (hstep : TaskStep t.pc s.ota.state s.busy pc st b) :
    SingleOta
      { ota := { s.ota with state := st }
        busy := b
        tasks := pre ++ { t with pc := pc } :: post } := by
  have hlen := h.atMostOne
  rw [ht, List.length_append, List.length_cons] at hlen
  obtain ⟨hpre, hpost⟩ : pre.length = 0 ∧ post.length = 0 := by omega
  obtain rfl := List.eq_nil_of_length_eq_zero hpre
  obtain rfl := List.eq_nil_of_length_eq_zero hpost
  have hurl := h.urlKept t (by simp [ht])
  have hbusy := h.busySet t (by simp [ht])
  refine ⟨by simp, by simpa using hurl, ?_⟩
  generalize hpc : t.pc = pc₀ at hstep hbusy
  cases hstep <;> simp_all [OtaPc.Begun]

theorem SingleOta.delete {s : OtaSys} (h : SingleOta s) {pre post : List OtaTask} {t : OtaTask}
    (ht : s.tasks = pre ++ t :: post) : SingleOta { s with tasks := pre ++ post } := by
  have hmem : ∀ t' ∈ pre ++ post, t' ∈ s.tasks := by
    intro t' h'
    rw [ht]
    simp only [List.mem_append, List.mem_cons] at h' ⊢
    tauto
  refine ⟨?_, fun t' h' => h.urlKept t' (hmem t' h'), fun t' h' => h.busySet t' (hmem t' h')⟩
  have hlen := h.atMostOne
  simp only [ht, List.length_append, List.length_cons] at hlen ⊢
  omega

theorem otaBoot_single : SingleOta otaBoot := ⟨by decide, by simp [otaBoot], by simp [otaBoot]⟩

theorem OtaNext.single_iff {s s' : OtaSys} {a : OtaAct} (h : SingleOta s) (hn : OtaNext s a s') :
    StartsAlone s a ↔ SingleOta s' := by
  cases hn with
  | start url taskCreate => exact h.start_iff url taskCreate
  | task pre post t pc st b ht hstep => exact iff_of_true trivial (h.task ht hstep)
  | delete pre post t ht hpc => exact iff_of_true trivial (h.delete ht)
  | restart t ht hpc => exact iff_of_true trivial otaBoot_single

/-- A run from boot keeps a single update in every state exactly when no start goes ahead while
a task exists. -/
theorem otaRun_single_iff {tr : List (OtaSys × OtaAct × OtaSys)} {s : OtaSys}
    (h : Run OtaNext otaBoot tr s) :
    (∀ e ∈ tr, SingleOta e.2.2) ↔ ∀ e ∈ tr, StartsAlone e.1 e.2.1 :=
  (Run.forall_iff (I := SingleOta) (C := fun s a _ => StartsAlone s a)
    (G := fun _ _ s' => SingleOta s')
    (fun _ _ _ hs hn => hn.single_iff hs) (fun _ _ _ hs hn hc => (hn.single_iff hs).mp hc)
    h otaBoot_single).symm

def urlA : Text := txt "https://a"
def urlB : Text := txt "https://b"

/-- The task that has announced itself and has set its state to DOWNLOADING. -/
def otaDownloading : OtaSys :=
  { ota := ⟨.downloading, CBuf.store 256 urlA⟩
    busy := true
    tasks := [⟨.connecting, CBuf.store 256 urlA⟩] }

/-- A second start finds a task that downloads. -/
theorem otaRun_refused_start :
    (∃ tr, Run OtaNext otaBoot tr (otaDownloading.start urlB true) ∧ tr.length = 4) ∧
      (otaDownloading.start urlB true).tasks.map OtaTask.pc = [.connecting] ∧
      SingleOta (otaDownloading.start urlB true) := by
  let begun := otaBoot.start urlA true
  let announced : OtaSys := ⟨begun.ota, true, [⟨.announced, CBuf.store 256 urlA⟩]⟩
  have hannounce : OtaNext begun .task announced :=
    .task begun [] [] ⟨.created, CBuf.store 256 urlA⟩ _ _ _ rfl (.announce _ _)
  have hdownload : OtaNext announced .task otaDownloading :=
    .task announced [] [] ⟨.announced, CBuf.store 256 urlA⟩ _ _ _ rfl (.download _ _)
  have hrun := Run.cons (.start otaBoot urlA true)
    (.cons hannounce (.cons hdownload (.cons (.start otaDownloading urlB true) (.nil _))))
  refine ⟨⟨_, hrun, rfl⟩, by decide +kernel, (otaRun_single_iff hrun).mpr ?_ _
    (List.mem_of_getLast? rfl)⟩
  simp [StartsAlone, otaBoot, otaDownloading]

theorem otaRun_two_starts :
    ¬ ∀ tr s, Run OtaNext otaBoot tr s → SingleOta s := by
  intro h
  have hrun : Run OtaNext otaBoot
      [(otaBoot, .start urlA true, otaBoot.start urlA true),
        (otaBoot.start urlA true, .start urlB true, (otaBoot.start urlA true).start urlB true)]
      ((otaBoot.start urlA true).start urlB true) :=
    .cons (.start ..) (.cons (.start ..) (.nil _))
  have hlen := (h _ _ hrun).atMostOne
  revert hlen
  decide +kernel

end IotPlatform
