import IotPlatform.HostQueue

/-!
# Semaphores and event groups of the host backends

`iot_rtos.c` implements the same interface on Win32 and on POSIX. Both are modelled here for one
thread: no other thread gives a semaphore or sets a bit while a call waits, so a wait that the
operating system would only end for such a thread never ends.
-/
namespace IotPlatform
open Runs

/-! ## Semaphores -/

/-- `INFINITE`, the timeout of a wait that does not give up. -/
def infinite : UInt32 := 0xFFFFFFFF

/-- A timeout other than `INFINITE`. -/
abbrev FiniteMs := { ms : UInt32 // ms ≠ infinite }

/-- A Win32 semaphore; its maximum is a positive `LONG`. -/
structure Win32Sem where
  count : ℕ
  semMax : ℕ
  fits : count ≤ semMax
  isLong : semMax < 2 ^ 31

/-- `SEM_VALUE_MAX` of the Linux image that the POSIX backend is for. -/
def semValueMax : ℕ := 2147483647

structure PosixSem where
  value : ℕ
  fits : value ≤ semValueMax

/-- What a call gives back to its caller: nothing, a code, or not even control. -/
inductive CallEnd
  | void
  | code (e : IotErr)
  | hangs
  deriving DecidableEq

/-- How a semaphore comes to be. -/
inductive SemCreate
  | counting (maxCount init : UInt32)
  | binary

inductive SemOp
  | give
  | take (timeoutMs : FiniteMs)

namespace Win32

/-- `CreateSemaphore` takes both counts as `LONG` and refuses a maximum that is not positive and an
initial count outside the range. -/
def createSemaphore (init semMax : Int32) : Option Win32Sem :=
  if h : 0 ≤ init.toInt ∧ 0 < semMax.toInt ∧ init.toInt ≤ semMax.toInt then
    some
      { count := init.toInt.toNat
        semMax := semMax.toInt.toNat
        fits := Int.toNat_le_toNat h.2.2
        isLong := by have := semMax.toInt_lt; omega }
  else none

/-- `iot_sem_counting_create`; `made` says whether the system has the memory. -/
def iotSemCountingCreate (maxCount init : UInt32) (made : Bool) : IotErr × Option Win32Sem :=
  match if made then createSemaphore init.toInt32 maxCount.toInt32 else none with
  | some s => (.ok, some s)
  | none => (.noMem, none)

def iotSemBinaryCreate (made : Bool) : IotErr × Option Win32Sem := iotSemCountingCreate 1 0 made

/-- `WaitForSingleObject`: whether the wait succeeded, and none when it never ends. -/
def waitForSemaphore (s : Win32Sem) (timeoutMs : UInt32) : Option (Bool × Win32Sem) :=
  if 0 < s.count then
    some (true, { s with count := s.count - 1, fits := (Nat.sub_le _ _).trans s.fits })
  else if timeoutMs = infinite then none
  else some (false, s)

def iotSemTake (s : Win32Sem) (timeoutMs : UInt32) : Option (IotErr × Win32Sem) :=
  (waitForSemaphore s timeoutMs).map fun r => (if r.1 then .ok else .timeout, r.2)

theorem releaseSemaphore_le {semMax count : ℕ} (h : count ≤ semMax) :
    releaseSemaphore semMax count ≤ semMax := by
  unfold releaseSemaphore
  split_ifs <;> omega

def iotSemGive (s : Win32Sem) : Win32Sem :=
  { s with count := releaseSemaphore s.semMax s.count, fits := releaseSemaphore_le s.fits }

def create : SemCreate → IotErr × Option Win32Sem
  | .counting maxCount init => iotSemCountingCreate maxCount init true
  | .binary => iotSemBinaryCreate true

def call (s : Win32Sem) : SemOp → CallEnd × Win32Sem
  | .give => (.void, iotSemGive s)
  | .take timeoutMs =>
    match iotSemTake s timeoutMs with
    | some (e, s') => (.code e, s')
    | none => (.hangs, s)

end Win32

namespace Posix

def semInit (value : UInt32) : Option PosixSem :=
  if h : value.toNat ≤ semValueMax then some ⟨value.toNat, h⟩ else none

/-- `sem_wait`; none when it never ends. -/
def semWait (s : PosixSem) : Option PosixSem :=
  if 0 < s.value then some ⟨s.value - 1, (Nat.sub_le _ _).trans s.fits⟩ else none

/-- `sem_post`, which fails at the maximum value. -/
def semPost (s : PosixSem) : PosixSem :=
  if h : s.value < semValueMax then ⟨s.value + 1, h⟩ else s

/-- `iot_sem_counting_create`, which does not look at the maximum. -/
def iotSemCountingCreate (_maxCount init : UInt32) (made : Bool) : IotErr × Option PosixSem :=
  if !made then (.noMem, none)
  else match semInit init with
    | some s => (.ok, some s)
    | none => (.fail, none)

def iotSemBinaryCreate (made : Bool) : IotErr × Option PosixSem := iotSemCountingCreate 1 0 made

/-- `iot_sem_take`, which does not look at the timeout. -/
def iotSemTake (s : PosixSem) (_timeoutMs : UInt32) : Option (IotErr × PosixSem) :=
  (semWait s).map fun s' => (.ok, s')

def iotSemGive (s : PosixSem) : PosixSem := semPost s

def create : SemCreate → IotErr × Option PosixSem
  | .counting maxCount init => iotSemCountingCreate maxCount init true
  | .binary => iotSemBinaryCreate true

def call (s : PosixSem) : SemOp → CallEnd × PosixSem
  | .give => (.void, iotSemGive s)
  | .take timeoutMs =>
    match iotSemTake s timeoutMs with
    | some (e, s') => (.code e, s')
    | none => (.hangs, s)

end Posix

/-- A positive maximum, and an initial count up to it. -/
def SemCreate.Valid : SemCreate → Prop
  | .counting maxCount init => 0 < maxCount.toNat ∧ init.toNat ≤ maxCount.toNat
  | .binary => True

/-- The maximum is positive as a `LONG`. -/
def SemCreate.FitsLong : SemCreate → Prop
  | .counting maxCount _ => maxCount.toNat < 2 ^ 31
  | .binary => True

/-- A semaphore on both backends. -/
structure SemPair where
  win : Win32Sem
  posix : PosixSem

def SemPair.apply (m : SemPair) (op : SemOp) : SemPair :=
  ⟨(Win32.call m.win op).2, (Posix.call m.posix op).2⟩

/-- The POSIX call ends as the Win32 call does, its count is within the maximum, and a take that
finds the semaphore empty times out. -/
structure SemAgree (m : SemPair) (op : SemOp) (m' : SemPair) : Prop where
  ends : (Posix.call m.posix op).1 = (Win32.call m.win op).1
  bounded : m'.posix.value ≤ m'.win.semMax
  empty : ∀ timeoutMs, op = .take timeoutMs → m.posix.value = 0 →
    (Posix.call m.posix op).1 = .code .timeout

/-- Both creations end alike, and what they create agrees in every call. -/
def SemsAgree (c : SemCreate) (ops : List SemOp) : Prop :=
  (Posix.create c).1 = (Win32.create c).1 ∧
    ∀ win posix, (Win32.create c).2 = some win → (Posix.create c).2 = some posix →
      ∀ e ∈ trace SemPair.apply ⟨win, posix⟩ ops, SemAgree e.1 e.2.1 e.2.2

/-- A take finds the semaphore above zero, and a give finds it below its maximum, unless that is
also the largest value of a POSIX semaphore. -/
def SemOp.Within (s : Win32Sem) : SemOp → Prop
  | .give => s.count < s.semMax ∨ s.semMax = semValueMax
  | .take _ => 0 < s.count

/-- No give of the run finds the semaphore full, and no take finds it empty. -/
def SemsWithin (c : SemCreate) (ops : List SemOp) : Prop :=
  c.FitsLong ∧ ∀ win posix, (Win32.create c).2 = some win → (Posix.create c).2 = some posix →
    ∀ e ∈ trace SemPair.apply ⟨win, posix⟩ ops, e.2.1.Within e.1.win

/-- The counts are the same. -/
def SemPair.Same (m : SemPair) : Prop := m.posix.value = m.win.count

theorem Posix.semPost_value (s : PosixSem) :
    (Posix.semPost s).value = if s.value < semValueMax then s.value + 1 else s.value := by
  unfold Posix.semPost
  split_ifs <;> rfl

section
variable {m : SemPair}

theorem give_agree_iff (h : m.Same) :
    SemAgree m .give (m.apply .give) ↔ SemOp.Within m.win .give := by
  have hbound : SemAgree m .give (m.apply .give) ↔
      (Posix.semPost m.posix).value ≤ m.win.semMax :=
    ⟨fun ha => ha.bounded, fun hb => ⟨rfl, hb, nofun⟩⟩
  have hfits := m.win.fits
  have hlong := m.win.isLong
  rw [hbound, Posix.semPost_value, h, SemOp.Within, semValueMax]
  split_ifs <;> omega

theorem take_agree_iff (h : m.Same) (timeoutMs : FiniteMs) :
    SemAgree m (.take timeoutMs) (m.apply (.take timeoutMs)) ↔ 0 < m.win.count := by
  constructor
  · intro ha
    by_contra hzero
    have hempty : m.posix.value = 0 := by rw [h]; omega
    have hcode := ha.empty timeoutMs rfl hempty
    simp [Posix.call, Posix.iotSemTake, Posix.semWait, hempty] at hcode
  · intro hpos
    have hposix : 0 < m.posix.value := by rwa [h]
    refine ⟨?_, ?_, fun _ _ hempty => absurd hempty hposix.ne'⟩
    · simp [Posix.call, Posix.iotSemTake, Posix.semWait, Win32.call, Win32.iotSemTake,
        Win32.waitForSemaphore, hpos, hposix]
    · have hfits := m.win.fits
      have hvalue : m.posix.value = m.win.count := h
      simp only [SemPair.apply, Posix.call, Posix.iotSemTake, Posix.semWait, if_pos hposix,
        Win32.call, Win32.iotSemTake, Win32.waitForSemaphore, if_pos hpos, Option.map_some]
      omega

theorem SemPair.apply_agree_iff (h : m.Same) (op : SemOp) :
    SemAgree m op (m.apply op) ↔ op.Within m.win := by
  cases op with
  | give => exact give_agree_iff h
  | take timeoutMs => exact take_agree_iff h timeoutMs

/-- A call within the range of the semaphore keeps the counts the same. -/
theorem SemPair.apply_same (h : m.Same) {op : SemOp} (hop : op.Within m.win) :
    (m.apply op).Same := by
  cases op with
  | give =>
    have hfits := m.win.fits
    have hlong := m.win.isLong
    have hwin : (m.apply .give).win.count = releaseSemaphore m.win.semMax m.win.count := rfl
    have hposix : (m.apply .give).posix.value = (Posix.semPost m.posix).value := rfl
    rw [SemPair.Same, hwin, hposix, Posix.semPost_value, h, releaseSemaphore]
    rw [SemOp.Within, semValueMax] at hop
    unfold semValueMax
    split_ifs <;> omega
  | take timeoutMs =>
    have hpos : 0 < m.win.count := hop
    have hposix : 0 < m.posix.value := by rwa [h]
    simp [SemPair.Same, SemPair.apply, Posix.call, Posix.iotSemTake, Posix.semWait, hposix,
      Win32.call, Win32.iotSemTake, Win32.waitForSemaphore, h.symm]

end

theorem toInt_toInt32 (n : UInt32) :
    n.toInt32.toInt = if n.toNat < 2 ^ 31 then (n.toNat : ℤ) else (n.toNat : ℤ) - 2 ^ 32 := by
  have h := BitVec.toInt_eq_toNat_cond n.toBitVec
  change n.toInt32.toInt = _ at h
  rw [h, UInt32.toNat_toBitVec]
  split_ifs <;> omega

/-- A maximum within `LONG` makes the semaphore on both backends, with the same count. -/
theorem counting_created {maxCount init : UInt32} (hmax : 0 < maxCount.toNat)
    (hinit : init.toNat ≤ maxCount.toNat) (hlong : maxCount.toNat < 2 ^ 31) :
    ∃ m : SemPair, Win32.create (.counting maxCount init) = (.ok, some m.win) ∧
      Posix.create (.counting maxCount init) = (.ok, some m.posix) ∧ m.Same := by
  have hi := toInt_toInt32 init
  have hm := toInt_toInt32 maxCount
  rw [if_pos (by omega)] at hi hm
  have hrange : 0 ≤ init.toInt32.toInt ∧ 0 < maxCount.toInt32.toInt ∧
      init.toInt32.toInt ≤ maxCount.toInt32.toInt := by omega
  have hvalue : init.toNat ≤ semValueMax := by unfold semValueMax; omega
  refine ⟨⟨⟨init.toInt32.toInt.toNat, maxCount.toInt32.toInt.toNat, by omega, by omega⟩,
    ⟨init.toNat, hvalue⟩⟩, ?_, ?_, ?_⟩
  · simp [Win32.create, Win32.iotSemCountingCreate, Win32.createSemaphore, hrange]
  · simp [Posix.create, Posix.iotSemCountingCreate, Posix.semInit, hvalue]
  · simp [SemPair.Same, hi]

theorem SemCreate.created {c : SemCreate} (hc : c.Valid) (hlong : c.FitsLong) :
    ∃ m : SemPair, Win32.create c = (.ok, some m.win) ∧
      Posix.create c = (.ok, some m.posix) ∧ m.Same := by
  cases c with
  | counting maxCount init => exact counting_created hc.1 hc.2 hlong
  | binary =>
    have hone : 0 < (1 : UInt32).toNat := by decide
    exact counting_created hone (Nat.zero_le _) (by decide)

/-- A larger maximum is negative as a `LONG`; Win32 refuses it and POSIX never does so with the
same code. -/
theorem SemCreate.refused {c : SemCreate} (hlong : ¬ c.FitsLong) :
    (Posix.create c).1 ≠ (Win32.create c).1 := by
  cases c with
  | binary => exact absurd trivial hlong
  | counting maxCount init =>
    have hm := toInt_toInt32 maxCount
    have hbound := maxCount.toNat_lt
    have hlarge : ¬ maxCount.toNat < 2 ^ 31 := hlong
    rw [if_neg hlarge] at hm
    have hno : ¬ (0 ≤ init.toInt32.toInt ∧ 0 < maxCount.toInt32.toInt ∧
        init.toInt32.toInt ≤ maxCount.toInt32.toInt) := by omega
    have hwin : (Win32.create (.counting maxCount init)).1 = .noMem := by
      simp [Win32.create, Win32.iotSemCountingCreate, Win32.createSemaphore, hno]
    rw [hwin]
    simp only [Posix.create, Posix.iotSemCountingCreate, Posix.semInit]
    split_ifs <;> simp_all

/-- The backends agree in every call exactly when the maximum is a positive `LONG`, no give finds
the semaphore full and no take finds it empty. -/
theorem semBackends_agree_iff {c : SemCreate} (hc : c.Valid) (ops : List SemOp) :
    SemsAgree c ops ↔ SemsWithin c ops := by
  by_cases hlong : c.FitsLong
  · obtain ⟨m, hwin, hposix, hsame⟩ := SemCreate.created hc hlong
    have hrun := Run.forall_iff (I := SemPair.Same) (C := SemAgree)
      (G := fun m op _ => op.Within m.win)
      (by rintro m op m' hm rfl; exact SemPair.apply_agree_iff hm op)
      (by
        rintro m op m' hm rfl ha
        exact SemPair.apply_same hm ((SemPair.apply_agree_iff hm op).mp ha))
      (run_trace SemPair.apply m ops) hsame
    simp only [SemsAgree, SemsWithin, hwin, hposix, hlong, true_and, Option.some.injEq]
    constructor
    · rintro h win posix rfl rfl
      exact hrun.mp (h _ _ rfl rfl)
    · rintro h win posix rfl rfl
      exact hrun.mpr (h _ _ rfl rfl)
  · exact iff_of_false (fun h => SemCreate.refused hlong h.1) fun h => hlong h.1

theorem binary_created :
    (Win32.create .binary).2 = some ⟨0, 1, by decide, by decide⟩ ∧
      (Posix.create .binary).2 = some ⟨0, by decide⟩ := ⟨rfl, rfl⟩

def wait50 : FiniteMs := ⟨50, by decide⟩

theorem semBackends_agree_give_take : SemsAgree .binary [.give, .take wait50] := by
  refine (semBackends_agree_iff (c := .binary) trivial _).mpr ⟨trivial, ?_⟩
  intro win posix hwin hposix
  obtain rfl := Option.some.inj (binary_created.1.symm.trans hwin)
  simp [trace, SemOp.Within, SemPair.apply, Win32.call, Win32.iotSemGive, releaseSemaphore]

/-- A take of a binary semaphore that nothing has given times out on Win32 only. -/
theorem semBackends_take_empty :
    ¬ ∀ (c : SemCreate) (ops : List SemOp), c.Valid → SemsAgree c ops := by
  intro h
  obtain ⟨-, hall⟩ := h .binary [.take wait50] trivial
  have hagree := hall _ _ binary_created.1 binary_created.2 _ List.mem_cons_self
  exact absurd hagree.ends (by decide)

/-! ## Event groups -/

/-- The arguments of `iot_event_wait` behind its handle. -/
structure EventWait where
  bits : UInt32
  clear : Bool
  waitAll : Bool
  timeoutMs : UInt32

inductive EventOp
  | set (bits : UInt32)
  | clear (bits : UInt32)

/-- The condition of a wait: all of its bits, or any of them. -/
def EventWait.met (a : EventWait) (cur : UInt32) : Bool :=
  if a.waitAll then cur &&& a.bits == a.bits else cur &&& a.bits != 0

/-- The bits after a wait whose `clear` takes effect. -/
def EventWait.consume (a : EventWait) (cur : UInt32) : UInt32 :=
  if a.clear then cur &&& ~~~a.bits else cur

namespace Win32

def iotEventSet (e bits : UInt32) : UInt32 := e ||| bits

def iotEventClear (e bits : UInt32) : UInt32 := e &&& ~~~bits

/-- The loop of `iot_event_wait`, whose counter wraps at 32 bits: the value returned and the bits
left, or none when `fuel` passes are not enough. -/
def pollEvent (a : EventWait) : ℕ → UInt32 → UInt32 → Option (UInt32 × UInt32)
  | 0, _, _ => none
  | fuel + 1, elapsed, e =>
    if elapsed ≤ a.timeoutMs then
      if a.met e then some (e, a.consume e) else pollEvent a fuel (elapsed + 5) e
    else some (0, e)

def iotEventWait (a : EventWait) (fuel : ℕ) (e : UInt32) : Option (UInt32 × UInt32) :=
  pollEvent a fuel 0 e

def eventOp (e : UInt32) : EventOp → UInt32
  | .set bits => iotEventSet e bits
  | .clear bits => iotEventClear e bits

end Win32

namespace Posix

def iotEventSet (e bits : UInt32) : UInt32 := e ||| bits

def iotEventClear (e bits : UInt32) : UInt32 := e &&& ~~~bits

/-- `iot_event_wait`, which looks neither at the condition nor at the timeout. -/
def iotEventWait (a : EventWait) (e : UInt32) : UInt32 × UInt32 := (e, a.consume e)

def eventOp (e : UInt32) : EventOp → UInt32
  | .set bits => iotEventSet e bits
  | .clear bits => iotEventClear e bits

end Posix

/-- A wait whose condition holds returns the bits and removes its own when it should; any other
leaves the bits and returns a value that does not meet the condition. -/
def WaitCorrect (a : EventWait) (e : UInt32) (r : UInt32 × UInt32) : Prop :=
  if a.met e then r = (e, a.consume e) else r.2 = e ∧ a.met r.1 = false

/-- On Win32 the wait ends, and on both backends it does what it should. -/
def WaitsCorrect (a : EventWait) (ops : List EventOp) : Prop :=
  let win := ops.foldl Win32.eventOp 0
  let posix := ops.foldl Posix.eventOp 0
  (∃ r, (∃ n, ∀ fuel, n ≤ fuel → Win32.iotEventWait a fuel win = some r) ∧ WaitCorrect a win r) ∧
    WaitCorrect a posix (Posix.iotEventWait a posix)

/-- A wait for all of its bits, with `clear`, that finds some of them. -/
def EventWait.Partial (a : EventWait) (cur : UInt32) : Prop :=
  a.clear = true ∧ a.waitAll = true ∧ cur &&& a.bits ≠ 0 ∧ cur &&& a.bits ≠ a.bits

section
variable {a : EventWait} {e : UInt32}

theorem pollEvent_met (h : a.met e = true) (fuel : ℕ) :
    Win32.iotEventWait a (fuel + 1) e = some (e, a.consume e) := by
  have hstart : (0 : UInt32) ≤ a.timeoutMs := by
    rw [UInt32.le_iff_toNat_le]
    exact Nat.zero_le _
  rw [Win32.iotEventWait, Win32.pollEvent, if_pos hstart, if_pos h]

/-- Below the wrap of its counter the loop gives up after a pass for every 5 ms. -/
theorem pollEvent_unmet (h : a.met e = false) (htimeout : a.timeoutMs.toNat < 0xFFFFFFFB)
    {fuel : ℕ} {elapsed : UInt32} (hfuel : a.timeoutMs.toNat < elapsed.toNat + 5 * fuel) :
    Win32.pollEvent a (fuel + 1) elapsed e = some (0, e) := by
  induction fuel generalizing elapsed with
  | zero =>
    have hover : ¬ elapsed ≤ a.timeoutMs := by
      rw [UInt32.le_iff_toNat_le]
      omega
    rw [Win32.pollEvent, if_neg hover]
  | succ fuel ih =>
    rw [Win32.pollEvent]
    split_ifs with hle hmet
    · simp [h] at hmet
    · rw [UInt32.le_iff_toNat_le] at hle
      have hfive : (5 : UInt32).toNat = 5 := rfl
      have hnext : (elapsed + 5).toNat = elapsed.toNat + 5 := by
        rw [UInt32.toNat_add, hfive, Nat.mod_eq_of_lt (by omega)]
      exact ih (by omega)
    · rfl

/-- The value that the loop gives up with meets no condition that any value can fail. -/
theorem met_zero_of_unmet (h : a.met e = false) : a.met 0 = false := by
  unfold EventWait.met at *
  cases hall : a.waitAll with
  | false => simp
  | true =>
    simp only [hall, if_true, beq_eq_false_iff_ne, UInt32.zero_and] at h ⊢
    intro hbits
    rw [← hbits, UInt32.and_zero] at h
    exact h rfl

theorem win32Wait_correct (htimeout : a.timeoutMs.toNat < 0xFFFFFFFB) (e : UInt32) :
    ∃ r, (∃ n, ∀ fuel, n ≤ fuel → Win32.iotEventWait a fuel e = some r) ∧ WaitCorrect a e r := by
  cases h : a.met e with
  | true =>
    refine ⟨(e, a.consume e), ⟨1, fun fuel hfuel => ?_⟩, by simp [WaitCorrect, h]⟩
    obtain ⟨k, rfl⟩ := Nat.exists_eq_add_of_le' hfuel
    exact pollEvent_met h k
  | false =>
    refine ⟨(0, e), ⟨a.timeoutMs.toNat + 2, fun fuel hfuel => ?_⟩,
      by simp [WaitCorrect, h, met_zero_of_unmet h]⟩
    obtain ⟨k, rfl⟩ := Nat.exists_eq_add_of_le' (show 1 ≤ fuel by omega)
    exact pollEvent_unmet h htimeout (by rw [UInt32.toNat_zero]; omega)

/-- Removing bits changes a word exactly when it has some of them. -/
theorem and_not_eq_iff (e bits : UInt32) : e &&& ~~~bits = e ↔ e &&& bits = 0 := by
  simp only [← UInt32.toBitVec_inj, UInt32.toBitVec_and, UInt32.toBitVec_not]
  constructor
  · intro h
    refine BitVec.eq_of_getLsbD_eq fun i hi => ?_
    have hbit := congrArg (fun v => v.getLsbD i) h
    simp only [BitVec.getLsbD_and, BitVec.getLsbD_not, hi, decide_true, Bool.true_and] at hbit
    cases he : e.toBitVec.getLsbD i <;> simp_all
  · intro h
    refine BitVec.eq_of_getLsbD_eq fun i hi => ?_
    have hbit := congrArg (fun v => v.getLsbD i) h
    simp only [BitVec.getLsbD_and, BitVec.getLsbD_not, hi, decide_true, Bool.true_and] at hbit ⊢
    cases he : e.toBitVec.getLsbD i <;> simp_all

theorem posixWait_correct_iff (a : EventWait) (e : UInt32) :
    WaitCorrect a e (Posix.iotEventWait a e) ↔ ¬ a.Partial e := by
  cases hmet : a.met e with
  | true =>
    refine iff_of_true (by simp [WaitCorrect, hmet, Posix.iotEventWait]) ?_
    rintro ⟨-, hall, -, hbits⟩
    exact hbits (by simpa [EventWait.met, hall] using hmet)
  | false =>
    have hkeep : WaitCorrect a e (Posix.iotEventWait a e) ↔ a.consume e = e := by
      simp [WaitCorrect, hmet, Posix.iotEventWait]
    rw [hkeep, EventWait.consume, EventWait.Partial]
    cases hclear : a.clear with
    | false => simp
    | true =>
      simp only [if_true, and_not_eq_iff, true_and]
      cases hall : a.waitAll with
      | false =>
        have hnone : e &&& a.bits = 0 := by simpa [EventWait.met, hall] using hmet
        simp [hnone]
      | true =>
        have hsome : e &&& a.bits ≠ a.bits := by simpa [EventWait.met, hall] using hmet
        simp [hsome]

end

/-- With a timeout that the counter can exceed, every wait ends and does what it should on both
backends exactly when it is not a clearing wait for all bits that finds some of them. -/
theorem eventWaits_correct_iff {a : EventWait} (htimeout : a.timeoutMs.toNat < 0xFFFFFFFB)
    (ops : List EventOp) :
    WaitsCorrect a ops ↔ ¬ a.Partial (ops.foldl Posix.eventOp 0) :=
  (and_iff_right (win32Wait_correct htimeout _)).trans (posixWait_correct_iff a _)

theorem eventWaits_correct_all :
    WaitsCorrect { bits := 3, clear := true, waitAll := true, timeoutMs := 10 } [.set 3] := by
  exact (eventWaits_correct_iff (by decide) [.set 3]).mpr fun h => h.2.2.2 (by decide)

/-- A clearing wait for two bits takes the one that is set, on POSIX. -/
theorem eventWaits_partial : ¬ ∀ (a : EventWait) (ops : List EventOp),
    a.timeoutMs.toNat < 0xFFFFFFFB → WaitsCorrect a ops := by
  intro h
  obtain ⟨-, hposix⟩ := h { bits := 3, clear := true, waitAll := true, timeoutMs := 10 } [.set 1]
    (by decide)
  have hkept := hposix.1
  revert hkept
  decide

end IotPlatform
