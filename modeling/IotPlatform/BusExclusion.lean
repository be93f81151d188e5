import IotPlatform.Types
import IotPlatform.Runs

/-!
# `iot_i2c.c`, `iot_spi.c` and `iot_uart.c`: one caller at a time

Each driver takes its mutex with the caller's timeout and ignores what `iot_mutex_lock` returns. A
caller that has not got the mutex transfers beside the one that has, and then unlocks it.
-/
namespace IotPlatform
open Runs

/-- What has a mutex of its own: I2C, SPI and the two UART ports. -/
inductive Bus
  | i2c | spi
  | uart (port : Fin 2)
  deriving DecidableEq

/-- The functions that transfer. -/
inductive BusEntry
  | i2cWrite | i2cRead | i2cWriteRead | spiTransfer
  | uartWrite (port : Fin 2)
  | uartRead (port : Fin 2)
  deriving DecidableEq

def BusEntry.bus : BusEntry → Bus
  | .i2cWrite | .i2cRead | .i2cWriteRead => .i2c
  | .spiTransfer => .spi
  | .uartWrite port | .uartRead port => .uart port

/-- `iot_uart_read` takes no mutex. -/
def BusEntry.locks : BusEntry → Bool
  | .uartRead _ => false
  | _ => true

/-- Where a task stands; `r` is what `iot_mutex_lock` has returned, `code` what the call will. -/
inductive BusPc
  | idle
  | waiting (e : BusEntry)
  | locked (e : BusEntry) (r : IotErr)
  | transferring (e : BusEntry) (r : IotErr)
  | transferred (e : BusEntry) (r code : IotErr)
  deriving DecidableEq

/-- The bus for which a task is between its lock and its unlock. -/
def BusPc.inside : BusPc → Option Bus
  | .locked e _ | .transferring e _ | .transferred e _ _ => if e.locks then some e.bus else none
  | _ => none

def BusPc.lockResult : BusPc → IotErr
  | .locked _ r | .transferring _ r | .transferred _ r _ => r
  | _ => .ok

/-- The tasks, the holders of the mutexes, the driver-enable pins of the UART ports, and whether a
port is sending. -/
structure Buses (T : Type) where
  pc : T → BusPc
  holder : Bus → Option T
  de : Fin 2 → Bool
  sending : Fin 2 → Bool

def Buses.boot (T : Type) : Buses T where
  pc := fun _ => .idle
  holder := fun _ => none
  de := fun _ => false
  sending := fun _ => false

/-- The backends whose `iot_mutex_lock` knows a timeout. -/
inductive MutexBackend
  | freertos | win32

/-- `iot_mutex_unlock` by a task: `ReleaseMutex` refuses anyone but the owner, `xSemaphoreGive`
makes the mutex available. -/
def iotMutexUnlock {T : Type} [DecidableEq T] (backend : MutexBackend) (t : T)
    (holder : Option T) : Option T :=
  match backend with
  | .freertos => none
  | .win32 => if holder = some t then none else holder

section
variable {T : Type} [DecidableEq T]

/-- The start of a transfer; `rs485` tells the ports with a driver-enable pin. -/
def Buses.begin (rs485 : Fin 2 → Bool) (e : BusEntry) (s : Buses T) : Buses T :=
  match e with
  | .uartWrite p => { s with
      de := if rs485 p then Function.update s.de p true else s.de
      sending := Function.update s.sending p true }
  | _ => s

def Buses.finish (rs485 : Fin 2 → Bool) (e : BusEntry) (s : Buses T) : Buses T :=
  match e with
  | .uartWrite p => { s with de := if rs485 p then Function.update s.de p false else s.de }
  | _ => s

def Buses.move (s : Buses T) (t : T) (q : BusPc) : Buses T :=
  { s with pc := Function.update s.pc t q }

inductive BusAct (T : Type)
  | refused (t : T) (e : BusEntry)
  | call (t : T) (e : BusEntry)
  | lock (t : T)
  | timeout (t : T)
  | transfer (t : T)
  | sent (port : Fin 2)
  | finish (t : T) (code : IotErr)
  /-- `uart_wait_tx_done` has given up. -/
  | finishLate (t : T) (port : Fin 2) (code : IotErr)
  | leave (t : T) (code : IotErr)

/-- The next statement of some task, or the end of what a UART port sends. An attempt to lock times
out only while somebody holds the mutex. -/
inductive BusNext (rs485 : Fin 2 → Bool) (backend : MutexBackend) :
    Buses T → BusAct T → Buses T → Prop
  | refused (s : Buses T) (t : T) (e : BusEntry) (h : s.pc t = .idle) :
      BusNext rs485 backend s (.refused t e) s
  | call (s : Buses T) (t : T) (e : BusEntry) (h : s.pc t = .idle) :
      BusNext rs485 backend s (.call t e)
        (s.move t (if e.locks then .waiting e else .locked e .ok))
  | lock (s : Buses T) (t : T) (e : BusEntry) (h : s.pc t = .waiting e) (hl : e.locks = true)
      (hfree : s.holder e.bus = none) :
      BusNext rs485 backend s (.lock t) { s.move t (.locked e .ok) with
        holder := Function.update s.holder e.bus (some t) }
  | timeout (s : Buses T) (t : T) (e : BusEntry) (h : s.pc t = .waiting e) (hl : e.locks = true)
      (hheld : s.holder e.bus ≠ none) :
      BusNext rs485 backend s (.timeout t) (s.move t (.locked e .timeout))
  | transfer (s : Buses T) (t : T) (e : BusEntry) (r : IotErr) (h : s.pc t = .locked e r) :
      BusNext rs485 backend s (.transfer t) ((s.move t (.transferring e r)).begin rs485 e)
  | sent (s : Buses T) (p : Fin 2) :
      BusNext rs485 backend s (.sent p) { s with sending := Function.update s.sending p false }
  | finish (s : Buses T) (t : T) (e : BusEntry) (r code : IotErr)
      (h : s.pc t = .transferring e r) (hsent : ∀ p, e = .uartWrite p → s.sending p = false) :
      BusNext rs485 backend s (.finish t code)
        ((s.move t (.transferred e r code)).finish rs485 e)
  | finishLate (s : Buses T) (t : T) (p : Fin 2) (r code : IotErr)
      (h : s.pc t = .transferring (.uartWrite p) r) :
      BusNext rs485 backend s (.finishLate t p code)
        ((s.move t (.transferred (.uartWrite p) r code)).finish rs485 (.uartWrite p))
  | leave (s : Buses T) (t : T) (e : BusEntry) (r code : IotErr)
      (h : s.pc t = .transferred e r code) :
      BusNext rs485 backend s (.leave t code) { s.move t .idle with
        holder := if e.locks then
            Function.update s.holder e.bus (iotMutexUnlock backend t (s.holder e.bus))
          else s.holder }

omit [DecidableEq T] in
/-- At most one task is between its lock and its unlock of a bus. -/
def AtMostOne (s : Buses T) : Prop :=
  ∀ b t t', (s.pc t).inside = some b → (s.pc t').inside = some b → t = t'

omit [DecidableEq T] in
/-- A task without the mutex transfers nothing, leaves the mutex alone, and reports an error. -/
structure TimedOutLeaves (s : Buses T) (a : BusAct T) (s' : Buses T) : Prop where
  idle : ∀ t, (s.pc t).lockResult ≠ .ok → a ≠ .transfer t
  error : ∀ t code, (s.pc t).lockResult ≠ .ok → a = .leave t code →
    s'.holder = s.holder ∧ code ≠ .ok

omit [DecidableEq T] in
/-- While a port with a driver-enable pin is sending, the pin is asserted. -/
def DriverEnabled (rs485 : Fin 2 → Bool) (s : Buses T) : Prop :=
  ∀ p, rs485 p = true → s.sending p = true → s.de p = true

omit [DecidableEq T] in
/-- No attempt to lock times out. -/
def LocksInTime (a : BusAct T) : Prop := ∀ t, a ≠ .timeout t

omit [DecidableEq T] in
/-- No wait for a port with a driver-enable pin gives up while the port is sending. -/
def SendsInTime (rs485 : Fin 2 → Bool) (s : Buses T) (a : BusAct T) : Prop :=
  ∀ t p code, a = .finishLate t p code → rs485 p = true → s.sending p = false

omit [DecidableEq T] in
/-- Inside is who holds the mutex. -/
def Held (pc : T → BusPc) (holder : Bus → Option T) : Prop :=
  ∀ t b, (pc t).inside = some b ↔ holder b = some t

section
variable {pc : T → BusPc} {holder : Bus → Option T} {t : T} {q : BusPc} {b : Bus}

theorem Held.move (h : Held pc holder) (hq : q.inside = (pc t).inside) :
    Held (Function.update pc t q) holder := by
  intro t' b'
  by_cases ht : t' = t
  · subst ht
    rw [Function.update_self, hq]
    exact h t' b'
  · rw [Function.update_of_ne ht]
    exact h t' b'

theorem Held.take (h : Held pc holder) (hfree : holder b = none) (hout : (pc t).inside = none)
    (hq : q.inside = some b) :
    Held (Function.update pc t q) (Function.update holder b (some t)) := by
  intro t' b'
  have hmine : holder b' ≠ some t := fun he => by simp [(h t b').mpr he] at hout
  by_cases ht : t' = t
  · subst ht
    rw [Function.update_self, hq]
    by_cases hb : b' = b
    · simp [hb]
    · simp [hb, hmine, Ne.symm hb]
  · rw [Function.update_of_ne ht, h t' b']
    by_cases hb : b' = b
    · simp [hb, hfree, Ne.symm ht]
    · simp [hb]

theorem Held.release (h : Held pc holder) (hin : (pc t).inside = some b) (hq : q.inside = none) :
    Held (Function.update pc t q) (Function.update holder b none) := by
  intro t' b'
  have hb := (h t b).mp hin
  by_cases ht : t' = t
  · subst ht
    rw [Function.update_self, hq]
    by_cases hb' : b' = b
    · simp [hb']
    · have hne : holder b' ≠ some t' := by
        intro he
        have hin' := (h t' b').mpr he
        rw [hin] at hin'
        exact hb' (Option.some.inj hin').symm
      simp [hb', hne]
  · rw [Function.update_of_ne ht, h t' b']
    by_cases hb' : b' = b
    · simp [hb', hb, Ne.symm ht]
    · simp [hb']

omit [DecidableEq T] in
theorem Held.atMostOne {s : Buses T} (h : Held s.pc s.holder) : AtMostOne s := by
  intro b t t' ht ht'
  exact Option.some.inj (((h t b).mp ht).symm.trans ((h t' b).mp ht'))

end

theorem iotMutexUnlock_holder (backend : MutexBackend) (t : T) :
    iotMutexUnlock backend t (some t) = none := by
  cases backend
  · rfl
  · exact if_pos rfl

/-- No lock has timed out yet. -/
structure BusInv (s : Buses T) : Prop where
  held : Held s.pc s.holder
  inTime : ∀ t, (s.pc t).lockResult = .ok

section
variable {rs485 : Fin 2 → Bool} {backend : MutexBackend} {s s' : Buses T} {a : BusAct T}

omit [DecidableEq T] in
theorem Buses.begin_pc (e : BusEntry) (s : Buses T) : (s.begin rs485 e).pc = s.pc := by
  cases e <;> rfl

omit [DecidableEq T] in
theorem Buses.begin_holder (e : BusEntry) (s : Buses T) : (s.begin rs485 e).holder = s.holder := by
  cases e <;> rfl

omit [DecidableEq T] in
theorem Buses.finish_pc (e : BusEntry) (s : Buses T) : (s.finish rs485 e).pc = s.pc := by
  cases e <;> rfl

omit [DecidableEq T] in
theorem Buses.finish_holder (e : BusEntry) (s : Buses T) :
    (s.finish rs485 e).holder = s.holder := by
  cases e <;> rfl

theorem lockResult_move (h : ∀ t, (s.pc t).lockResult = .ok) {t : T} {q : BusPc}
    (hq : q.lockResult = .ok) (t' : T) : (Function.update s.pc t q t').lockResult = .ok := by
  by_cases ht : t' = t
  · subst ht
    rw [Function.update_self]
    exact hq
  · rw [Function.update_of_ne ht]
    exact h t'

theorem BusInv.step (hi : BusInv s) (hn : BusNext rs485 backend s a s') (ha : LocksInTime a) :
    BusInv s' := by
  obtain ⟨hheld, htime⟩ := hi
  cases hn with
  | refused t e h => exact ⟨hheld, htime⟩
  | call t e h =>
    cases hl : e.locks with
    | true => exact ⟨hheld.move (by simp [h, BusPc.inside]), lockResult_move htime rfl⟩
    | false => exact ⟨hheld.move (by simp [h, hl, BusPc.inside]), lockResult_move htime rfl⟩
  | lock t e h hl hfree =>
    exact ⟨hheld.take hfree (by simp [h, BusPc.inside]) (by simp [BusPc.inside, hl]),
      lockResult_move htime rfl⟩
  | timeout t e h hl hfree => exact absurd rfl (ha t)
  | transfer t e r h =>
    have hr : r = .ok := by simpa [h, BusPc.lockResult] using htime t
    refine ⟨?_, ?_⟩
    · rw [Buses.begin_pc, Buses.begin_holder]
      exact hheld.move (by simp [h, BusPc.inside])
    · rw [Buses.begin_pc]
      exact lockResult_move htime hr
  | sent p => exact ⟨hheld, htime⟩
  | finish t e r code h hsent =>
    have hr : r = .ok := by simpa [h, BusPc.lockResult] using htime t
    refine ⟨?_, ?_⟩
    · rw [Buses.finish_pc, Buses.finish_holder]
      exact hheld.move (by simp [h, BusPc.inside])
    · rw [Buses.finish_pc]
      exact lockResult_move htime hr
  | finishLate t p r code h =>
    have hr : r = .ok := by simpa [h, BusPc.lockResult] using htime t
    exact ⟨hheld.move (by simp [h, BusPc.inside]), lockResult_move htime hr⟩
  | leave t e r code h =>
    cases hl : e.locks with
    | true =>
      have hin : (s.pc t).inside = some e.bus := by simp [h, BusPc.inside, hl]
      have hholder := (hheld t e.bus).mp hin
      refine ⟨?_, lockResult_move htime rfl⟩
      simp only [if_true, hholder, iotMutexUnlock_holder]
      exact hheld.release hin rfl
    | false =>
      refine ⟨?_, lockResult_move htime rfl⟩
      simp only [Bool.false_eq_true, if_false]
      exact hheld.move (by simp [h, BusPc.inside, hl])

/-- Whoever times out joins the holder. -/
theorem BusInv.timeout (hi : BusInv s) {t : T} (hn : BusNext rs485 backend s (.timeout t) s') :
    ¬ AtMostOne s' := by
  intro hone
  cases hn with
  | timeout _ e h hl hheld =>
    obtain ⟨t', ht'⟩ := Option.ne_none_iff_exists'.mp hheld
    have hin' := (hi.held t' e.bus).mpr ht'
    have hne : t' ≠ t := by
      rintro rfl
      simp [h, BusPc.inside] at hin'
    have heq := hone e.bus t t' (by simp [Buses.move, BusPc.inside, hl])
      (by simpa [Buses.move, hne] using hin')
    exact hne heq.symm

omit [DecidableEq T] in
theorem BusInv.timedOutLeaves (hi : BusInv s) : TimedOutLeaves s a s' :=
  ⟨fun t ht => absurd (hi.inTime t) ht, fun t _ ht => absurd (hi.inTime t) ht⟩

/-- A port with the pin sends for a task in its transfer only, and that task has asserted the
pin. -/
structure PinInv (rs485 : Fin 2 → Bool) (s : Buses T) : Prop where
  base : BusInv s
  sender : ∀ p, rs485 p = true → s.sending p = true →
    ∃ t, s.pc t = .transferring (.uartWrite p) .ok
  asserted : ∀ p t, rs485 p = true → s.pc t = .transferring (.uartWrite p) .ok → s.de p = true

omit [DecidableEq T] in
theorem PinInv.driverEnabled (h : PinInv rs485 s) : DriverEnabled rs485 s := by
  intro p hp hs
  obtain ⟨t, ht⟩ := h.sender p hp hs
  exact h.asserted p t hp ht

/-- A step of a task that is in no transfer before or after leaves the senders alone. -/
theorem PinInv.outside (h : PinInv rs485 s) (hbase : BusInv s') {t : T} {q : BusPc}
    (hpc : s'.pc = Function.update s.pc t q) (hde : s'.de = s.de) (hsend : s'.sending = s.sending)
    (hout : ∀ p, s.pc t ≠ .transferring (.uartWrite p) .ok)
    (hq : ∀ p, q ≠ .transferring (.uartWrite p) .ok) : PinInv rs485 s' := by
  refine ⟨hbase, fun p hp hs => ?_, fun p t' hp ht' => ?_⟩
  · obtain ⟨t', ht'⟩ := h.sender p hp (hsend ▸ hs)
    have hne : t' ≠ t := by
      rintro rfl
      exact hout p ht'
    exact ⟨t', by rw [hpc, Function.update_of_ne hne, ht']⟩
  · have hne : t' ≠ t := by
      rintro rfl
      rw [hpc, Function.update_self] at ht'
      exact hq p ht'
    rw [hpc, Function.update_of_ne hne] at ht'
    rw [hde]
    exact h.asserted p t' hp ht'

/-- The end of a transfer on a port that is sending no more. -/
theorem PinInv.finished (h : PinInv rs485 s) {t : T} {p : Fin 2} {code : IotErr}
    (ht : s.pc t = .transferring (.uartWrite p) .ok) (hsent : rs485 p = true → s.sending p = false)
    (hbase : BusInv ((s.move t (.transferred (.uartWrite p) .ok code)).finish rs485
      (.uartWrite p))) :
    PinInv rs485
      ((s.move t (.transferred (.uartWrite p) .ok code)).finish rs485 (.uartWrite p)) := by
  refine ⟨hbase, fun p' hp' hs' => ?_, fun p' t' hp' ht' => ?_⟩
  · have hp : p' ≠ p := by
      rintro rfl
      simp [Buses.finish, Buses.move, hsent hp'] at hs'
    obtain ⟨t', ht'⟩ := h.sender p' hp' hs'
    have hne : t' ≠ t := by
      rintro rfl
      rw [ht] at ht'
      simp only [BusPc.transferring.injEq, BusEntry.uartWrite.injEq, and_true] at ht'
      exact hp ht'.symm
    exact ⟨t', by simp [Buses.finish, Buses.move, hne, ht']⟩
  · have hne : t' ≠ t := by
      rintro rfl
      simp [Buses.finish, Buses.move] at ht'
    have ht'' : s.pc t' = .transferring (.uartWrite p') .ok := by
      simpa [Buses.finish, Buses.move, hne] using ht'
    have hp : p' ≠ p := by
      rintro rfl
      exact hne (h.base.held.atMostOne (.uart p') t' t (by simp [ht'', BusPc.inside, BusEntry.locks,
        BusEntry.bus]) (by simp [ht, BusPc.inside, BusEntry.locks, BusEntry.bus]))
    have hde := h.asserted p' t' hp' ht''
    cases hrs : rs485 p <;> simpa [Buses.finish, Buses.move, hrs, hp] using hde

/-- The start of a transmission. -/
theorem PinInv.started (h : PinInv rs485 s) {t : T} {p : Fin 2}
    (ht : s.pc t = .locked (.uartWrite p) .ok)
    (hbase : BusInv ((s.move t (.transferring (.uartWrite p) .ok)).begin rs485 (.uartWrite p))) :
    PinInv rs485 ((s.move t (.transferring (.uartWrite p) .ok)).begin rs485 (.uartWrite p)) := by
  refine ⟨hbase, fun p' hp' hs' => ?_, fun p' t' hp' ht' => ?_⟩
  · by_cases hp : p' = p
    · subst hp
      exact ⟨t, by simp [Buses.begin, Buses.move]⟩
    · obtain ⟨t', ht'⟩ := h.sender p' hp' (by simpa [Buses.begin, Buses.move, hp] using hs')
      have hne : t' ≠ t := by
        rintro rfl
        simp [ht] at ht'
      exact ⟨t', by simp [Buses.begin, Buses.move, hne, ht']⟩
  · by_cases hp : p' = p
    · subst hp
      simp [Buses.begin, Buses.move, hp']
    · have hne : t' ≠ t := by
        rintro rfl
        simp only [Buses.begin, Buses.move, Function.update_self, BusPc.transferring.injEq,
          BusEntry.uartWrite.injEq, and_true] at ht'
        exact hp ht'.symm
      have hde := h.asserted p' t' hp' (by simpa [Buses.begin, Buses.move, hne] using ht')
      cases hrs : rs485 p <;> simpa [Buses.begin, Buses.move, hrs, hp] using hde

theorem PinInv.step (h : PinInv rs485 s) (hn : BusNext rs485 backend s a s')
    (hlock : LocksInTime a) (hsend : SendsInTime rs485 s a) : PinInv rs485 s' := by
  have hbase := h.base.step hn hlock
  cases hn with
  | refused t e hpc => exact h
  | call t e hpc =>
    refine h.outside hbase rfl rfl rfl (by simp [hpc]) fun p => ?_
    split_ifs <;> exact nofun
  | lock t e hpc hl hfree => exact h.outside hbase rfl rfl rfl (by simp [hpc]) fun p => nofun
  | timeout t e hpc hl hheld => exact absurd rfl (hlock t)
  | transfer t e r hpc =>
    obtain rfl : r = .ok := by simpa [hpc, BusPc.lockResult] using h.base.inTime t
    cases e with
    | uartWrite p => exact h.started hpc hbase
    | _ => exact h.outside hbase rfl rfl rfl (by simp [hpc]) (by simp)
  | sent p =>
    refine ⟨hbase, fun p' hp' hs' => ?_, h.asserted⟩
    by_cases hp : p' = p
    · simp [hp] at hs'
    · exact h.sender p' hp' (by simpa [hp] using hs')
  | finish t e r code hpc hsent =>
    obtain rfl : r = .ok := by simpa [hpc, BusPc.lockResult] using h.base.inTime t
    cases e with
    | uartWrite p => exact h.finished hpc (fun _ => hsent p rfl) hbase
    | _ => exact h.outside hbase rfl rfl rfl (by simp [hpc]) fun p => nofun
  | finishLate t p r code hpc =>
    obtain rfl : r = .ok := by simpa [hpc, BusPc.lockResult] using h.base.inTime t
    exact h.finished hpc (hsend t p code rfl) hbase
  | leave t e r code hpc => exact h.outside hbase rfl rfl rfl (by simp [hpc]) fun p => nofun

/-- A wait that gives up takes the pin from a port that is sending. -/
theorem not_driverEnabled {t : T} {p : Fin 2} {code : IotErr}
    (hn : BusNext rs485 backend s (.finishLate t p code) s') (hp : rs485 p = true)
    (hs : s.sending p = true) : ¬ DriverEnabled rs485 s' := by
  intro hd
  cases hn with
  | finishLate _ _ r _ hpc =>
    have hde := hd p hp (by simpa [Buses.finish, Buses.move] using hs)
    simp [Buses.finish, Buses.move, hp] at hde

end

/-- Along every interleaving the callers of a bus exclude each other exactly when no attempt to lock
times out, and a transmission keeps its pin as well exactly when besides no wait for a port with
such a pin gives up early. -/
theorem bus_exclusion_iff {rs485 : Fin 2 → Bool} {backend : MutexBackend}
    {tr : List (Buses T × BusAct T × Buses T)} {s : Buses T}
    (h : Run (BusNext rs485 backend) (.boot T) tr s) :
    ((∀ e ∈ tr, LocksInTime e.2.1) ↔
      ∀ e ∈ tr, AtMostOne e.2.2 ∧ TimedOutLeaves e.1 e.2.1 e.2.2) ∧
    ((∀ e ∈ tr, LocksInTime e.2.1 ∧ SendsInTime rs485 e.1 e.2.1) ↔
      ∀ e ∈ tr, (AtMostOne e.2.2 ∧ TimedOutLeaves e.1 e.2.1 e.2.2) ∧
        DriverEnabled rs485 e.2.2) := by
  have hboot : BusInv (Buses.boot T) :=
    ⟨fun _ _ => ⟨fun h => (nomatch h), fun h => (nomatch h)⟩, fun _ => rfl⟩
  have hexcl : ∀ (s : Buses T) a s', BusInv s → BusNext rs485 backend s a s' →
      (LocksInTime a ↔ AtMostOne s' ∧ TimedOutLeaves s a s') := by
    intro s a s' hi hn
    refine ⟨fun ha => ⟨(hi.step hn ha).held.atMostOne, hi.timedOutLeaves⟩, ?_⟩
    rintro ⟨hone, -⟩ t rfl
    exact hi.timeout hn hone
  constructor
  · exact h.forall_iff (I := BusInv) (C := fun _ a _ => LocksInTime a)
      (G := fun s a s' => AtMostOne s' ∧ TimedOutLeaves s a s') hexcl
      (fun s a s' hi hn ha => hi.step hn ha) hboot
  · refine h.forall_iff (I := PinInv rs485)
      (C := fun s a _ => LocksInTime a ∧ SendsInTime rs485 s a)
      (G := fun s a s' => (AtMostOne s' ∧ TimedOutLeaves s a s') ∧ DriverEnabled rs485 s') ?_
      (fun s a s' hi hn ha => hi.step hn ha.1 ha.2) ⟨hboot, nofun, nofun⟩
    intro s a s' hi hn
    rw [← hexcl s a s' hi.base hn]
    refine and_congr_right fun ha => ⟨fun hs => (hi.step hn ha hs).driverEnabled, ?_⟩
    rintro hd t p code rfl hp
    by_contra hs
    exact not_driverEnabled hn hp (Bool.not_eq_false _ ▸ hs) hd

/-- A task transfers while another one waits. -/
theorem bus_exclusion_iff_waiting : ∃ s : Buses Bool,
    s.pc true = .transferring .i2cWrite .ok ∧ s.pc false = .waiting .i2cRead ∧ AtMostOne s := by
  have hrun : Run (BusNext (fun _ => false) .freertos) (.boot Bool) _ _ :=
    .cons (.call _ true .i2cWrite rfl)
      (.cons (.lock _ true .i2cWrite rfl rfl rfl)
        (.cons (.call _ false .i2cRead rfl)
          (.cons (.transfer _ true .i2cWrite .ok rfl) (.nil _))))
  have hexcl := (bus_exclusion_iff hrun).1.mp (by simp [LocksInTime])
  exact ⟨_, rfl, rfl, (hexcl _ (List.mem_of_getLast? rfl)).1⟩

/-- A task whose attempt times out is inside beside the holder. -/
theorem timeout_joins_holder : ¬ ∀ tr s,
    Run (BusNext (fun _ => false) .freertos) (.boot Bool) tr s →
      ∀ e ∈ tr, AtMostOne e.2.2 ∧ TimedOutLeaves e.1 e.2.1 e.2.2 := by
  intro h
  have hrun : Run (BusNext (fun _ => false) .freertos) (.boot Bool) _ _ :=
    .cons (.call _ true .i2cWrite rfl)
      (.cons (.lock _ true .i2cWrite rfl rfl rfl)
        (.cons (.call _ false .i2cRead rfl)
          (.cons (.timeout _ false .i2cRead rfl rfl (by decide)) (.nil _))))
  have hone := (h _ _ hrun _ (List.mem_of_getLast? rfl)).1
  exact absurd (hone .i2c true false rfl rfl) (by decide)

end

end IotPlatform
