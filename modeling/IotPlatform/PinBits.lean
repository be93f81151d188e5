import IotPlatform.Device
import IotPlatform.Simulation

/-!
# Pins as bits

The host build of `iot_gpio.c` keeps the driven levels in the bits of `s_out_shadow`. To its callers
that word is a map from pins to levels, as it is to the use cases.
-/
namespace IotPlatform
open Runs

/-- `s_init` and `s_out_shadow`. -/
structure GpioDrv where
  init : Bool
  shadow : UInt32

/-- `1UL << pin`, where the `unsigned long` of the host has `w` bits: 32 on Win32, 64 on LP64. -/
def pinMask (w pin : ℕ) : BitVec w := 1#w <<< pin

/-- A call of the driver; `iot_gpio_init` with the result of its `iot_mutex_create`. -/
inductive GpioCall
  | init (mutex : IotErr)
  | deinit
  | config (pin : ℤ)
  | write (pin : ℤ) (level : Bool)
  | read (pin : ℤ)
  | toggle (pin : ℤ)

namespace GpioDrv

def iotGpioInit (mutex : IotErr) (s : GpioDrv) : IotErr × GpioDrv :=
  if s.init then (.alreadyInit, s)
  else if mutex ≠ .ok then (mutex, s)
  else (.ok, { s with init := true })

def iotGpioDeinit (s : GpioDrv) : IotErr × GpioDrv :=
  if !s.init then (.notInit, s) else (.ok, { s with init := false })

def iotGpioConfig (pin : ℤ) (s : GpioDrv) : IotErr :=
  if !s.init ∨ pin < 0 ∨ 21 < pin then .invalidArg else .ok

variable (w : ℕ)

def iotGpioWrite (pin : ℤ) (level : Bool) (s : GpioDrv) : IotErr × GpioDrv :=
  if !s.init ∨ pin < 0 then (.invalidArg, s)
  else
    let word := s.shadow.toBitVec.setWidth w
    let word := if level then word ||| pinMask w pin.toNat else word &&& ~~~pinMask w pin.toNat
    (.ok, { s with shadow := ⟨word.setWidth 32⟩ })

/-- The code, and the level if one is stored. -/
def iotGpioRead (pin : ℤ) (s : GpioDrv) : IotErr × Option Bool :=
  if !s.init ∨ pin < 0 then (.invalidArg, none)
  else (.ok, some (s.shadow.toBitVec.setWidth w &&& pinMask w pin.toNat ≠ 0#w))

def iotGpioToggle (pin : ℤ) (s : GpioDrv) : IotErr × GpioDrv :=
  match s.iotGpioRead w pin with
  | (.ok, cur) => s.iotGpioWrite w pin (!cur.getD false)
  | (e, _) => (e, s)

/-- What a call returns, and what it leaves. -/
def call (s : GpioDrv) : GpioCall → (IotErr × Option Bool) × GpioDrv
  | .init mutex => (((s.iotGpioInit mutex).1, none), (s.iotGpioInit mutex).2)
  | .deinit => ((s.iotGpioDeinit.1, none), s.iotGpioDeinit.2)
  | .config pin => ((s.iotGpioConfig pin, none), s)
  | .write pin level => (((s.iotGpioWrite w pin level).1, none), (s.iotGpioWrite w pin level).2)
  | .read pin => (s.iotGpioRead w pin, s)
  | .toggle pin => (((s.iotGpioToggle w pin).1, none), (s.iotGpioToggle w pin).2)

end GpioDrv

/-- What a write does to the map: a pin that the word has no bit for stays low. -/
def Gpio.drive (pin : ℤ) (level : Bool) (g : Gpio) : Gpio :=
  if 0 ≤ pin ∧ pin < 32 then (IotPlatform.iotGpioWrite pin.toNat level g).2 else g

/-- The driver as a map of pins. -/
def Gpio.call (g : Gpio) : GpioCall → (IotErr × Option Bool) × Gpio
  | .init mutex =>
    if g.init then ((.alreadyInit, none), g)
    else if mutex ≠ .ok then ((mutex, none), g)
    else ((.ok, none), { g with init := true })
  | .deinit => if g.init then ((.ok, none), { g with init := false }) else ((.notInit, none), g)
  | .config pin => ((if g.init ∧ 0 ≤ pin ∧ pin ≤ 21 then .ok else .invalidArg, none), g)
  | .write pin level => ((if g.init ∧ 0 ≤ pin then .ok else .invalidArg, none), g.drive pin level)
  | .read pin =>
    (if g.init ∧ 0 ≤ pin then (.ok, some (g.level pin.toNat)) else (.invalidArg, none), g)
  | .toggle pin =>
    ((if g.init ∧ 0 ≤ pin then .ok else .invalidArg, none), g.drive pin (!g.level pin.toNat))

/-- The map that a word stands for. -/
def GpioDrv.pins (s : GpioDrv) : Gpio := ⟨s.init, fun pin => s.shadow.toBitVec.getLsbD pin⟩

section
variable {w : ℕ} (x : BitVec 32) {pin : ℕ} (h : pin < w)
include h

theorem getLsbD_pinMask (q : ℕ) : (pinMask w pin).getLsbD q = decide (q = pin) := by
  have hpin : (q < w ∧ ¬ q < pin ∧ 0 < w ∧ q - pin = 0) ↔ q = pin := by omega
  rw [pinMask, BitVec.getLsbD_shiftLeft, BitVec.getLsbD_one, Bool.eq_iff_iff]
  simpa [and_assoc] using hpin

theorem getLsbD_set (y : BitVec w) (level : Bool) {q : ℕ} (hq : q < w) :
    (if level then y ||| pinMask w pin else y &&& ~~~pinMask w pin).getLsbD q =
      if q = pin then level else y.getLsbD q := by
  cases level with
  | false =>
    simp only [Bool.false_eq_true, if_false, BitVec.getLsbD_and, BitVec.getLsbD_not,
      getLsbD_pinMask h]
    by_cases hpin : q = pin <;> simp [hpin, hq]
  | true =>
    simp only [if_true, BitVec.getLsbD_or, getLsbD_pinMask h]
    by_cases hpin : q = pin <;> simp [hpin]

/-- A pin that the word has no bit for leaves it alone. -/
theorem getLsbD_drive (hw : 32 ≤ w) (level : Bool) (q : ℕ) :
    ((if level then x.setWidth w ||| pinMask w pin
      else x.setWidth w &&& ~~~pinMask w pin).setWidth 32).getLsbD q =
        if q = pin ∧ pin < 32 then level else x.getLsbD q := by
  by_cases hq : q < 32
  · have hqw : q < w := hq.trans_le hw
    have hpin : (q = pin ∧ pin < 32) ↔ q = pin := by omega
    simp only [BitVec.getLsbD_setWidth, getLsbD_set h _ level hqw, hq, hqw, hpin, decide_true,
      Bool.true_and]
  · have hpin : ¬ (q = pin ∧ pin < 32) := by omega
    rw [if_neg hpin, BitVec.getLsbD_of_ge _ _ (not_lt.mp hq),
      BitVec.getLsbD_of_ge _ _ (not_lt.mp hq)]

theorem read_bit : decide (x.setWidth w &&& pinMask w pin ≠ 0#w) = x.getLsbD pin := by
  have hbit : ∀ q, (x.setWidth w &&& pinMask w pin).getLsbD q =
      (decide (q = pin) && x.getLsbD pin) := by
    intro q
    rw [BitVec.getLsbD_and, getLsbD_pinMask h, BitVec.getLsbD_setWidth]
    by_cases hq : q = pin
    · simp [hq, h]
    · simp [hq]
  cases hx : x.getLsbD pin with
  | false =>
    have hzero : x.setWidth w &&& pinMask w pin = 0#w :=
      BitVec.eq_of_getLsbD_eq fun q _ => by simp [hbit, hx]
    simp [hzero]
  | true =>
    refine decide_eq_true fun hzero => ?_
    have hset := hbit pin
    rw [hzero, hx] at hset
    simp at hset

end

/-- A pin for which the shifts of the driver are defined. -/
def GpioCall.Defined (w : ℕ) : GpioCall → Prop
  | .write pin _ | .read pin | .toggle pin => pin < w
  | .init _ | .deinit | .config _ => True

section
variable (s : GpioDrv) {w : ℕ} (hw : 32 ≤ w) {pin : ℤ} (h : pin < w)

include hw h in
theorem GpioDrv.write_pins (level : Bool) :
    (s.iotGpioWrite w pin level).1 = (if s.init ∧ 0 ≤ pin then .ok else .invalidArg) ∧
      (s.iotGpioWrite w pin level).2.pins = s.pins.drive pin level := by
  cases hinit : s.init with
  | false => simp [GpioDrv.iotGpioWrite, GpioDrv.pins, Gpio.drive, IotPlatform.iotGpioWrite, hinit]
  | true =>
    by_cases hneg : pin < 0
    · have hout : ¬ 0 ≤ pin := by omega
      simp [GpioDrv.iotGpioWrite, Gpio.drive, hneg, hout]
    · obtain ⟨n, rfl⟩ := Int.eq_ofNat_of_zero_le (not_lt.mp hneg)
      have hn : n < w := by omega
      have hok : ¬ ((!s.init) = true ∨ (n : ℤ) < 0) := by simp [hinit]
      rw [GpioDrv.iotGpioWrite, if_neg hok]
      refine ⟨by simp, ?_⟩
      simp only [GpioDrv.pins, Int.toNat_natCast, getLsbD_drive s.shadow.toBitVec hn hw, hinit,
        Gpio.drive]
      by_cases hbit : n < 32
      · have hpin : (0 : ℤ) ≤ n ∧ (n : ℤ) < 32 := by omega
        simp only [hpin, hbit, IotPlatform.iotGpioWrite, and_true, and_self, if_true, Bool.not_true,
          Bool.false_eq_true, if_false, Gpio.mk.injEq, true_and]
        funext q
        rw [Function.update_apply]
      · have hpin : ¬ (n : ℤ) < 32 := by omega
        simp [hpin, hbit]

include h in
theorem GpioDrv.read_pins : s.iotGpioRead w pin =
    if s.init ∧ 0 ≤ pin then (.ok, some (s.pins.level pin.toNat)) else (.invalidArg, none) := by
  by_cases hok : s.init = true ∧ 0 ≤ pin
  · have hno : ¬ ((!s.init) = true ∨ pin < 0) := by
      rintro (hi | hneg)
      · simp [hok.1] at hi
      · omega
    rw [GpioDrv.iotGpioRead, if_neg hno, if_pos hok, read_bit s.shadow.toBitVec (by omega)]
    rfl
  · have hno : (!s.init) = true ∨ pin < 0 := by
      by_cases hi : s.init = true
      · exact Or.inr (not_le.mp fun hpos => hok ⟨hi, hpos⟩)
      · exact Or.inl (by simpa using hi)
    rw [GpioDrv.iotGpioRead, if_pos hno, if_neg hok]

include hw h in
theorem GpioDrv.toggle_pins :
    (s.iotGpioToggle w pin).1 = (if s.init ∧ 0 ≤ pin then .ok else .invalidArg) ∧
      (s.iotGpioToggle w pin).2.pins = s.pins.drive pin (!s.pins.level pin.toNat) := by
  by_cases hok : s.init = true ∧ 0 ≤ pin
  · have hread := s.read_pins h
    rw [if_pos hok] at hread
    rw [GpioDrv.iotGpioToggle, hread]
    exact s.write_pins hw h _
  · have hread := s.read_pins h
    rw [if_neg hok] at hread
    rw [GpioDrv.iotGpioToggle, hread, if_neg hok]
    refine ⟨rfl, ?_⟩
    by_cases hpin : 0 ≤ pin ∧ pin < 32
    · have hinit : s.init = false := by
        by_contra hi
        exact hok ⟨Bool.not_eq_false _ ▸ hi, hpin.1⟩
      simp [Gpio.drive, IotPlatform.iotGpioWrite, GpioDrv.pins, hinit]
    · simp [Gpio.drive, hpin]

end

/-- A call answers what the map answers, and leaves the word of what the map becomes. -/
theorem GpioDrv.call_pins (s : GpioDrv) {w : ℕ} (hw : 32 ≤ w) {c : GpioCall} (hc : c.Defined w) :
    s.pins.call c = ((s.call w c).1, (s.call w c).2.pins) := by
  cases c with
  | init mutex =>
    cases hi : s.init <;> by_cases hm : mutex = .ok <;>
      simp [Gpio.call, GpioDrv.call, GpioDrv.iotGpioInit, GpioDrv.pins, hi, hm]
  | deinit =>
    cases hi : s.init <;> simp [Gpio.call, GpioDrv.call, GpioDrv.iotGpioDeinit, GpioDrv.pins, hi]
  | config pin =>
    have hcode : (s.iotGpioConfig pin) =
        if s.init ∧ 0 ≤ pin ∧ pin ≤ 21 then .ok else .invalidArg := by
      unfold GpioDrv.iotGpioConfig
      cases s.init with
      | false => simp
      | true => split_ifs <;> first | rfl | (simp at *; omega)
    simp only [Gpio.call, GpioDrv.call, hcode]
    rfl
  | write pin level =>
    obtain ⟨hcode, hleft⟩ := s.write_pins hw hc level
    simp only [Gpio.call, GpioDrv.call, hcode, hleft]
    rfl
  | read pin =>
    simp only [Gpio.call, GpioDrv.call, s.read_pins hc]
    rfl
  | toggle pin =>
    obtain ⟨hcode, hleft⟩ := s.toggle_pins hw hc
    simp only [Gpio.call, GpioDrv.call, hcode, hleft]
    rfl

/-- The driver as it is before its first call. -/
def GpioDrv.static : GpioDrv := ⟨false, 0⟩

/-- Over any calls from start on, with pins below the width of `unsigned long`, the bits of the word
answer as a map of pins does: a read gives what was last driven on its own pin, and pins from 32 on
stay low. -/
theorem gpio_answers_as_map {w : ℕ} (hw : 32 ≤ w) {calls : List GpioCall}
    (h : ∀ c ∈ calls, c.Defined w) :
    answers (GpioDrv.call w) .static calls = answers Gpio.call ⟨false, fun _ => false⟩ calls := by
  have hstart : GpioDrv.static.pins = ⟨false, fun _ => false⟩ := by
    simp [GpioDrv.pins, GpioDrv.static]
  rw [answers_eq (fun s _ hc => s.call_pins hw hc) h, hstart]

/-- On a Win32 host the LED is switched on and toggled, and the pin beside it stays as it was. -/
theorem led_toggles : answers (GpioDrv.call 32) .static
    [.init .ok, .write 8 true, .write 9 true, .toggle 8, .read 8, .read 9] =
      [(.ok, none), (.ok, none), (.ok, none), (.ok, none), (.ok, some false), (.ok, some true)] :=
  (gpio_answers_as_map le_rfl (by simp [GpioCall.Defined])).trans (by decide)

end IotPlatform
