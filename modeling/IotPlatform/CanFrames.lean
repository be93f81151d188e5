import IotPlatform.Executions
import IotPlatform.Sensors

/-!
# CAN frames through the sensor path

The sensor hook hands one byte of the SPI response to the filter as the identifier, and words that
it has scaled already to the decoder.
-/
namespace IotPlatform
open CText CFloat

variable {F : Type} [CFloat F]

/-- The identifiers of the static allow list. -/
abbrev CanId := { id : UInt32 // 0x100 ≤ id ∧ id ≤ 0x7FF }

/-- The SPI response has these words and this byte where the hook reads them. -/
structure Carries (r : SensorReads) (speed rpm : UInt16) (coolant : UInt8) : Prop where
  speed : decodeU16Be (r.rx 2) (r.rx 3) = speed.toUInt32
  rpm : decodeU16Be (r.rx 4) (r.rx 5) = rpm.toUInt32
  coolant : r.rx 6 = coolant

/-- The registers of the gateway after the hook has read a response. -/
def canAfter (msg : IotTelemetryMsg) (r : SensorReads) (d : Device F) : AutoSt :=
  (iotProfileAutomotiveSensor r msg d).2.2.can

/-- Some response with these words is accepted under this identifier. -/
def FrameArrives (msg : IotTelemetryMsg) (d : Device F) (id : CanId) (speed rpm : UInt16)
    (coolant : UInt8) : Prop :=
  ∃ r, Carries r speed rpm coolant ∧ (canAfter msg r d).accepted = 1 ∧
    (canAfter msg r d).lastId = id.1

/-- An accepted frame is scaled once, a rejected one leaves the signals alone. -/
def DecodedOnce (msg : IotTelemetryMsg) (d : Device F) (r : SensorReads) : Prop :=
  let can := canAfter msg r d
  if can.accepted = 1 then
    can.speed = decodeU16Be (r.rx 2) (r.rx 3) % 250 ∧
      can.rpm = 800 + decodeU16Be (r.rx 4) (r.rx 5) % 4000 ∧
      can.coolant = 70 + (r.rx 6).toUInt32 % 40
  else can.speed = d.can.speed ∧ can.rpm = d.can.rpm ∧ can.coolant = d.can.coolant

theorem decodeU16Be_bytes (w : UInt16) :
    decodeU16Be (w >>> 8).toUInt8 w.toUInt8 = w.toUInt32 := by
  have hw := w.toNat_lt
  have hlo : w.toNat % 256 < 2 ^ 8 := Nat.mod_lt _ (by decide)
  apply UInt32.toNat_inj.mp
  simp only [decodeU16Be, UInt32.toNat_or, UInt32.toNat_shiftLeft, UInt8.toNat_toUInt32,
    UInt16.toNat_toUInt8, UInt16.toNat_shiftRight, UInt16.toNat_toUInt32, UInt32.reduceToNat,
    UInt16.reduceToNat, Nat.reduceMod, Nat.shiftRight_eq_div_pow]
  rw [Nat.mod_eq_of_lt (by rw [Nat.shiftLeft_eq]; omega),
    ← Nat.shiftLeft_add_eq_or_of_lt hlo, Nat.shiftLeft_eq]
  omega

/-- Every words and every byte have a response. -/
theorem exists_carries (speed rpm : UInt16) (coolant : UInt8) :
    ∃ r, Carries r speed rpm coolant := by
  let rx : Fin 8 → UInt8 := ![0, 0, (speed >>> 8).toUInt8, speed.toUInt8, (rpm >>> 8).toUInt8,
    rpm.toUInt8, coolant, 0]
  exact ⟨⟨0, false, 0, 0, 0, rx, 0⟩, decodeU16Be_bytes speed, decodeU16Be_bytes rpm, rfl⟩

/-- The identifier that the hook hands over is inside the list that the gateway holds. -/
def ByteAllowed (d : Device F) (r : SensorReads) : Prop :=
  d.can.allowMin ≤ (r.rx 1).toUInt32 ∧ (r.rx 1).toUInt32 ≤ d.can.allowMax

instance (d : Device F) (r : SensorReads) : Decidable (ByteAllowed d r) :=
  inferInstanceAs (Decidable (_ ∧ _))

/-- A response of the allow list. Speed survives the second scaling, the coolant has only one, and
the engine speed is scaled twice. -/
theorem canAfter_allowed {msg : IotTelemetryMsg} {d : Device F} {r : SensorReads}
    (h : ByteAllowed d r) : canAfter msg r d = { d.can with
      lastId := (r.rx 1).toUInt32
      accepted := 1
      speed := decodeU16Be (r.rx 2) (r.rx 3) % 250 % 250
      rpm := 800 + (800 + decodeU16Be (r.rx 4) (r.rx 5) % 4000) % 4000
      coolant := 70 + (r.rx 6).toUInt32 % 40 } := by
  have h' : d.can.allowMin ≤ (r.rx 1).toUInt32 ∧ (r.rx 1).toUInt32 ≤ d.can.allowMax := h
  simp [canAfter, iotProfileAutomotiveSensor, sensorHook, onCan, Handler.at, iotUcAutoOnFrame,
    iotUcAutoFilter, iotUcAutoDecode, h']

theorem canAfter_rejected {msg : IotTelemetryMsg} {d : Device F} {r : SensorReads}
    (h : ¬ ByteAllowed d r) : canAfter msg r d = { d.can with
      lastId := (r.rx 1).toUInt32
      accepted := 0 } := by
  have h' : ¬ (d.can.allowMin ≤ (r.rx 1).toUInt32 ∧ (r.rx 1).toUInt32 ≤ d.can.allowMax) := h
  simp [canAfter, iotProfileAutomotiveSensor, sensorHook, onCan, Handler.at, iotUcAutoOnFrame,
    iotUcAutoFilter, h']

theorem canAfter_accepted_iff {msg : IotTelemetryMsg} {d : Device F} {r : SensorReads} :
    (canAfter msg r d).accepted = 1 ↔ ByteAllowed d r := by
  by_cases h : ByteAllowed d r
  · simp [canAfter_allowed h, h]
  · simp [canAfter_rejected h, h]

theorem canAfter_lastId (msg : IotTelemetryMsg) (d : Device F) (r : SensorReads) :
    (canAfter msg r d).lastId = (r.rx 1).toUInt32 := by
  by_cases h : ByteAllowed d r
  · simp [canAfter_allowed h]
  · simp [canAfter_rejected h]

/-- Adding the offset before the second reduction never comes back to the word scaled once. -/
theorem scaled_twice_ne (w : UInt32) : 800 + (800 + w % 4000) % 4000 ≠ 800 + w % 4000 := by
  intro h
  have h' := congrArg UInt32.toNat h
  simp only [UInt32.toNat_add, UInt32.toNat_mod, UInt32.reduceToNat] at h'
  omega

/-- Whatever the allow list, an accepted frame is not decoded once. -/
theorem decodedOnce_iff (msg : IotTelemetryMsg) (d : Device F) (r : SensorReads) :
    DecodedOnce msg d r ↔ ¬ ByteAllowed d r := by
  by_cases h : ByteAllowed d r
  · simp only [DecodedOnce, canAfter_allowed h, h, if_true, not_true, iff_false]
    exact fun ⟨_, hrpm, _⟩ => scaled_twice_ne _ hrpm
  · simp [DecodedOnce, canAfter_rejected h, h]

/-- The allow list is the static one. -/
def AllowStatic (d : Device F) : Prop := d.can.allowMin = 0x100 ∧ d.can.allowMax = 0x7FF

theorem iotUcRun_allow (P : Platform) (id : IotUcId) (inp : IotUcIn F) (d : Device F) :
    (iotUcRun P id inp d).st.can.allowMin = d.can.allowMin ∧
      (iotUcRun P id inp d).st.can.allowMax = d.can.allowMax := by
  cases id <;> exact ⟨rfl, rfl⟩

theorem sample_allow {op : Op F} (profile : Profile) (d : Device F) (h : op.IsSample) :
    (op.apply profile d).can.allowMin = d.can.allowMin ∧
      (op.apply profile d).can.allowMax = d.can.allowMax := by
  cases op with
  | autoFrame canId speed rpm coolant =>
    simp only [Op.apply, sampled, onCan, Handler.at, iotUcAutoOnFrame]
    split_ifs <;> exact ⟨rfl, rfl⟩
  | command | run | runJson | otaProgress | diag => exact h.elim
  | _ => exact ⟨rfl, rfl⟩

theorem after_allowStatic (P : Platform) (profile : Profile) (wdtReset : Bool)
    (nvs : Option NvsImage) (ops : List (Op F)) :
    AllowStatic ((appMain P profile wdtReset nvs).after profile ops) := by
  refine Device.after_keeps (fun op d h => ?_) ops ⟨rfl, rfl⟩
  refine op.apply_keeps (fun P id inp d h => ?_) (fun op d hs h => ?_) (fun _ _ h => h) h
  · obtain ⟨hmin, hmax⟩ := iotUcRun_allow P id inp d
    exact ⟨hmin.trans h.1, hmax.trans h.2⟩
  · obtain ⟨hmin, hmax⟩ := sample_allow profile d hs
    exact ⟨hmin.trans h.1, hmax.trans h.2⟩

omit [CFloat F] in
/-- One byte is below every identifier of the static list. -/
theorem AllowStatic.not_byteAllowed {d : Device F} (h : AllowStatic d) (r : SensorReads) :
    ¬ ByteAllowed d r := by
  rintro ⟨hmin, -⟩
  rw [h.1, UInt32.le_iff_toNat_le] at hmin
  have hlt := (r.rx 1).toNat_lt
  simp only [UInt8.toNat_toUInt32, UInt32.reduceToNat] at hmin
  omega

/-- In every state of a run all words have a response, but none is accepted under an identifier of
the allow list, and every response leaves the signals alone. On whatever list, an accepted frame
would not be decoded once. -/
theorem no_frame_arrives (P : Platform) (profile : Profile) (wdtReset : Bool)
    (nvs : Option NvsImage) (ops : List (Op F)) (msg : IotTelemetryMsg) :
    (∀ id speed rpm coolant, (∃ r, Carries r speed rpm coolant) ∧ ¬ FrameArrives msg
      ((appMain P profile wdtReset nvs : Device F).after profile ops) id speed rpm coolant) ∧
    (∀ r, DecodedOnce msg ((appMain P profile wdtReset nvs : Device F).after profile ops) r) ∧
    ∀ (d : Device F) r, DecodedOnce msg d r ↔ ¬ ByteAllowed d r := by
  have hstatic := after_allowStatic P profile wdtReset nvs ops
  refine ⟨?_, fun r => (decodedOnce_iff msg _ r).mpr (hstatic.not_byteAllowed r),
    decodedOnce_iff msg⟩
  refine fun id speed rpm coolant => ⟨exists_carries speed rpm coolant, ?_⟩
  rintro ⟨r, -, hacc, -⟩
  exact hstatic.not_byteAllowed r (canAfter_accepted_iff.mp hacc)

/-- The first identifier of the list does not arrive after boot. -/
theorem identifier_0x100_lost : ¬ ∀ (ops : List (Op ℚ)) (msg : IotTelemetryMsg) (id : CanId)
    (speed rpm : UInt16) (coolant : UInt8), FrameArrives msg
      ((appMain hostPlatform .automotive false none).after .automotive ops) id speed rpm
        coolant := by
  intro h
  obtain ⟨r, -, -, hid⟩ := h [] (.stamped 1 0) ⟨0x100, by decide, by decide⟩ 0 0 0
  rw [canAfter_lastId] at hid
  have hlt := (r.rx 1).toNat_lt
  have hbyte := congrArg UInt32.toNat hid
  simp only [UInt8.toNat_toUInt32, UInt32.reduceToNat] at hbyte
  omega

end IotPlatform
