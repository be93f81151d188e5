import IotPlatform.Firmware

/-!
# The result record and the returned code

A handler fills in the output record and returns a code of its own. The record names the use case
and repeats the code, except in three handlers.
-/
namespace IotPlatform
open CText CFloat

variable {F : Type} [CFloat F]

/-- The record repeats the returned code and names the use case, or the refusal of `ev.start`. -/
def Ret.Reports {σ : Type} (id : IotUcId) (r : Ret F σ) : Prop :=
  r.out.err = r.err ∧
    (r.out.id = id ∨ id = .evStartReq ∧ r.err = .denied ∧ r.out.id = .evRejectContactor)

/-- The calls whose record agrees with the returned code. -/
def ReportsTruly (id : IotUcId) (inp : IotUcIn F) (d : Device F) : Prop :=
  match id with
  | .pmHealth => False
  | .autoFilter => d.can.allowMin ≤ inp.u 0 ∧ inp.u 0 ≤ d.can.allowMax
  | .agriPumpOn => d.ag.inhibit = false
  | _ => True

omit [CFloat F] in
theorem Ret.Reports.ok {σ : Type} {id : IotUcId} {r : Ret F σ} (herr : r.out.err = r.err)
    (hid : r.out.id = id) : r.Reports id :=
  ⟨herr, Or.inl hid⟩

section
variable (P : Platform) (inp : IotUcIn F) (d : Device F)

theorem pmHealth_not_reports : ¬ (iotUcRun P .pmHealth inp d).Reports .pmHealth := by
  rintro ⟨-, hid | ⟨hid, -⟩⟩
  · have hid' : IotUcId.pmFeatures = .pmHealth := hid
    cases hid'
  · cases hid

theorem autoFilter_reports_iff : (iotUcRun P .autoFilter inp d).Reports .autoFilter ↔
    d.can.allowMin ≤ inp.u 0 ∧ inp.u 0 ≤ d.can.allowMax := by
  by_cases hin : d.can.allowMin ≤ inp.u 0 ∧ inp.u 0 ≤ d.can.allowMax
  · have herr : (iotUcRun P .autoFilter inp d).err = .ok := by
      simp [iotUcRun, entryFn, onCan, Handler.at, iotUcAutoFilter, hin]
    exact iff_of_true (.ok herr.symm rfl) hin
  · have herr : (iotUcRun P .autoFilter inp d).err = .denied := by
      simp [iotUcRun, entryFn, onCan, Handler.at, iotUcAutoFilter, hin]
    refine iff_of_false (fun h => ?_) hin
    -- the record was filled in as for an accepted frame
    have hout : IotErr.ok = .denied := h.1.trans herr
    cases hout

theorem agriPumpOn_reports_iff :
    (iotUcRun P .agriPumpOn inp d).Reports .agriPumpOn ↔ d.ag.inhibit = false := by
  have herr : (iotUcRun P .agriPumpOn inp d).err = if d.ag.inhibit then .denied else .ok := rfl
  cases hi : d.ag.inhibit with
  | false =>
    rw [hi] at herr
    exact iff_of_true (.ok herr.symm rfl) rfl
  | true =>
    rw [hi] at herr
    refine iff_of_false (fun h => ?_) (by decide)
    have hout : IotErr.ok = .denied := h.1.trans herr
    cases hout

theorem evStart_reports : (iotUcRun P .evStartReq inp d).Reports .evStartReq := by
  by_cases hm : mentionsContactor inp = true
  · simp only [iotUcRun, entryFn, onEv, Handler.at, iotUcEvStart, if_pos hm]
    exact ⟨rfl, Or.inr ⟨rfl, rfl, rfl⟩⟩
  · simp only [iotUcRun, entryFn, onEv, Handler.at, iotUcEvStart, if_neg hm]
    exact .ok rfl rfl

theorem getDiag_reports : (iotUcRun P .pltGetDiag inp d).Reports .pltGetDiag := by
  simp only [iotUcRun, entryFn, onSys, Handler.at, iotUcPltGetDiag]
  exact .ok rfl rfl

/-- The handlers that refuse a request refuse it in their own name. -/
theorem refusing_reports {id : IotUcId} (hid : id ∈ [IotUcId.pltSetSampleMs, .pltSetCloud,
    .pltProvision, .pltOta, .pltSetLogLevel, .energyCalibrate, .energyPf, .waterValveOpen,
    .waterSetK, .trkSleep]) : (iotUcRun P id inp d).Reports id := by
  simp only [List.mem_cons, List.not_mem_nil, or_false] at hid
  rcases hid with rfl | rfl | rfl | rfl | rfl | rfl | rfl | rfl | rfl | rfl
  · simp only [iotUcRun, entryFn, onSys, Handler.at, iotUcPltSetSampleMs]
    split_ifs <;> exact .ok rfl rfl
  · simp only [iotUcRun, entryFn, onSys, Handler.at, iotUcPltSetCloud]
    split_ifs <;> exact .ok rfl rfl
  · simp only [iotUcRun, entryFn, onSys, Handler.at, iotUcPltProvision]
    split_ifs <;> exact .ok rfl rfl
  · simp only [iotUcRun, entryFn, onSys, Handler.at, iotUcPltOta]
    split <;> exact .ok rfl rfl
  · simp only [iotUcRun, entryFn, onSys, Handler.at, iotUcPltSetLogLevel]
    split_ifs <;> exact .ok rfl rfl
  · simp only [iotUcRun, entryFn, onEnergy, Handler.at, iotUcEnergyCalibrate]
    split_ifs <;> exact .ok rfl rfl
  · simp only [iotUcRun, entryFn, onEnergy, Handler.at, iotUcEnergyPf]
    split_ifs <;> exact .ok rfl rfl
  · simp only [iotUcRun, entryFn, onWater, Handler.at, iotUcWaterValveOpen]
    split_ifs <;> exact .ok rfl rfl
  · simp only [iotUcRun, entryFn, onWater, Handler.at, iotUcWaterSetK]
    split_ifs <;> exact .ok rfl rfl
  · simp only [iotUcRun, entryFn, onTr, Handler.at, iotUcTrkSleep]
    split_ifs <;> exact .ok rfl rfl

theorem other_reports {id : IotUcId} (hid : id ≠ .pmHealth ∧ id ≠ .autoFilter ∧ id ≠ .agriPumpOn) :
    (iotUcRun P id inp d).Reports id := by
  cases id
  case pmHealth | autoFilter | agriPumpOn => simp at hid
  case evStartReq => exact evStart_reports P inp d
  case pltGetDiag => exact getDiag_reports P inp d
  case pltSetSampleMs | pltSetCloud | pltProvision | pltOta | pltSetLogLevel | energyCalibrate |
      energyPf | waterValveOpen | waterSetK | trkSleep =>
    exact refusing_reports P inp d (by decide)
  all_goals exact .ok rfl rfl

/-- The record of a use case agrees with the returned code, exactly when it is neither
`predictive.health`, nor a frame that the filter denies, nor a start of the inhibited pump. -/
theorem iotUcRun_reports_iff (id : IotUcId) :
    (iotUcRun P id inp d).Reports id ↔ ReportsTruly id inp d := by
  cases id
  case pmHealth => exact iff_of_false (pmHealth_not_reports P inp d) not_false
  case autoFilter => exact autoFilter_reports_iff P inp d
  case agriPumpOn => exact agriPumpOn_reports_iff P inp d
  all_goals exact iff_of_true (other_reports P inp d (by decide)) trivial

end

/-- A fresh device denies the frame 0 and records it as accepted. -/
theorem denied_frame_reported_ok : ¬ ∀ d : Device ℚ, Reachable .automotive d →
    (iotUcRun hostPlatform .autoFilter .zero d).Reports .autoFilter := by
  intro h
  obtain ⟨herr, -⟩ := h _ (.boot hostPlatform false none)
  revert herr
  decide +kernel

end IotPlatform
