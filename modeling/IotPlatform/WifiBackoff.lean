import IotPlatform.Links
import IotPlatform.Runs

/-!
# The reconnect backoff

The handler doubles `s_backoff_ms` while it is below 30 s, which takes it past 30 s, and clamps the
pause it takes to 50 ms whatever the backoff.
-/
namespace IotPlatform
open CText Runs

/-- The module with the event group, and the reconnect attempts since the last association. -/
abbrev Station := (WifiSt × UInt32) × ℕ

def attemptsAfter : WifiEvent → ℕ → ℕ
  | .staConnected, _ => 0
  | .staDisconnected, k => k + 1
  | _, k => k

def stationStep (s : Station) (e : WifiEvent) : Station := (wifiEvent e s.1, attemptsAfter e s.2)

/-- The pause before attempt `n`, counted from 1. -/
def backoffPause (n : ℕ) : ℕ := min (1000 * 2 ^ (n - 1)) 30000

/-- The register is inside its range. -/
def BackoffInRange (s : Station) : Prop := 1000 ≤ s.1.1.backoffMs ∧ s.1.1.backoffMs ≤ 30000

/-- A reconnect attempt pauses by its number. -/
def PausesBackOff (s : Station) (e : WifiEvent) (s' : Station) : Prop :=
  e = .staDisconnected →
    s'.1.1.pauses = s.1.1.pauses ++ [UInt32.ofNat (backoffPause s'.2)]

theorem wifiEvent_backoff (e : WifiEvent) (r : WifiSt × UInt32) :
    (wifiEvent e r).1.backoffMs = match e with
      | .staConnected => 1000
      | .staDisconnected =>
        if r.1.backoffMs < 30000 then r.1.backoffMs * 2 else r.1.backoffMs
      | _ => r.1.backoffMs := by
  cases e <;> rfl

theorem wifiEvent_disconnected_pauses (r : WifiSt × UInt32) :
    (wifiEvent .staDisconnected r).1.pauses =
      r.1.pauses ++ [if 50 < r.1.backoffMs then 50 else r.1.backoffMs] := rfl

/-- No attempt has a pause that the clamp lets through. -/
theorem clamped_pause_ne (n : ℕ) (backoffMs : UInt32) :
    (if 50 < backoffMs then 50 else backoffMs) ≠ UInt32.ofNat (backoffPause n) := by
  have hpow := Nat.one_le_two_pow (n := n - 1)
  have hpause : (UInt32.ofNat (backoffPause n)).toNat = backoffPause n := by
    rw [UInt32.toNat_ofNat', backoffPause]
    omega
  intro h
  have h' := congrArg UInt32.toNat h
  rw [hpause, backoffPause] at h'
  split_ifs at h' with hlt
  · simp only [UInt32.reduceToNat] at h'
    omega
  · have hle := UInt32.not_lt.mp hlt
    simp only [UInt32.le_iff_toNat_le, UInt32.reduceToNat] at hle
    omega

theorem pausesBackOff_iff {s : Station} {e : WifiEvent} :
    PausesBackOff s e (stationStep s e) ↔ e ≠ .staDisconnected := by
  refine ⟨fun h he => ?_, fun h he => absurd he h⟩
  subst he
  have hpause := h rfl
  simp only [stationStep, wifiEvent_disconnected_pauses, List.append_cancel_left_eq,
    List.cons.injEq, and_true] at hpause
  exact clamped_pause_ne _ _ hpause

/-- The register has doubled with every attempt, up to 32 s. -/
def Doubled (s : Station) : Prop := s.1.1.backoffMs.toNat = min (1000 * 2 ^ s.2) 32000

theorem doubled_succ (k : ℕ) :
    (if min (1000 * 2 ^ k) 32000 < 30000 then min (1000 * 2 ^ k) 32000 * 2
      else min (1000 * 2 ^ k) 32000) = min (1000 * 2 ^ (k + 1)) 32000 := by
  rw [pow_succ]
  rcases Nat.lt_or_ge k 5 with hk | hk
  · interval_cases k <;> rfl
  · have hpow : 2 ^ 5 ≤ 2 ^ k := Nat.pow_le_pow_right (by decide) hk
    split_ifs <;> omega

theorem Doubled.step {s : Station} (h : Doubled s) (e : WifiEvent) : Doubled (stationStep s e) := by
  unfold Doubled at h ⊢
  simp only [stationStep, wifiEvent_backoff]
  cases e with
  | staConnected => rfl
  | staDisconnected =>
    simp only [attemptsAfter]
    rw [← doubled_succ, ← h]
    simp only [UInt32.lt_iff_toNat_lt, UInt32.reduceToNat]
    split_ifs with hlt
    · simp only [UInt32.toNat_mul, UInt32.reduceToNat]
      omega
    · rfl
  | _ => exact h

theorem Doubled.inRange_iff {s : Station} (h : Doubled s) : BackoffInRange s ↔ s.2 < 5 := by
  unfold Doubled at h
  simp only [BackoffInRange, UInt32.le_iff_toNat_le, h, UInt32.reduceToNat]
  rcases Nat.lt_or_ge s.2 5 with hk | hk
  · have hcases : s.2 = 0 ∨ s.2 = 1 ∨ s.2 = 2 ∨ s.2 = 3 ∨ s.2 = 4 := by omega
    rcases hcases with hk' | hk' | hk' | hk' | hk' <;> simp [hk']
  · have hpow : 2 ^ 5 ≤ 2 ^ s.2 := Nat.pow_le_pow_right (by decide) hk
    omega

/-- Along every sequence of events the register stays in its range exactly when there are never
five attempts since an association, and with the pauses of the backoff exactly when there is no
attempt at all. -/
theorem wifi_backoff_iff (evt : UInt32) (events : List WifiEvent) :
    let tr := trace stationStep ((WifiSt.init, evt), 0) events
    ((∀ e ∈ tr, e.2.2.2 < 5) ↔ ∀ e ∈ tr, BackoffInRange e.1 ∧ BackoffInRange e.2.2) ∧
    ((∀ e ∈ tr, e.2.1 ≠ .staDisconnected) ↔
      ∀ e ∈ tr, (BackoffInRange e.1 ∧ BackoffInRange e.2.2) ∧ PausesBackOff e.1 e.2.1 e.2.2) := by
  intro tr
  have hrun := run_trace stationStep ((WifiSt.init, evt), 0) events
  constructor
  · refine hrun.forall_iff (I := fun s => Doubled s ∧ s.2 < 5) (C := fun _ _ s' => s'.2 < 5)
      (G := fun s _ s' => BackoffInRange s ∧ BackoffInRange s') ?_ ?_
      ⟨rfl, Nat.zero_lt_succ 4⟩
    · rintro s e s' ⟨hd, hk⟩ rfl
      rw [(hd.step e).inRange_iff, and_iff_right (hd.inRange_iff.mpr hk)]
    · rintro s e s' ⟨hd, -⟩ rfl hk
      exact ⟨hd.step e, hk⟩
  · refine hrun.forall_iff (I := fun s => Doubled s ∧ s.2 = 0)
      (C := fun _ e _ => e ≠ .staDisconnected)
      (G := fun s e s' => (BackoffInRange s ∧ BackoffInRange s') ∧ PausesBackOff s e s') ?_ ?_
      ⟨rfl, rfl⟩
    · rintro s e s' ⟨hd, hk⟩ rfl
      rw [pausesBackOff_iff]
      refine ⟨fun he => ⟨⟨hd.inRange_iff.mpr (by omega), ?_⟩, he⟩, fun h => h.2⟩
      have hk' : (stationStep s e).2 ≤ s.2 := by
        cases e with
        | staDisconnected => exact absurd rfl he
        | staConnected => exact Nat.zero_le _
        | _ => exact Nat.le_refl _
      exact (hd.step e).inRange_iff.mpr (by omega)
    · rintro s e s' ⟨hd, hk⟩ rfl he
      refine ⟨hd.step e, ?_⟩
      cases e with
      | staDisconnected => exact absurd rfl he
      | staConnected => rfl
      | _ => exact hk

/-- Five disconnections in a row leave the register at 32 s. -/
theorem backoff_passes_cap : ¬ ∀ events : List WifiEvent,
    ∀ e ∈ trace stationStep ((WifiSt.init, 0), 0) events,
      (BackoffInRange e.1 ∧ BackoffInRange e.2.2) ∧ PausesBackOff e.1 e.2.1 e.2.2 := by
  intro h
  have hlast := (((h (List.replicate 5 .staDisconnected)) _ (List.mem_of_getLast? rfl)).1).2.2
  revert hlast
  decide

end IotPlatform
