import Mathlib

/-!
# Bounded queues

A ledger of a first-in first-out queue keeps what was sent, what was received and what waits, and
that the first is the other two together. A ring of cells holds the waiting items in a window that
starts at its tail. Calls in flight are counted by the place they have reached.
-/
namespace IotPlatform.Queues

variable {α : Type*}

structure Ledger (α : Type*) where
  sent : List α
  received : List α
  waiting : List α
  complete : sent = received ++ waiting

def Ledger.empty : Ledger α := ⟨[], [], [], rfl⟩

/-- Sending appends while fewer than `cap` items wait. -/
def Ledger.send (cap : ℕ) (x : α) (l : Ledger α) : Option (Ledger α) :=
  if l.waiting.length < cap then
    some ⟨l.sent ++ [x], l.received, l.waiting ++ [x], by rw [l.complete, List.append_assoc]⟩
  else none

/-- Receiving takes the item that has waited longest. -/
def Ledger.recv (l : Ledger α) : Option (α × Ledger α) :=
  match h : l.waiting with
  | [] => none
  | x :: rest => some (x, ⟨l.sent, l.received ++ [x], rest, by rw [l.complete, h]; simp⟩)

section
variable {cap : ℕ} {x : α} {l l' : Ledger α}

theorem Ledger.send_eq_none : l.send cap x = none ↔ cap ≤ l.waiting.length := by
  unfold Ledger.send
  split_ifs with h
  · simpa using h
  · simpa using h

theorem Ledger.send_eq_some (h : l.send cap x = some l') : l.waiting.length < cap ∧
    l'.sent = l.sent ++ [x] ∧ l'.received = l.received ∧ l'.waiting = l.waiting ++ [x] := by
  unfold Ledger.send at h
  split_ifs at h with hroom
  cases h
  exact ⟨hroom, rfl, rfl, rfl⟩

theorem Ledger.recv_eq_none : l.recv = none ↔ l.waiting = [] := by
  unfold Ledger.recv
  split <;> simp_all

theorem Ledger.recv_eq_some (h : l.recv = some (x, l')) :
    l.waiting = x :: l'.waiting ∧ l'.sent = l.sent ∧ l'.received = l.received ++ [x] := by
  unfold Ledger.recv at h
  split at h
  · simp at h
  · next y rest hw =>
    cases h
    exact ⟨hw, rfl, rfl⟩

theorem Ledger.recv_isSome (h : l.waiting ≠ []) : ∃ x l', l.recv = some (x, l') := by
  obtain ⟨r, hr⟩ := Option.ne_none_iff_exists'.mp (mt Ledger.recv_eq_none.mp h)
  exact ⟨r.1, r.2, hr⟩

end

/-- The `count` cells from `tail` on in a ring of `n` cells. -/
def window (cells : ℕ → α) (n tail count : ℕ) : List α :=
  (List.range count).map fun i => cells ((tail + i) % n)

section
variable {cells : ℕ → α} {n tail count : ℕ}

@[simp] theorem length_window : (window cells n tail count).length = count := by
  simp [window]

/-- Two places of a window are different cells. -/
theorem ring_index_ne {i j : ℕ} (hij : i < j) (hj : j < n) :
    (tail + i) % n ≠ (tail + j) % n := by
  intro h
  have hmod : i ≡ j [MOD n] := Nat.ModEq.add_left_cancel' tail h
  exact hij.ne (hmod.eq_of_lt_of_lt (hij.trans hj) hj)

/-- A write to the cell behind a window that is not full extends it. -/
theorem window_push (cells : ℕ → α) (tail : ℕ) (hroom : count < n) (x : α) :
    window (Function.update cells ((tail + count) % n) x) n tail (count + 1) =
      window cells n tail count ++ [x] := by
  simp only [window, List.range_succ, List.map_append, List.map_singleton, Function.update_self]
  congr 1
  refine List.map_congr_left fun i hi => ?_
  exact Function.update_of_ne (ring_index_ne (List.mem_range.mp hi) hroom) _ _

/-- Reading the first cell of a window leaves the window that starts behind it. -/
theorem window_pop (cells : ℕ → α) (htail : tail < n) (hcount : 0 < count) :
    window cells n tail count =
      cells tail :: window cells n ((tail + 1) % n) (count - 1) := by
  obtain ⟨k, rfl⟩ : ∃ k, count = k + 1 := ⟨count - 1, by omega⟩
  simp only [window, List.range_succ_eq_map, List.map_cons, List.map_map, Nat.add_zero,
    Nat.mod_eq_of_lt htail, Nat.add_sub_cancel]
  congr 1
  refine List.map_congr_left fun i _ => ?_
  rw [Function.comp_apply, Nat.mod_add_mod]
  congr 2
  omega

end

/-- The number of the calls in `A` at a place where `p` holds. -/
def inFlight {C S : Type*} (p : S → Bool) (A : Finset C) (pc : C → S) : ℕ :=
  ∑ c ∈ A, (p (pc c)).toNat

section
variable {C S : Type*} {A : Finset C} {p p' : S → Bool} (pc : C → S) {c : C}

/-- When one call moves, only its own share changes. -/
theorem inFlight_update [DecidableEq C] (hc : c ∈ A) (x : S) :
    inFlight p A (Function.update pc c x) + (p (pc c)).toNat =
      inFlight p A pc + (p x).toNat := by
  have hcomp : (fun c' => (p (Function.update pc c x c')).toNat) =
      Function.update (fun c' => (p (pc c')).toNat) c (p x).toNat := by
    funext c'
    by_cases h : c' = c
    · subst h
      simp
    · simp [Function.update_of_ne h]
  have hsum := Finset.sum_update_of_mem hc (fun c' => (p (pc c')).toNat) (p x).toNat
  have hrest := Finset.add_sum_erase A (fun c' => (p (pc c')).toNat) hc
  simp only [inFlight, hcomp, hsum]
  rw [Finset.sdiff_singleton_eq_erase]
  omega

theorem inFlight_le (h : ∀ x, p x → p' x) : inFlight p A pc ≤ inFlight p' A pc :=
  Finset.sum_le_sum fun c _ => Bool.toNat_le_toNat (h (pc c))

theorem inFlight_lt (h : ∀ x, p x → p' x) (hc : c ∈ A) (hp : p (pc c) = false)
    (hp' : p' (pc c) = true) : inFlight p A pc < inFlight p' A pc := by
  refine Finset.sum_lt_sum (fun c _ => Bool.toNat_le_toNat (h (pc c))) ⟨c, hc, ?_⟩
  simp [hp, hp']

theorem inFlight_pos (hc : c ∈ A) (hp : p (pc c) = true) : 0 < inFlight p A pc :=
  Finset.sum_pos' (fun _ _ => Nat.zero_le _) ⟨c, hc, by simp [hp]⟩

end

end IotPlatform.Queues
