import Mathlib

/-!
# Runs of a transition system

A run keeps its steps as triples of state, action and next state. The rules say when a condition
on the steps of a run carries an invariant along it, and when it is equivalent to a property of
every step.
-/
namespace IotPlatform.Runs

variable {σ α : Type*}

/-- A run of `R` from one state to another, with its steps. -/
inductive Run (R : σ → α → σ → Prop) : σ → List (σ × α × σ) → σ → Prop
  | nil (s : σ) : Run R s [] s
  | cons {s s' s'' : σ} {a : α} {tr : List (σ × α × σ)} :
      R s a s' → Run R s' tr s'' → Run R s ((s, a, s') :: tr) s''

/-- The steps of a list of actions when each action has one outcome. -/
def trace (f : σ → α → σ) (s : σ) : List α → List (σ × α × σ)
  | [] => []
  | a :: as => (s, a, f s a) :: trace f (f s a) as

theorem run_trace (f : σ → α → σ) (s : σ) (as : List α) :
    Run (fun s a s' => f s a = s') s (trace f s as) (as.foldl f s) := by
  induction as generalizing s with
  | nil => exact .nil s
  | cons a as ih => exact .cons rfl (ih _)

theorem trace_actions (f : σ → α → σ) (s : σ) (as : List α) :
    (trace f s as).map (fun e => e.2.1) = as := by
  induction as generalizing s with
  | nil => rfl
  | cons a as ih => exact congrArg (a :: ·) (ih _)

theorem step_of_mem {f : σ → α → σ} {s : σ} {as : List α} {e : σ × α × σ}
    (h : e ∈ trace f s as) : e.2.2 = f e.1 e.2.1 := by
  induction as generalizing s with
  | nil => simp [trace] at h
  | cons a as ih =>
    rcases List.mem_cons.mp h with rfl | h
    · rfl
    · exact ih h

theorem action_mem {f : σ → α → σ} {s : σ} {as : List α} {e : σ × α × σ}
    (h : e ∈ trace f s as) : e.2.1 ∈ as := by
  induction as generalizing s with
  | nil => simp [trace] at h
  | cons a as ih =>
    rcases List.mem_cons.mp h with rfl | h
    · exact List.mem_cons_self
    · exact List.mem_cons_of_mem _ (ih h)

namespace Run

variable {R : σ → α → σ → Prop} {s s' : σ} {tr : List (σ × α × σ)}

/-- An invariant kept by the steps that meet `C` holds along a run whose steps all meet `C`. -/
theorem invariant {I : σ → Prop} {C : σ → α → σ → Prop}
    (hstep : ∀ s a s', I s → R s a s' → C s a s' → I s') (h : Run R s tr s') (h0 : I s)
    (hC : ∀ e ∈ tr, C e.1 e.2.1 e.2.2) : I s' ∧ ∀ e ∈ tr, I e.1 ∧ I e.2.2 := by
  induction h with
  | nil => exact ⟨h0, by simp⟩
  | cons hr _ ih =>
    have h1 := hstep _ _ _ h0 hr (hC _ List.mem_cons_self)
    obtain ⟨hend, hall⟩ := ih h1 fun e he => hC e (List.mem_cons_of_mem _ he)
    refine ⟨hend, fun e he => ?_⟩
    rcases List.mem_cons.mp he with rfl | he
    · exact ⟨h0, h1⟩
    · exact hall e he

/-- When, under the invariant, `C` and `G` say the same of a step and keep the invariant, a run
meets `C` throughout exactly when it meets `G` throughout. -/
theorem forall_iff {I : σ → Prop} {C G : σ → α → σ → Prop}
    (hiff : ∀ s a s', I s → R s a s' → (C s a s' ↔ G s a s'))
    (hstep : ∀ s a s', I s → R s a s' → C s a s' → I s') (h : Run R s tr s') (h0 : I s) :
    (∀ e ∈ tr, C e.1 e.2.1 e.2.2) ↔ ∀ e ∈ tr, G e.1 e.2.1 e.2.2 := by
  induction h with
  | nil => simp
  | @cons s s' s'' a tr hr _ ih =>
    simp only [List.forall_mem_cons]
    constructor
    · rintro ⟨hc, hcs⟩
      exact ⟨(hiff _ _ _ h0 hr).mp hc, (ih (hstep _ _ _ h0 hr hc)).mp hcs⟩
    · rintro ⟨hg, hgs⟩
      have hc := (hiff _ _ _ h0 hr).mpr hg
      exact ⟨hc, (ih (hstep _ _ _ h0 hr hc)).mpr hgs⟩

end Run

/-- Of lists whose entries are related by `Q` in order, successive entries are related by `R` and by
`S` alike when these agree under `Q`. -/
theorem isChain_congr_of_pairwise {β : Type*} {Q R S : β → β → Prop} {l : List β}
    (hl : l.Pairwise Q) (h : ∀ a b, Q a b → (R a b ↔ S a b)) : l.IsChain R ↔ l.IsChain S := by
  induction l with
  | nil => simp
  | cons a l ih =>
    cases l with
    | nil => simp
    | cons b l =>
      obtain ⟨hab, hl⟩ := List.pairwise_cons.mp hl
      rw [List.isChain_cons_cons, List.isChain_cons_cons, ih hl, h a b (hab b List.mem_cons_self)]

/-- Two totals agree after every prefix exactly when they grow alike at every step. -/
theorem forall_prefix_sum_iff {β M : Type*} [AddCancelMonoid M] (f g : β → M) (l : List β) :
    (∀ pre, pre <+: l → (pre.map f).sum = (pre.map g).sum) ↔ ∀ e ∈ l, f e = g e := by
  constructor
  · intro h e he
    obtain ⟨pre, post, rfl⟩ := List.append_of_mem he
    have hpre := h pre (List.prefix_append _ _)
    have hnext := h (pre ++ [e]) (by simp)
    simpa [hpre] using hnext
  · rintro h pre ⟨post, rfl⟩
    exact congrArg List.sum (List.map_congr_left fun e he => h e (List.mem_append_left _ he))

/-- A register holds the sum of the amounts of the steps after every prefix of the actions exactly
when every step adds its amount to it. -/
theorem forall_prefix_register_iff {M : Type*} [AddLeftCancelMonoid M] (f : σ → α → σ)
    (r : σ → M) (amount : σ × α × σ → M) (s : σ) (as : List α) :
    (∀ pre, pre <+: as → r (pre.foldl f s) = r s + ((trace f s pre).map amount).sum) ↔
      ∀ e ∈ trace f s as, r e.2.2 = r e.1 + amount e := by
  induction as generalizing s with
  | nil => simp [trace]
  | cons a as ih =>
    rw [trace, List.forall_mem_cons, ← ih]
    constructor
    · intro h
      have hfirst : r (f s a) = r s + amount (s, a, f s a) := by
        simpa [trace] using h [a] (by simp)
      refine ⟨hfirst, fun pre hpre => ?_⟩
      have hnext := h (a :: pre) (List.prefix_cons_inj a |>.mpr hpre)
      simpa [trace, hfirst, add_assoc] using hnext
    · rintro ⟨hfirst, hrest⟩ pre hpre
      cases pre with
      | nil => simp [trace]
      | cons b pre =>
        obtain ⟨rfl, htail⟩ := List.cons_prefix_cons.mp hpre
        simpa [trace, hfirst, add_assoc] using hrest pre htail

end IotPlatform.Runs
