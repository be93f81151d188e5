import Mathlib

/-!
# Noninterference by unwinding

A system whose actions belong to domains, and what each domain sees of a state. Conditions on single
actions carry over to runs: a domain sees what it would see if only the actions had been taken that
the policy lets it notice.
-/
namespace IotPlatform.Unwinding

/-- A deterministic system; every action belongs to a domain and yields an output. -/
structure System (S A D O : Type*) where
  step : S → A → S
  output : S → A → O
  dom : A → D

variable {S A D O : Type*}

def System.run (M : System S A D O) (s : S) (as : List A) : S := as.foldl M.step s

/-- The actions of domains that may influence `u`. -/
def System.purge (M : System S A D O) (policy : D → D → Prop) [DecidableRel policy] (u : D)
    (as : List A) : List A :=
  as.filter fun a => policy (M.dom a) u

/-- The outputs of the actions of domain `u` along a run. -/
def System.answers [DecidableEq D] (M : System S A D O) (u : D) : S → List A → List O
  | _, [] => []
  | s, a :: as =>
    if M.dom a = u then M.output s a :: M.answers u (M.step s a) as
    else M.answers u (M.step s a) as

/-- The unwinding conditions for what the domains see: the output of an action depends on what its
domain sees, a step keeps states alike that look alike, and what may not be noticed is not. -/
structure Unwinds (M : System S A D O) (policy : D → D → Prop) {V : D → Type*}
    (view : (u : D) → S → V u) : Prop where
  output_eq : ∀ {s t a}, view (M.dom a) s = view (M.dom a) t → M.output s a = M.output t a
  step_eq : ∀ {u s t} (a), view u s = view u t → view u (M.step s a) = view u (M.step t a)
  unseen : ∀ {u a} (s), ¬ policy (M.dom a) u → view u (M.step s a) = view u s

section
variable {M : System S A D O} {policy : D → D → Prop} {V : D → Type*}
  {view : (u : D) → S → V u}

theorem Unwinds.run_eq (h : Unwinds M policy view) {u : D} {s t : S} (hst : view u s = view u t)
    (as : List A) : view u (M.run s as) = view u (M.run t as) := by
  induction as generalizing s t with
  | nil => exact hst
  | cons a as ih => exact ih (h.step_eq a hst)

variable [DecidableRel policy]

/-- A run and its purged run look alike. -/
theorem Unwinds.run_purge (h : Unwinds M policy view) (u : D) (s : S) (as : List A) :
    view u (M.run s as) = view u (M.run s (M.purge policy u as)) := by
  induction as generalizing s with
  | nil => rfl
  | cons a as ih =>
    by_cases hp : policy (M.dom a) u
    · have hkeep : M.purge policy u (a :: as) = a :: M.purge policy u as :=
        List.filter_cons_of_pos (by simpa using hp)
      rw [hkeep]
      exact ih (M.step s a)
    · have hdrop : M.purge policy u (a :: as) = M.purge policy u as :=
        List.filter_cons_of_neg (by simpa using hp)
      have hskip : view u (M.run s (a :: as)) = view u (M.run s as) :=
        h.run_eq (h.unseen s hp) as
      rw [hdrop, hskip]
      exact ih s

/-- The output of an action is the one it would yield after the purged run. -/
theorem Unwinds.output_purge (h : Unwinds M policy view) (s : S) (as : List A) (a : A) :
    M.output (M.run s as) a = M.output (M.run s (M.purge policy (M.dom a) as)) a :=
  h.output_eq (h.run_purge (M.dom a) s as)

/-- The answers that a domain gets along a run are those of the purged run. -/
theorem Unwinds.answers_purge [DecidableEq D] (h : Unwinds M policy view) {u : D}
    (hu : policy u u) {s t : S} (hst : view u s = view u t) (as : List A) :
    M.answers u s as = M.answers u t (M.purge policy u as) := by
  induction as generalizing s t with
  | nil => rfl
  | cons a as ih =>
    by_cases hp : policy (M.dom a) u
    · have hkeep : M.purge policy u (a :: as) = a :: M.purge policy u as :=
        List.filter_cons_of_pos (by simpa using hp)
      rw [hkeep, System.answers, System.answers, ih (h.step_eq a hst)]
      by_cases ha : M.dom a = u
      · subst ha
        rw [h.output_eq hst]
      · rw [if_neg ha, if_neg ha]
    · have hdrop : M.purge policy u (a :: as) = M.purge policy u as :=
        List.filter_cons_of_neg (by simpa using hp)
      have ha : M.dom a ≠ u := by
        rintro rfl
        exact hp hu
      rw [hdrop, System.answers, if_neg ha]
      exact ih ((h.unseen s hp).trans hst)

/-- Runs that agree in the actions a domain may notice look alike to it. -/
theorem Unwinds.run_congr (h : Unwinds M policy view) (u : D) (s : S) {as bs : List A}
    (hp : M.purge policy u as = M.purge policy u bs) :
    view u (M.run s as) = view u (M.run s bs) := by
  rw [h.run_purge u s as, h.run_purge u s bs, hp]

end

end IotPlatform.Unwinding
