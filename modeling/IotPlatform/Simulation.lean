import IotPlatform.Runs

/-!
# Simulation with silent steps

One system simulates another when each of its steps shows as a step of the other one or does not
show at all. Its runs then show as runs, and what holds along the runs of the other system holds
along its own. A system whose image answers alike is known by its answers. Actions that change
nothing when they are repeated may be repeated in a run. Work of which every fair round does some is
done after as many rounds.
-/
namespace IotPlatform.Runs

variable {σ τ α β : Type*}

theorem trace_concat (f : σ → α → σ) (s : σ) (as : List α) (a : α) :
    trace f s (as ++ [a]) = trace f s as ++ [(as.foldl f s, a, f (as.foldl f s) a)] := by
  induction as generalizing s with
  | nil => rfl
  | cons b as ih => simp [trace, ih]

/-- A step of `f` shows as the step of `g` that its label names, or as none. -/
structure Simulation (f : σ → α → σ) (g : τ → β → τ) where
  abs : σ → τ
  label : σ → α → Option β
  sim : ∀ s a, abs (f s a) = (label s a).elim (abs s) (g (abs s))

namespace Simulation
variable {f : σ → α → σ} {g : τ → β → τ} (S : Simulation f g)

/-- What a run shows. -/
def labels (s : σ) (as : List α) : List β :=
  (trace f s as).filterMap fun e => S.label e.1 e.2.1

@[simp] theorem labels_nil (s : σ) : S.labels s [] = [] := rfl

theorem labels_concat (s : σ) (as : List α) (a : α) :
    S.labels s (as ++ [a]) = S.labels s as ++ (S.label (as.foldl f s) a).toList := by
  rw [labels, trace_concat, List.filterMap_append]
  cases h : S.label (as.foldl f s) a <;> simp [labels, h]

theorem labels_append (s : σ) (as bs : List α) :
    S.labels s (as ++ bs) = S.labels s as ++ S.labels (as.foldl f s) bs := by
  induction bs using List.reverseRecOn with
  | nil => simp
  | append_singleton bs b ih =>
    rw [← List.append_assoc, labels_concat, ih, labels_concat, List.foldl_append, List.append_assoc]

/-- An action that always shows as the same one shows wherever it stands in a run. -/
theorem mem_labels {a : α} {b : β} (h : ∀ s, S.label s a = some b) {as : List α} (ha : a ∈ as)
    (s : σ) : b ∈ S.labels s as := by
  obtain ⟨pre, post, rfl⟩ := List.append_of_mem ha
  have hhere : S.labels (pre.foldl f s) [a] = [b] := by
    simpa [h] using S.labels_concat (pre.foldl f s) [] a
  rw [← List.singleton_append, labels_append, labels_append, hhere]
  simp

/-- Rounds that meet `C` show as as many rounds that meet `D`. -/
theorem labels_flatten {C : List α → Prop} {D : List β → Prop}
    (hround : ∀ s round, C round → D (S.labels s round)) {rounds : List (List α)}
    (h : ∀ round ∈ rounds, C round) (s : σ) : ∃ shown : List (List β),
      S.labels s rounds.flatten = shown.flatten ∧ shown.length = rounds.length ∧
        ∀ round ∈ shown, D round := by
  induction rounds generalizing s with
  | nil => exact ⟨[], rfl, rfl, by simp⟩
  | cons round rounds ih =>
    obtain ⟨hC, h⟩ := List.forall_mem_cons.mp h
    obtain ⟨shown, hlabels, hlen, hD⟩ := ih h (round.foldl f s)
    refine ⟨S.labels s round :: shown, ?_, by simp [hlen],
      List.forall_mem_cons.mpr ⟨hround s round hC, hD⟩⟩
    rw [List.flatten_cons, List.flatten_cons, labels_append, hlabels]

/-- A run ends where the run that it shows ends. -/
theorem run (s : σ) (as : List α) :
    S.abs (as.foldl f s) = (S.labels s as).foldl g (S.abs s) := by
  induction as using List.reverseRecOn with
  | nil => rfl
  | append_singleton as a ih =>
    rw [labels_concat, List.foldl_append, List.foldl_append, ← ih, List.foldl_cons, List.foldl_nil,
      S.sim]
    cases S.label (as.foldl f s) a <;> rfl

/-- An invariant of the steps that show holds along every run. -/
theorem invariant {I : τ → Prop} (hstep : ∀ t b, I t → I (g t b)) {s : σ} (h : I (S.abs s))
    (as : List α) : I (S.abs (as.foldl f s)) := by
  rw [S.run]
  exact List.foldlRecOn _ g h fun t ht b _ => hstep t b ht

end Simulation

/-- The answers of a run. -/
def answers (call : σ → α → β × σ) (s : σ) : List α → List β
  | [] => []
  | a :: as => (call s a).1 :: answers call (call s a).2 as

/-- Systems of which one is the image of the other cannot be told apart by admissible actions. -/
theorem answers_eq {f : σ → α → β × σ} {g : τ → α → β × τ} {abs : σ → τ} {p : α → Prop}
    (h : ∀ s a, p a → g (abs s) a = ((f s a).1, abs (f s a).2)) {as : List α}
    (has : ∀ a ∈ as, p a) (s : σ) : answers f s as = answers g (abs s) as := by
  induction as generalizing s with
  | nil => rfl
  | cons a as ih =>
    obtain ⟨ha, has⟩ := List.forall_mem_cons.mp has
    rw [answers, answers, h s a ha, ih has]

/-- The second list takes actions of the first that `p` admits once more, right after themselves. -/
inductive Repeats (p : α → Prop) : List α → List α → Prop
  | nil : Repeats p [] []
  | cons (a : α) {as bs : List α} : Repeats p as bs → Repeats p (a :: as) (a :: bs)
  | again {a : α} {as bs : List α} :
      p a → Repeats p (a :: as) (a :: bs) → Repeats p (a :: as) (a :: a :: bs)

/-- Repeating actions that change nothing the second time changes no run. -/
theorem Repeats.foldl_eq {p : α → Prop} {f : σ → α → σ}
    (hagain : ∀ s a, p a → f (f s a) a = f s a) {as bs : List α} (h : Repeats p as bs) (s : σ) :
    bs.foldl f s = as.foldl f s := by
  induction h generalizing s with
  | nil => rfl
  | cons a _ ih => exact ih (f s a)
  | @again a as bs ha _ ih =>
    rw [List.foldl_cons, List.foldl_cons, hagain s a ha]
    exact ih s

section
variable {f : σ → α → σ} {p : α → Prop} {serves : β → α → Prop} {Q : σ → ℕ → β → Prop}

/-- Of `n` services that are left, `b` is the next one: an action does some of them, or it is none
that serves `b`. -/
def Advances (f : σ → α → σ) (p : α → Prop) (serves : β → α → Prop) (Q : σ → ℕ → β → Prop) : Prop :=
  ∀ s n b a, p a → Q s n b →
    ∃ n' b', Q (f s a) n' b' ∧ (n' < n ∨ n' = n ∧ (n = 0 ∨ b' = b ∧ ¬ serves b a))

theorem Advances.actions (hQ : Advances f p serves Q) {as : List α} (has : ∀ a ∈ as, p a) {s : σ}
    {n : ℕ} {b : β} (h : Q s n b) : ∃ n' b', Q (as.foldl f s) n' b' ∧
      (n' < n ∨ n' = n ∧ (n = 0 ∨ b' = b ∧ ∀ a ∈ as, ¬ serves b a)) := by
  induction as generalizing s n b with
  | nil => exact ⟨n, b, h, Or.inr ⟨rfl, Or.inr ⟨rfl, by simp⟩⟩⟩
  | cons a as ih =>
    obtain ⟨ha, has⟩ := List.forall_mem_cons.mp has
    obtain ⟨n₁, b₁, h₁, hfirst⟩ := hQ s n b a ha h
    obtain ⟨n₂, b₂, h₂, hrest⟩ := ih has h₁
    refine ⟨n₂, b₂, h₂, ?_⟩
    rcases hfirst with hlt | ⟨rfl, hzero | ⟨rfl, hnot⟩⟩
    · exact Or.inl (by omega)
    · omega
    · rcases hrest with hlt | ⟨rfl, hzero | ⟨rfl, hnone⟩⟩
      · exact Or.inl hlt
      · exact Or.inr ⟨rfl, Or.inl hzero⟩
      · exact Or.inr ⟨rfl, Or.inr ⟨rfl, List.forall_mem_cons.mpr ⟨hnot, hnone⟩⟩⟩

/-- When every round serves everyone, each takes one service off what is left. -/
theorem Advances.rounds (hQ : Advances f p serves Q) {rounds : List (List α)}
    (hrounds : ∀ round ∈ rounds, (∀ a ∈ round, p a) ∧ ∀ b, ∃ a ∈ round, serves b a) {s : σ}
    {n : ℕ} {b : β} (h : Q s n b) :
    ∃ n' b', Q (rounds.flatten.foldl f s) n' b' ∧ n' ≤ n - rounds.length := by
  induction rounds generalizing s n b with
  | nil => exact ⟨n, b, h, by simp⟩
  | cons round rounds ih =>
    obtain ⟨⟨hp, hfair⟩, hrounds⟩ := List.forall_mem_cons.mp hrounds
    obtain ⟨n₁, b₁, h₁, hround⟩ := hQ.actions hp h
    obtain ⟨n₂, b₂, h₂, hle⟩ := ih hrounds h₁
    have hless : n₁ ≤ n - 1 := by
      rcases hround with hlt | ⟨rfl, hzero | ⟨rfl, hnone⟩⟩
      · omega
      · omega
      · obtain ⟨a, ha, hserves⟩ := hfair b₁
        exact absurd hserves (hnone a ha)
    refine ⟨n₂, b₂, ?_, ?_⟩
    · rw [List.flatten_cons, List.foldl_append]
      exact h₂
    · rw [List.length_cons]
      omega

end

end IotPlatform.Runs
