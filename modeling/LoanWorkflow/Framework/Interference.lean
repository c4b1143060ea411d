import Mathlib.Tactic.Common

/-! # Runs with calls taken out

    Calls of several users on one state. A run is compared with the run in
    which only the visible calls are made: the others do not interfere if the
    visible calls have the same results in both.

    - `results`, `final`: what the visible calls return, and the last state
    - `GuardedCalls`: a condition on the state that each visible call meets
    - `results_eq_iff`: the results are the same exactly when the condition holds
    - `Agrees`: fallible computations with related outcomes
-/

namespace Interference

open List

variable {σ ι ρ : Type} (step : ι → σ → ρ × σ) (visible : ι → Bool)

/-- The results of the visible calls of a run. -/
def results : σ → List ι → List ρ
  | _, [] => []
  | s, op :: ops =>
    if visible op then (step op s).1 :: results (step op s).2 ops else results (step op s).2 ops

/-- The state after a run. -/
def final (s : σ) (ops : List ι) : σ := ops.foldl (fun s op => (step op s).2) s

/-- Every visible call meets a condition on the state it finds. -/
def GuardedCalls (guard : σ → ι → Prop) : σ → List ι → Prop
  | _, [] => True
  | s, op :: ops => (visible op = true → guard s op) ∧ GuardedCalls guard (step op s).2 ops

variable (R : σ → σ → Prop) (guard : σ → ι → Prop) {s t : σ} (ops : List ι)

/-- If hidden calls keep a relation between the two states, and a visible call has the same
    result and keeps it exactly under a condition, then the results of the visible calls are
    those of the run without the hidden calls exactly when the condition holds at each of them.
    In this case the last states are related too. -/
theorem results_eq_iff
    (hhidden : ∀ s t op, op ∈ ops → visible op = false → R s t → R (step op s).2 t)
    (hsame : ∀ s t op, op ∈ ops → visible op = true → R s t → guard s op →
      (step op s).1 = (step op t).1 ∧ R (step op s).2 (step op t).2)
    (hdiffer : ∀ s t op, op ∈ ops → visible op = true → R s t → ¬ guard s op →
      (step op s).1 ≠ (step op t).1) (h : R s t) :
    (results step visible s ops = results step visible t (ops.filter visible) ↔
      GuardedCalls step visible guard s ops) ∧
    (GuardedCalls step visible guard s ops →
      R (final step s ops) (final step t (ops.filter visible))) := by
  induction ops generalizing s t with
  | nil => exact ⟨iff_of_true rfl trivial, fun _ => h⟩
  | cons op ops ih =>
    have hrest := fun {s t} (h : R s t) =>
      ih (fun s t op hop => hhidden s t op (mem_cons_of_mem _ hop))
        (fun s t op hop => hsame s t op (mem_cons_of_mem _ hop))
        (fun s t op hop => hdiffer s t op (mem_cons_of_mem _ hop)) h
    by_cases hop : visible op = true
    · have hfilter : (op :: ops).filter visible = op :: ops.filter visible := by
        simp [hop]
      rw [hfilter]
      simp only [results, hop, if_true, GuardedCalls, forall_const, List.cons.injEq]
      by_cases hguard : guard s op
      · obtain ⟨hresult, hnext⟩ := hsame s t op mem_cons_self hop h hguard
        obtain ⟨hiff, hlast⟩ := hrest hnext
        refine ⟨?_, fun hall => hlast hall.2⟩
        rw [hiff]
        exact and_congr (iff_of_true hresult hguard) Iff.rfl
      · -- the first call that the condition fails for already has another result
        have hne := hdiffer s t op mem_cons_self hop h hguard
        exact ⟨iff_of_false (fun heq => hne heq.1) (fun hall => hguard hall.1),
          fun hall => absurd hall.1 hguard⟩
    · have hfilter : (op :: ops).filter visible = ops.filter visible := by
        simp [hop]
      rw [hfilter]
      have hnext := hhidden s t op mem_cons_self (by simpa using hop) h
      obtain ⟨hiff, hlast⟩ := hrest hnext
      simp only [results, hop, Bool.false_eq_true, if_false, GuardedCalls, false_implies, true_and]
      exact ⟨hiff, hlast⟩

/-! ### Outcomes -/

section outcomes

variable {ε α β γ : Type}

/-- Both succeed with related values, or both fail with the same error. -/
inductive Agrees (S : α → β → Prop) : Except ε α → Except ε β → Prop where
  | ok {a : α} {b : β} (h : S a b) : Agrees S (.ok a) (.ok b)
  | error (e : ε) : Agrees S (.error e) (.error e)

variable {S : α → β → Prop}

theorem Agrees.bind_same {x : Except ε γ} {f : γ → Except ε α} {g : γ → Except ε β}
    (h : ∀ c, x = .ok c → Agrees S (f c) (g c)) : Agrees S (x >>= f) (x >>= g) := by
  cases hx : x with
  | error e => exact .error e
  | ok c => exact h c hx

theorem Agrees.bind {α' β' : Type} {T : α' → β' → Prop} {x : Except ε α'} {y : Except ε β'}
    {f : α' → Except ε α} {g : β' → Except ε β} (hxy : Agrees T x y)
    (h : ∀ a b, T a b → Agrees S (f a) (g b)) : Agrees S (x >>= f) (y >>= g) := by
  cases hxy with
  | ok hab => exact h _ _ hab
  | error e => exact .error e

end outcomes

end Interference
