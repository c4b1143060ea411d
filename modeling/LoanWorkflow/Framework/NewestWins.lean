import Mathlib

/-! # Newest wins

    A register that is written by deliveries with time stamps should hold the
    value of the newest delivery, whatever the order in which they arrive. A
    delivery is accepted, and replaces the value, or rejected.

    - `Holds`: the register has the value of the newest delivery
    - `holds_step_iff`: a step keeps it exactly when it accepts what is newer
    - `Holds.unique`: the value depends on the set of deliveries only
-/

universe u v w

namespace NewestWins

open List

variable {ι : Type u} {τ : Type v} {β : Type w} [LinearOrder τ]
variable (time : ι → τ) (value : ι → β)

/-- `v` is the value of a delivery that no other is newer than. -/
def Holds (v : β) (delivered : List ι) : Prop :=
  ∃ i ∈ delivered, (∀ j ∈ delivered, time j ≤ time i) ∧ value i = v

instance Holds.decidable [DecidableEq β] (v : β) (delivered : List ι) :
    Decidable (Holds time value v delivered) :=
  inferInstanceAs (Decidable (∃ i ∈ delivered, _))

/-- Newer than all deliveries so far. -/
def Newer (delivered : List ι) (k : ι) : Prop := ∀ j ∈ delivered, time j < time k

instance Newer.decidable (delivered : List ι) (k : ι) : Decidable (Newer time delivered k) :=
  inferInstanceAs (Decidable (∀ j ∈ delivered, _))

variable {time value} {v : β} {delivered : List ι} {k : ι}

theorem holds_singleton (k : ι) : Holds time value (value k) [k] :=
  ⟨k, mem_singleton_self k, fun j hj => by rw [mem_singleton.mp hj], rfl⟩

/-- A delivery that is newer brings its own value. -/
theorem Newer.holds (h : Newer time delivered k) :
    Holds time value (value k) (delivered ++ [k]) := by
  refine ⟨k, by simp, ?_, rfl⟩
  intro j hj
  rcases mem_append.mp hj with hold | hnew
  · exact le_of_lt (h j hold)
  · rw [mem_singleton.mp hnew]

/-- A delivery that is not newer leaves the newest one the newest. -/
theorem Holds.append_of_not_newer (h : Holds time value v delivered)
    (hk : ¬ Newer time delivered k) : Holds time value v (delivered ++ [k]) := by
  obtain ⟨top, htop, hmax, hv⟩ := h
  obtain ⟨j, hj, hle⟩ : ∃ j ∈ delivered, time k ≤ time j := by
    unfold Newer at hk
    push Not at hk
    exact hk
  refine ⟨top, by simp [htop], ?_, hv⟩
  intro i hi
  rcases mem_append.mp hi with hold | hnew
  · exact hmax i hold
  · rw [mem_singleton.mp hnew]
    exact le_trans hle (hmax j hj)

section unique

variable (htime : Function.Injective time)

include htime

/-- The newest delivery is one, so its value is. -/
theorem Holds.unique {v' : β} {delivered' : List ι} (hsame : ∀ i, i ∈ delivered ↔ i ∈ delivered')
    (h : Holds time value v delivered) (h' : Holds time value v' delivered') : v = v' := by
  obtain ⟨i, hi, hmax, rfl⟩ := h
  obtain ⟨j, hj, hmax', rfl⟩ := h'
  have hle : time i ≤ time j := hmax' i ((hsame i).mp hi)
  have hge : time j ≤ time i := hmax j ((hsame j).mpr hj)
  rw [htime (le_antisymm hle hge)]

/-- A delivery is accepted, if it is newer, or it brings the value that is there. -/
theorem holds_step_iff (h : Holds time value v delivered) (accepted : Prop) [Decidable accepted] :
    Holds time value (if accepted then value k else v) (delivered ++ [k]) ↔
      value k = v ∨ (accepted ↔ Newer time delivered k) := by
  by_cases hsame : value k = v
  · -- the value stays the same: the newest delivery is the old one or the new one
    subst hsame
    rw [ite_self]
    refine iff_of_true ?_ (.inl rfl)
    by_cases hnewer : Newer time delivered k
    · exact hnewer.holds
    · exact h.append_of_not_newer hnewer
  · by_cases hnewer : Newer time delivered k
    · have hnew : Holds time value (value k) (delivered ++ [k]) := hnewer.holds
      by_cases haccepted : accepted
      · rw [if_pos haccepted]
        exact iff_of_true hnew (.inr (iff_of_true haccepted hnewer))
      · rw [if_neg haccepted]
        refine iff_of_false ?_ ?_
        · intro hold
          exact hsame (hnew.unique htime (fun _ => Iff.rfl) hold)
        · rintro (heq | hiff)
          · exact hsame heq
          · exact haccepted (hiff.mpr hnewer)
    · have hold : Holds time value v (delivered ++ [k]) := h.append_of_not_newer hnewer
      by_cases haccepted : accepted
      · rw [if_pos haccepted]
        refine iff_of_false ?_ ?_
        · intro hnew
          exact hsame (hnew.unique htime (fun _ => Iff.rfl) hold)
        · rintro (heq | hiff)
          · exact hsame heq
          · exact hnewer (hiff.mp haccepted)
      · rw [if_neg haccepted]
        exact iff_of_true hold (.inr (iff_of_false haccepted hnewer))

end unique

end NewestWins
