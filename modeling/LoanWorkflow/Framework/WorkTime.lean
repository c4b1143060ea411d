import Mathlib.Algebra.BigOperators.Group.Finset.Basic
import Mathlib.Tactic.Linarith
import Mathlib.Tactic.Ring

/-! # Working time

    A schedule cuts the integer time line into days and gives every working
    day one window. `worked t` is the working time up to `t`, measured from
    the start of day `0`, so the working time between two instants is a
    difference and adds up by itself.

    A loop that walks a schedule day by day only ever does three things, and
    each has one rule:

    - `worked_enter`: wait for the window of the current day to open
    - `worked_run`: let time run inside the window
    - `worked_next`: go to the next opening, on a day off or after closing
-/

/-- Days of one length, and one window on every working day. -/
structure Schedule where
  /-- Start of day `0`. -/
  origin : ℤ
  /-- Length of a day. -/
  len : ℤ
  /-- Opening and closing, from the start of the day. -/
  opens : ℤ
  closes : ℤ
  isWorkday : ℤ → Bool
  opens_nonneg : 0 ≤ opens
  opens_lt_closes : opens < closes
  closes_lt_len : closes < len

namespace Schedule

variable (S : Schedule)
variable {d t u : ℤ}

/-! ### Days -/

/-- The day of an instant. -/
def day (t : ℤ) : ℤ := (t - S.origin) / S.len

/-- Opening of a day. -/
def opening (d : ℤ) : ℤ := S.origin + d * S.len + S.opens

/-- Closing of a day. -/
def closing (d : ℤ) : ℤ := S.origin + d * S.len + S.closes

theorem len_pos : 0 < S.len := by
  have h₁ := S.opens_nonneg
  have h₂ := S.opens_lt_closes
  have h₃ := S.closes_lt_len
  omega

/-- The day of an instant, by the two midnights around it. -/
theorem day_eq_iff : S.day t = d ↔ S.origin + d * S.len ≤ t ∧ t < S.origin + d * S.len + S.len := by
  unfold day
  rw [Int.ediv_eq_iff_of_pos S.len_pos]
  constructor <;> rintro ⟨h₁, h₂⟩ <;> constructor <;> linarith

theorem day_bounds (t : ℤ) :
    S.origin + S.day t * S.len ≤ t ∧ t < S.origin + S.day t * S.len + S.len :=
  S.day_eq_iff.mp rfl

theorem day_mono (h : t ≤ u) : S.day t ≤ S.day u := by
  unfold day
  exact Int.ediv_le_ediv S.len_pos (by omega)

@[simp] theorem day_opening (d : ℤ) : S.day (S.opening d) = d := by
  rw [day_eq_iff]
  unfold opening
  have h₁ := S.opens_nonneg
  have h₂ := S.opens_lt_closes
  have h₃ := S.closes_lt_len
  constructor <;> linarith

@[simp] theorem day_closing (d : ℤ) : S.day (S.closing d) = d := by
  rw [day_eq_iff]
  unfold closing
  have h₁ := S.opens_nonneg
  have h₂ := S.opens_lt_closes
  have h₃ := S.closes_lt_len
  constructor <;> linarith

theorem closing_sub_opening (d : ℤ) : S.closing d - S.opening d = S.closes - S.opens := by
  unfold closing opening
  ring

/-- Opening of the next day. -/
def next (t : ℤ) : ℤ := S.opening (S.day t + 1)

@[simp] theorem day_next (t : ℤ) : S.day (S.next t) = S.day t + 1 := S.day_opening _

theorem lt_next (t : ℤ) : t < S.next t := by
  have h := (S.day_bounds t).2
  have h₁ := S.opens_nonneg
  unfold next opening
  linarith [add_mul (S.day t) 1 S.len]

/-- The instant itself, or the opening of its day when that is later. -/
def enter (t : ℤ) : ℤ := if t < S.opening (S.day t) then S.opening (S.day t) else t

theorem le_enter (t : ℤ) : t ≤ S.enter t := by
  unfold enter
  split <;> omega

theorem opening_le_enter (t : ℤ) : S.opening (S.day t) ≤ S.enter t := by
  unfold enter
  split <;> omega

@[simp] theorem day_enter (t : ℤ) : S.day (S.enter t) = S.day t := by
  unfold enter
  split
  · exact S.day_opening _
  · rfl

/-! ### Whole days -/

/-- Working time of a day. -/
def worksOn (d : ℤ) : ℤ := if S.isWorkday d then S.closes - S.opens else 0

theorem worksOn_nonneg (d : ℤ) : 0 ≤ S.worksOn d := by
  unfold worksOn
  have := S.opens_lt_closes
  split <;> omega

/-- Working time of all days before a day, counted from day `0`. -/
def total : ℤ → ℤ
  | .ofNat n => ∑ i ∈ Finset.range n, S.worksOn i
  | .negSucc n => -∑ i ∈ Finset.range (n + 1), S.worksOn (-(i + 1))

theorem total_add_one (d : ℤ) : S.total (d + 1) = S.total d + S.worksOn d := by
  match d with
  | .ofNat n =>
    show S.total (Int.ofNat (n + 1)) = _
    simp only [total, Finset.sum_range_succ, Int.ofNat_eq_natCast]
  | .negSucc 0 =>
    show S.total (Int.ofNat 0) = _
    simp [total]
  | .negSucc (n + 1) =>
    show S.total (Int.negSucc n) = _
    have hd : S.worksOn (Int.negSucc (n + 1)) = S.worksOn (-((n + 1 : ℕ) + 1)) := rfl
    simp only [total, Finset.sum_range_succ _ (n + 1), hd]
    ring

theorem total_mono {e : ℤ} (h : d ≤ e) : S.total d ≤ S.total e := by
  induction e, h using Int.le_induction with
  | base => exact le_refl _
  | succ e _ ih =>
    rw [total_add_one]
    linarith [S.worksOn_nonneg e]

/-! ### Working time up to an instant -/

/-- Working time of the day of `t` up to `t`. -/
def workedToday (t : ℤ) : ℤ :=
  if S.isWorkday (S.day t) then
    min (max (t - S.opening (S.day t)) 0) (S.closes - S.opens)
  else 0

/-- Working time up to `t`. -/
def worked (t : ℤ) : ℤ := S.total (S.day t) + S.workedToday t

theorem workedToday_nonneg (t : ℤ) : 0 ≤ S.workedToday t := by
  unfold workedToday
  have := S.opens_lt_closes
  split <;> omega

theorem workedToday_le (t : ℤ) : S.workedToday t ≤ S.worksOn (S.day t) := by
  unfold workedToday worksOn
  split <;> omega

@[simp] theorem worked_opening (d : ℤ) : S.worked (S.opening d) = S.total d := by
  unfold worked workedToday
  have := S.opens_lt_closes
  rw [day_opening]
  split <;> omega

/-- Up to an instant no more is worked than up to any later day. -/
theorem worked_le_total (h : S.day t < d) : S.worked t ≤ S.total d :=
  calc S.worked t ≤ S.total (S.day t) + S.worksOn (S.day t) := by
        unfold worked
        linarith [S.workedToday_le t]
    _ = S.total (S.day t + 1) := (S.total_add_one _).symm
    _ ≤ S.total d := S.total_mono h

theorem total_le_worked (t : ℤ) : S.total (S.day t) ≤ S.worked t := by
  unfold worked
  linarith [S.workedToday_nonneg t]

theorem worked_mono (h : t ≤ u) : S.worked t ≤ S.worked u := by
  by_cases hday : S.day t = S.day u
  · unfold worked workedToday
    rw [hday]
    split <;> omega
  · -- the whole rest of the day of `t` lies before `u`
    have hlt : S.day t < S.day u := lt_of_le_of_ne (S.day_mono h) hday
    exact (S.worked_le_total hlt).trans (S.total_le_worked u)

/-! ### Walking -/

/-- No work is done before the window opens. -/
@[simp] theorem worked_enter (t : ℤ) : S.worked (S.enter t) = S.worked t := by
  unfold enter
  split
  · next hearly =>
    have hzero : S.workedToday t = 0 := by
      unfold workedToday
      have := S.opens_lt_closes
      split <;> omega
    rw [worked_opening]
    unfold worked
    omega
  · rfl

/-- Work was done just before `t`: it lies inside the window of a working day, or at closing. -/
def AtWork (t : ℤ) : Prop :=
  S.isWorkday (S.day t) = true ∧ S.opening (S.day t) < t ∧ t ≤ S.closing (S.day t)

/-- The window is left on the day it was entered. -/
theorem day_run (htu : t ≤ u) (hu : u ≤ S.closing (S.day t)) : S.day u = S.day t := by
  have h₁ := S.day_mono htu
  have h₂ := S.day_mono hu
  rw [day_closing] at h₂
  omega

theorem atWork_run (hwork : S.isWorkday (S.day t) = true)
    (ht : S.opening (S.day t) ≤ t) (htu : t < u) (hu : u ≤ S.closing (S.day t)) : S.AtWork u := by
  unfold AtWork
  rw [S.day_run htu.le hu]
  exact ⟨hwork, by omega, hu⟩

/-- Inside the window all time is working time. -/
theorem worked_run (hwork : S.isWorkday (S.day t) = true) (ht : S.opening (S.day t) ≤ t)
    (htu : t ≤ u) (hu : u ≤ S.closing (S.day t)) : S.worked u = S.worked t + (u - t) := by
  have hday := S.day_run htu hu
  have hlen := S.closing_sub_opening (S.day t)
  unfold worked workedToday
  rw [hday, if_pos hwork, if_pos hwork]
  omega

/-- Work was done just before an instant at work, so more than up to any earlier one. -/
theorem worked_lt (hu : S.AtWork u) (htu : t < u) : S.worked t < S.worked u := by
  obtain ⟨hwork, hopen, hclose⟩ := hu
  have hday : S.day (u - 1) = S.day u := by
    have h₁ := S.day_mono (show S.opening (S.day u) ≤ u - 1 by omega)
    have h₂ := S.day_mono (show u - 1 ≤ u by omega)
    rw [day_opening] at h₁
    omega
  have hrun := S.worked_run (t := u - 1) (u := u) (by rwa [hday]) (by rw [hday]; omega) (by omega)
    (by rwa [hday])
  have hmono := S.worked_mono (show t ≤ u - 1 by omega)
  omega

/-- No work is done on a day off, nor between closing and the next opening. -/
theorem worked_next (h : S.isWorkday (S.day t) = false ∨ S.closing (S.day t) ≤ t) :
    S.worked (S.next t) = S.worked t := by
  have hfull : S.workedToday t = S.worksOn (S.day t) := by
    have hlen := S.closing_sub_opening (S.day t)
    have := S.opens_lt_closes
    unfold workedToday worksOn
    rcases h with hoff | hlate
    · rw [hoff]; rfl
    · split <;> omega
  unfold next
  rw [worked_opening, total_add_one, ← hfull]
  rfl

/-- Work off the rest of the window, then go to the next opening. -/
theorem worked_finish (hwork : S.isWorkday (S.day t) = true)
    (ht : S.opening (S.day t) ≤ t) (hclose : t ≤ S.closing (S.day t)) :
    S.worked (S.next t) = S.worked t + (S.closing (S.day t) - t) := by
  have hrun := S.worked_run hwork ht hclose le_rfl
  have hnext := S.worked_next (t := S.closing (S.day t)) (.inr (by simp))
  unfold next at hnext ⊢
  rw [day_closing] at hnext
  omega

end Schedule
