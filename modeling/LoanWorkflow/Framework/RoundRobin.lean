import Mathlib.Data.Finset.Card

/-! # Round robin

    Picks that go around a finite set of a linear order, each one the next
    after the one before.

    - `rank`: how many members are up to a cursor; a pick raises it by one, in a circle
    - `count_of_picks`: how often a member is picked
-/

universe u

namespace RoundRobin

open Finset

variable {ι : Type u} [LinearOrder ι] {members : Finset ι} {cursor pick m m' : ι} {picks : List ι}

/-- The members up to a cursor. -/
def rank (members : Finset ι) (cursor : ι) : Nat := #{m ∈ members | m ≤ cursor}

/-- The member after the cursor; after the last one comes the first. -/
structure IsNext (members : Finset ι) (cursor pick : ι) : Prop where
  mem : pick ∈ members
  rank_eq : rank members pick = rank members cursor % members.card + 1

theorem rank_lt (hm : m ∈ members) (h : cursor < m) : rank members cursor < rank members m := by
  refine card_lt_card ⟨fun x hx => ?_, fun hsub => ?_⟩
  · obtain ⟨hx, hle⟩ := mem_filter.mp hx
    exact mem_filter.mpr ⟨hx, hle.trans h.le⟩
  · have hback := hsub (mem_filter.mpr ⟨hm, le_rfl⟩)
    exact absurd (mem_filter.mp hback).2 h.not_ge

theorem rank_inj (hm : m ∈ members) (hm' : m' ∈ members) :
    rank members m = rank members m' ↔ m = m' := by
  refine ⟨fun heq => ?_, congrArg _⟩
  rcases lt_trichotomy m m' with h | h | h
  · exact absurd heq (rank_lt hm' h).ne
  · exact h
  · exact absurd heq (rank_lt hm h).ne'

/-- The least member after the cursor, or else the least of all, is the next one. -/
theorem isNext_of_min? {l : List ι}
    (h : ((l.filter (cursor < ·)).min? <|> l.min?) = some pick) :
    IsNext l.toFinset cursor pick := by
  cases hlater : (l.filter (cursor < ·)).min? with
  | none =>
    have hlast : ∀ m ∈ l.toFinset, m ≤ cursor := by simpa using List.min?_eq_none_iff.mp hlater
    rw [hlater] at h
    obtain ⟨hmem, hleast⟩ := List.min?_eq_some_iff.mp h
    have hone : ({m ∈ l.toFinset | m ≤ pick} : Finset ι) = {pick} := by
      grind [List.mem_toFinset]
    refine ⟨List.mem_toFinset.mpr hmem, ?_⟩
    rw [rank, rank, hone, filter_true_of_mem hlast, Nat.mod_self, card_singleton]
  | some m =>
    rw [hlater] at h
    cases h
    obtain ⟨hmem, hleast⟩ := List.min?_eq_some_iff.mp hlater
    simp only [List.mem_filter, decide_eq_true_eq] at hmem hleast
    have hinsert : ({m ∈ l.toFinset | m ≤ pick} : Finset ι) =
        insert pick {m ∈ l.toFinset | m ≤ cursor} := by
      grind [List.mem_toFinset]
    have hnew : pick ∉ ({m ∈ l.toFinset | m ≤ cursor} : Finset ι) := by
      grind [List.mem_toFinset]
    have hcard : rank l.toFinset pick = rank l.toFinset cursor + 1 := by
      rw [rank, hinsert, card_insert_of_notMem hnew, rank]
    have hle : rank l.toFinset pick ≤ l.toFinset.card := card_filter_le ..
    exact ⟨List.mem_toFinset.mpr hmem.1, by rw [hcard, Nat.mod_eq_of_lt (by omega)]⟩

/-- The turn of a member comes when its rank is reached, and again after each round. -/
theorem count_of_picks (h : (cursor :: picks).IsChain (IsNext members)) (hm : m ∈ members) :
    picks.count m = (picks.length +
      (rank members cursor + members.card - rank members m) % members.card) / members.card := by
  have hpos : 0 < rank members m := card_pos.mpr ⟨m, mem_filter.mpr ⟨hm, le_rfl⟩⟩
  have hle : rank members m ≤ members.card := card_filter_le ..
  induction picks generalizing cursor with
  | nil => simp [Nat.div_eq_of_lt (Nat.mod_lt _ (hpos.trans_le hle))]
  | cons pick picks ih =>
    obtain ⟨hnext, hrest⟩ := List.isChain_cons_cons.mp h
    have hturn : pick = m ↔ rank members cursor % members.card + 1 = rank members m := by
      rw [← rank_inj hnext.mem hm, hnext.rank_eq]
    have hr := Nat.mod_lt (rank members cursor) (hpos.trans_le hle)
    have hmod : (rank members cursor + members.card - rank members m) % members.card =
        (rank members cursor % members.card + (members.card - rank members m)) % members.card := by
      rw [Nat.add_sub_assoc hle, Nat.mod_add_mod]
    rw [List.count_cons, ih hrest, hnext.rank_eq, hmod, List.length_cons]
    generalize rank members cursor % members.card = r at *
    simp only [beq_iff_eq, hturn]
    by_cases hq : r + 1 = rank members m
    · rw [← hq, if_pos rfl, Nat.add_sub_cancel_left, Nat.mod_self, Nat.mod_eq_of_lt (by omega),
        ← Nat.add_div_right _ (by omega)]
      congr 1
      omega
    · have hstep : (r + 1 + members.card - rank members m) % members.card =
          (r + (members.card - rank members m)) % members.card + 1 := by
        rcases Nat.lt_or_gt_of_ne hq with hbefore | hafter
        · rw [Nat.mod_eq_of_lt (by omega), Nat.mod_eq_of_lt (by omega)]
          omega
        · rw [Nat.mod_eq_sub_mod (by omega), Nat.mod_eq_of_lt (by omega),
            Nat.mod_eq_sub_mod (by omega), Nat.mod_eq_of_lt (by omega)]
          omega
      rw [if_neg hq, hstep, Nat.add_zero]
      congr 1
      omega

end RoundRobin
