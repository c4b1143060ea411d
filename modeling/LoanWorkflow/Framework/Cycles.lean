import Mathlib.Data.Set.Basic
import Mathlib.Tactic.Common

/-! # Cycles of functional graphs

    A graph in which every node has at most one edge, and the cycles in the
    part of it that a search has explored.

    - `Explored`: nodes that no edge leaves, with the list of their cycles
    - `Explored.keep`, `Explored.cons`: the nodes of a way without or with a cycle are added
-/

universe u

namespace Cycles

open Relation List

variable {α : Type u} {edge : α → α → Prop} {x y : α} {C : Set α} {nodes way : List α}
  {cs : List (Set α)}

/-- What can be reached from a node that leads back to itself. -/
def IsCycle (edge : α → α → Prop) (C : Set α) : Prop :=
  ∃ x, TransGen edge x x ∧ C = {y | ReflTransGen edge x y}

/-- No edge leaves the nodes, and `cs` lists their cycles. -/
structure Explored (edge : α → α → Prop) (nodes : List α) (cs : List (Set α)) : Prop where
  closed : ∀ x ∈ nodes, ∀ y, edge x y → y ∈ nodes
  nodup : cs.Nodup
  cycles : ∀ C, C ∈ cs ↔ IsCycle edge C ∧ ∀ x ∈ C, x ∈ nodes

/-- Every node of a cycle leads around it. -/
theorem IsCycle.eq_of_mem (hunique : Relator.RightUnique edge) (h : IsCycle edge C) (hy : y ∈ C) :
    TransGen edge y y ∧ C = {z | ReflTransGen edge y z} := by
  obtain ⟨x, hx, rfl⟩ := h
  have hback : ReflTransGen edge y x := by
    induction hy with
    | refl => rfl
    | tail _ hstep ih =>
      rcases ih.cases_head with rfl | ⟨z, hz, hrest⟩
      · obtain ⟨z, hz, hrest⟩ := TransGen.head'_iff.mp hx
        rwa [hunique hstep hz]
      · rwa [hunique hstep hz]
  refine ⟨(hx.trans_right hback).trans_left hy, ?_⟩
  ext z
  exact ⟨hback.trans, ReflTransGen.trans hy⟩

theorem mem_of_reach (hclosed : ∀ x ∈ nodes, ∀ y, edge x y → y ∈ nodes) (hx : x ∈ nodes)
    (hy : ReflTransGen edge x y) : y ∈ nodes := by
  induction hy with
  | refl => exact hx
  | tail _ hstep ih => exact hclosed _ ih _ hstep

namespace Explored

theorem perm {nodes' : List α} (h : Explored edge nodes cs) (hperm : nodes ~ nodes') :
    Explored edge nodes' cs :=
  ⟨by simpa only [hperm.mem_iff] using h.closed, h.nodup,
    by simpa only [hperm.mem_iff] using h.cycles⟩

variable (h : Explored edge nodes cs) (hunique : Relator.RightUnique edge)
  (hway : ∀ x ∈ way, ReflTransGen edge x y)
  (hnext : ∀ x ∈ way, ∀ z, edge x z → z ∈ way ++ nodes)

include hunique hway in
/-- A cycle with a node of the way goes through its end. -/
theorem eq_of_way (hC : IsCycle edge C) (hx : x ∈ C) (hxway : x ∈ way) :
    TransGen edge y y ∧ C = {z | ReflTransGen edge y z} := by
  refine hC.eq_of_mem hunique ?_
  rw [(hC.eq_of_mem hunique hx).2]
  exact hway x hxway

include h hnext

theorem closed_append : ∀ x ∈ way ++ nodes, ∀ z, edge x z → z ∈ way ++ nodes :=
  forall_mem_append.mpr ⟨hnext, fun x hx z hz => mem_append_right _ (h.closed x hx z hz)⟩

include hunique hway

/-- The way ends in a node that is explored, or on no cycle. -/
theorem keep (hend : y ∈ nodes ∨ ¬ TransGen edge y y) : Explored edge (way ++ nodes) cs := by
  refine ⟨h.closed_append hnext, h.nodup, fun C => ?_⟩
  rw [h.cycles]
  refine and_congr_right fun hC => ⟨fun hall x hx => mem_append_right _ (hall x hx), ?_⟩
  intro hall x hx
  rcases mem_append.mp (hall x hx) with hxway | hxnodes
  · obtain ⟨haround, rfl⟩ := eq_of_way hunique hway hC hx hxway
    exact mem_of_reach h.closed (hend.resolve_right (· haround)) hx
  · exact hxnodes

/-- The way ends on itself. -/
theorem cons (hy : y ∈ way) (hnew : y ∉ nodes) (haround : TransGen edge y y) :
    Explored edge (way ++ nodes) ({z | ReflTransGen edge y z} :: cs) := by
  have hclosed := h.closed_append hnext
  refine ⟨hclosed, nodup_cons.mpr ⟨fun hmem => ?_, h.nodup⟩, fun C => ?_⟩
  · exact hnew (((h.cycles _).mp hmem).2 y .refl)
  · rw [mem_cons, h.cycles]
    constructor
    · rintro (rfl | ⟨hC, hall⟩)
      · exact ⟨⟨y, haround, rfl⟩, fun x => mem_of_reach hclosed (mem_append_left _ hy)⟩
      · exact ⟨hC, fun x hx => mem_append_right _ (hall x hx)⟩
    · intro ⟨hC, hall⟩
      by_cases hold : ∀ x ∈ C, x ∈ nodes
      · exact .inr ⟨hC, hold⟩
      · push Not at hold
        obtain ⟨x, hx, hxnew⟩ := hold
        exact .inl (eq_of_way hunique hway hC hx
          ((mem_append.mp (hall x hx)).resolve_right hxnew)).2

end Explored

end Cycles
