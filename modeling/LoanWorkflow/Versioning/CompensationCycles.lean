import LoanWorkflow.Framework.Cycles
import LoanWorkflow.Versioning.Validation

/-! # Cycles of compensating tasks

    `validateCompensatingCycle` follows the compensating task of every task
    with a search that marks the nodes of its way and the nodes it has left.

    - `compensating_cycles_exact`
-/

namespace LoanWorkflow

open List Relation Cycles

variable {graph : List (String × String)} {fuel n : Nat} {r : Scan} {path done : List String}
  {node next : String}

/-- The edges of the map. A blank code stands for no compensating task. -/
def CompensatedBy (graph : List (String × String)) (x y : String) : Prop :=
  graph.lookup x = some y ∧ isBlank y = false

theorem edges_unique : Relator.RightUnique (CompensatedBy graph) :=
  fun _ _ _ hy hz => Option.some.inj (hy.1.symm.trans hz.1)

/-- The nodes are explored, and each of their cycles has been added to `n` violations. -/
def Reported (graph : List (String × String)) (n : Nat) (r : Scan) (nodes : List String) : Prop :=
  ∃ cs, Explored (CompensatedBy graph) nodes cs ∧ r.violations.length = n + cs.length

/-- A search that has come to a node along a path. -/
structure Searching (graph : List (String × String)) (path done : List String) (node : String) :
    Prop where
  way : ∀ x ∈ path, TransGen (CompensatedBy graph) x node
  next : ∀ x ∈ path, ∀ y, CompensatedBy graph x y → y ∈ node :: path
  fresh : ∀ x ∈ path, x ∉ done
  nodup : path.Nodup

/-- A path without repetition is no longer than the graph. -/
theorem Searching.length_le (h : Searching graph path done node) : path.length ≤ graph.length := by
  have hkeys : path ⊆ graph.map Prod.fst := by
    intro x hx
    obtain ⟨y, ⟨hedge, -⟩, -⟩ := TransGen.head'_iff.mp (h.way x hx)
    by_contra hnone
    rw [lookup_eq_none_iff_not_mem.mpr hnone] at hedge
    cases hedge
  simpa using (h.nodup.subperm hkeys).length_le

/-- A new node is on the path while its edge is followed. -/
theorem Searching.push (h : Searching graph path done node) (hpath : node ∉ path)
    (hdone : node ∉ done) (hedge : CompensatedBy graph node next) :
    Searching graph (node :: path) done next where
  way := forall_mem_cons.mpr ⟨.single hedge, fun x hx => (h.way x hx).tail hedge⟩
  next := forall_mem_cons.mpr ⟨fun y hy => by simp [edges_unique hy hedge],
    fun x hx y hy => mem_cons_of_mem _ (h.next x hx y hy)⟩
  fresh := forall_mem_cons.mpr ⟨hdone, h.fresh⟩
  nodup := nodup_cons.mpr ⟨hpath, h.nodup⟩

/-- The search from a node ends with fuel for all nodes that are not on the path, and has then
    explored the path too. -/
theorem visitCompensation_reports (hr : Reported graph n r done)
    (h : Searching graph path done node) (hfuel : graph.length < path.length + fuel) :
    ∃ r' done', (∀ more,
        visitCompensation graph (fuel + more) path (r, done) node = (r', done')) ∧
      Reported graph n r' (path ++ done') ∧ node ∈ path ++ done' ∧ done ⊆ done' := by
  induction fuel generalizing path done node with
  | zero => exact absurd hfuel h.length_le.not_gt
  | succ fuel ih =>
    obtain ⟨cs, hexplored, hlength⟩ := id hr
    have hreach : ∀ x ∈ path, ReflTransGen (CompensatedBy graph) x node :=
      fun x hx => (h.way x hx).to_reflTransGen
    have hnext : node ∈ path ++ done →
        ∀ x ∈ path, ∀ y, CompensatedBy graph x y → y ∈ path ++ done := by
      intro hnode x hx y hedge
      rcases mem_cons.mp (h.next x hx y hedge) with rfl | hy
      · exact hnode
      · exact mem_append_left _ hy
    by_cases hpath : node ∈ path
    · obtain ⟨message, hvisit⟩ : ∃ message, ∀ more,
          visitCompensation graph (fuel + 1 + more) path (r, done) node =
            (r.add "task_definitions.compensating_task_code" message, done) :=
        ⟨_, fun more => by
          rw [Nat.add_right_comm, visitCompensation, if_pos (by simpa using hpath)]⟩
      have hnode : node ∈ path ++ done := mem_append_left _ hpath
      refine ⟨_, done, hvisit, ⟨_, hexplored.cons edges_unique hreach (hnext hnode) hpath
        (h.fresh node hpath) (h.way node hpath), ?_⟩, hnode, Subset.refl _⟩
      rw [Scan.add, length_append, hlength]
      rfl
    by_cases hdone : node ∈ done
    · have hnode : node ∈ path ++ done := mem_append_right _ hdone
      refine ⟨r, done, fun more => ?_, ⟨cs, hexplored.keep edges_unique hreach (hnext hnode)
        (.inl hdone), hlength⟩, hnode, Subset.refl _⟩
      rw [Nat.add_right_comm, visitCompensation, if_neg (by simpa using hpath),
        if_pos (by simpa using hdone)]
    by_cases hedge : ∃ next, CompensatedBy graph node next
    · obtain ⟨next, hedge⟩ := hedge
      obtain ⟨r', done', hvisit, ⟨cs', hexplored', hlength'⟩, -, hsub⟩ :=
        ih hr (h.push hpath hdone hedge) (by rw [length_cons]; omega)
      refine ⟨r', node :: done', fun more => ?_, ⟨cs', hexplored'.perm perm_middle.symm, hlength'⟩,
        by simp, fun _ hx => mem_cons_of_mem _ (hsub hx)⟩
      rw [Nat.add_right_comm, visitCompensation]
      simp [hpath, hdone, hedge.1, hedge.2, hvisit more]
    · have hloop : ¬ TransGen (CompensatedBy graph) node node := by
        intro haround
        obtain ⟨next, hnext, -⟩ := TransGen.head'_iff.mp haround
        exact hedge ⟨next, hnext⟩
      have hexplored' : Explored _ (node :: path ++ done) cs :=
        hexplored.keep edges_unique (forall_mem_cons.mpr ⟨.refl, hreach⟩)
          (forall_mem_cons.mpr ⟨fun z hz => absurd ⟨z, hz⟩ hedge,
            fun x hx y hy => mem_append_left _ (h.next x hx y hy)⟩) (.inr hloop)
      refine ⟨r, node :: done, fun more => ?_, ⟨cs, hexplored'.perm perm_middle.symm, hlength⟩,
        by simp, subset_cons_self ..⟩
      rw [Nat.add_right_comm, visitCompensation]
      cases hnext : graph.lookup node with
      | none => simp [hpath, hdone]
      | some next =>
        have hblank : isBlank next = true := by
          by_contra hblank
          exact hedge ⟨next, hnext, by simpa using hblank⟩
        simp [hpath, hdone, hblank]

theorem searches_report (hfuel : graph.length < fuel)
    (starts : List (String × String)) (hr : Reported graph n r done) :
    ∃ r' done', (∀ more, starts.foldl (fun acc e =>
        visitCompensation graph (fuel + more) [] acc e.1) (r, done) = (r', done')) ∧
      Reported graph n r' done' ∧ (∀ e ∈ starts, e.1 ∈ done') ∧ done ⊆ done' := by
  induction starts generalizing r done with
  | nil => exact ⟨r, done, fun _ => rfl, hr, by simp, Subset.refl _⟩
  | cons e starts ih =>
    have hsearch : Searching graph [] done e.1 := ⟨by simp, by simp, by simp, nodup_nil⟩
    obtain ⟨r₁, done₁, hvisit, hr₁, hnode, hsub⟩ :=
      visitCompensation_reports hr hsearch (by simpa using hfuel)
    obtain ⟨r', done', hrest, hr', hnodes, hsub'⟩ := ih hr₁
    refine ⟨r', done', fun more => ?_, hr', forall_mem_cons.mpr ⟨hsub' hnode, hnodes⟩,
      fun _ hx => hsub' (hsub hx)⟩
    rw [foldl_cons, hvisit]
    exact hrest more

/-- For every map, with its entries in the order of the iteration, as many violations are added
    as the map has cycles, and no search runs out of fuel. -/
theorem compensating_cycles_exact (graph : List (String × String)) (r : Scan) :
    (∃ cs : List (Set String), cs.Nodup ∧ (∀ C, C ∈ cs ↔ IsCycle (CompensatedBy graph) C) ∧
      (validateCompensatingCycle r graph).violations.length = r.violations.length + cs.length) ∧
    ∀ fuel ≥ graph.length + 2, validateCompensatingCycle r graph =
      (graph.foldl (fun acc e => visitCompensation graph fuel [] acc e.1) (r, [])).1 := by
  have hstart : Reported graph r.violations.length r [] := by
    refine ⟨[], ⟨by simp, nodup_nil, fun C => ?_⟩, rfl⟩
    simp only [not_mem_nil, false_iff, not_and]
    rintro ⟨x, -, rfl⟩ hnone
    exact hnone x .refl
  obtain ⟨r', done, hvisit, ⟨cs, hexplored, hlength⟩, hnodes, -⟩ :=
    searches_report (show graph.length < graph.length + 2 by omega) graph hstart
  have hresult : validateCompensatingCycle r graph = r' := congrArg Prod.fst (hvisit 0)
  refine ⟨⟨cs, hexplored.nodup, fun C => ?_, hresult ▸ hlength⟩, fun fuel hfuel => ?_⟩
  · rw [hexplored.cycles, and_iff_left_iff_imp]
    rintro ⟨x, haround, rfl⟩ y hy
    -- the first node has an edge, so a search has started there
    obtain ⟨z, ⟨hedge, -⟩, -⟩ := TransGen.head'_iff.mp haround
    refine mem_of_reach hexplored.closed ?_ hy
    by_contra hnew
    rw [lookup_eq_none_iff_not_mem.mpr] at hedge
    · cases hedge
    · rintro hkey
      obtain ⟨e, he, rfl⟩ := mem_map.mp hkey
      exact hnew (hnodes e he)
  · obtain ⟨more, rfl⟩ := Nat.exists_eq_add_of_le hfuel
    rw [hresult, hvisit]

end LoanWorkflow
