import LoanWorkflow.Framework.Machine
import LoanWorkflow.Model.Context

/-! # Allocating cases to officers

    `GetNextCase` selects the most urgent case that nobody has and assigns it,
    in one transaction. The locking clause stands outside of the `WITH` query,
    so the selection takes no lock, and the assignment has no condition:
    two officers who select before either assigns get the same case.

    - `exclusive_allocation_iff`: no double allocation exactly when every assignment finds
      the case free
-/

namespace LoanWorkflow

open Machine

/-! ## The selection -/

/-- A call of `GetNextCase`. -/
structure NextCaseCall where
  now : Instant
  officerUserId : String
  officerSkills : List String := []
  /-- The cast of a document's text to a truth value. -/
  asBool : Json → Except Err Bool := fun _ => .ok false
  /-- The order in which the database meets rows of equal scores. -/
  rank : Id → Nat := id

def hoursBetween (start finish : Instant) : ℚ := ((finish - start : Int) : ℚ) / 3600000000000

/-- A case without a due date is due in five days. -/
def CaseInstance.remainingHours (c : CaseInstance) (now : Instant) : ℚ :=
  hoursBetween now (c.sla.dueAt.getD (c.createdAt + 5 * 24 * hour))

def NextCaseCall.isVip (call : NextCaseCall) (c : CaseInstance) : Except Err Bool :=
  match c.metadata.field? "is_vip" with
  | none | some .null => .ok false
  | some value => call.asBool value

def complexityPoints : String → ℚ
  | "NON_STANDARD" => 30
  | "STANDARD_3" => 24
  | "STANDARD_2" => 18
  | "STANDARD_1" => 12
  | _ => 6

/-- Urgency, complexity, skills, age and importance of a case. -/
def NextCaseCall.score (call : NextCaseCall) (c : CaseInstance) : ℚ :=
  let remaining := c.remainingHours call.now
  (if remaining ≤ 0 then 40 else max 0 (40 - remaining / 3)) +
    complexityPoints (c.caseComplexity.getD "SIMPLE") +
    (match c.requiredSkills with
      | none => 10
      | some required => if required.any call.officerSkills.contains then 20 else 0) +
    min 10 (hoursBetween c.createdAt call.now / (36 / 5)) +
    (match call.isVip c with
      | .ok true => 10
      | _ => 0)

def CaseInstance.isAllocatable (s : Store) (c : CaseInstance) : Bool :=
  (s.caseTypes.get? c.caseTypeId).any (·.code == "HOME_LOAN_DOC_VERIFICATION") &&
    c.status == .open && c.assignedUserId.isNone && c.currentStageCode == some "ALLOCATION"

/-- `ORDER BY total_score DESC`. -/
def NextCaseCall.before (call : NextCaseCall) (r r' : Id × CaseInstance) : Bool :=
  if call.score r.2 = call.score r'.2 then decide (call.rank r.1 ≤ call.rank r'.1)
  else decide (call.score r'.2 < call.score r.2)

/-- The first statement: the case with the highest score, without a lock. -/
def NextCaseCall.select (call : NextCaseCall) (s : Store) :
    Except Err (Option (Id × CaseInstance)) := do
  let waiting := s.cases.rows.filter (fun r => r.2.isAllocatable s)
  waiting.forM (fun r => discard ((call.isVip r.2).mapError ("GetNextCase: select: " ++ ·)))
  return ((waiting.insertionSort (fun r r' => call.before r r' = true)).take 1).head?

theorem NextCaseCall.select_free {call : NextCaseCall} {s : Store} {k : Id} {c : CaseInstance}
    (h : call.select s = .ok (some (k, c))) :
    s.cases.get? k = some c ∧ c.assignedUserId = none := by
  obtain ⟨_, -, h⟩ := bind_ok h
  have hhead := Except.ok.inj h
  obtain ⟨hget, hwaits⟩ := Table.mem_selection (List.mem_of_mem_head? hhead)
  refine ⟨hget, ?_⟩
  simp only [CaseInstance.isAllocatable, Bool.and_eq_true, Option.isNone_iff_eq_none] at hwaits
  exact hwaits.1.2

/-! ## The writes -/

def CaseInstance.allocate (c : CaseInstance) (now : Instant) (officer : String) : CaseInstance :=
  { c with
    assignedUserId := some officer
    metadata := c.metadata.merge [("allocated_at", .num now), ("allocated_to", .str officer)]
    rowVersion := c.rowVersion + 1 }

/-- The second statement, with no condition but the id, and the event. -/
def assignNextCase (call : NextCaseCall) (k : Id) (seen : CaseInstance) (s : Store) : Store :=
  (s.updateCase k (fun c => c.allocate call.now call.officerUserId)).publish
    { eventType := .caseAllocated, caseId := some k
      payload := .obj [("case_id", .uuid k), ("allocated_to", .str call.officerUserId),
        ("allocation_method", .str "GET_NEXT"),
        ("complexity", .str (seen.caseComplexity.getD "SIMPLE")),
        ("sla_remaining_hours", .num (seen.remainingHours call.now)), ("timestamp", .num call.now)]
      targetService := "case-orchestrator" }

structure UnallocateCall where
  now : Instant
  caseId : Id
  unallocatedBy : String
  reason : String

def CaseInstance.unallocate (c : CaseInstance) (call : UnallocateCall) : CaseInstance :=
  { c with
    assignedUserId := none
    metadata := c.metadata.merge [("unallocated_at", .num call.now),
      ("unallocated_by", .str call.unallocatedBy), ("unallocated_reason", .str call.reason)]
    rowVersion := c.rowVersion + 1 }

/-- The event names the assignee of the row as it is written, so none. -/
def unallocateCase (call : UnallocateCall) (s : Store) : Except Err Store := do
  let _ ← orFail (s.cases.get? call.caseId) "UnallocateCase: update: no rows in result set"
  return (s.updateCase call.caseId (·.unallocate call)).publish
    { eventType := .caseUnallocated, caseId := some call.caseId
      payload := .obj [("case_id", .uuid call.caseId), ("previous_assignee", .str ""),
        ("unallocated_by", .str call.unallocatedBy), ("reason", .str call.reason),
        ("timestamp", .num call.now)]
      targetService := "case-orchestrator" }

/-! ## Officers -/

/-- The store, the cases that calls have selected, and the officers to whom each case was
    returned since it was last unallocated. -/
structure Allocation where
  store : Store
  chosen : Nat → Option (NextCaseCall × Id × CaseInstance) := fun _ => none
  returned : Id → List String := fun _ => []

/-- The statements of the calls, and a rollback in between. -/
inductive AllocationOp where
  | select (i : Nat) (call : NextCaseCall)
  | assign (i : Nat)
  | rollback (i : Nat)
  | unallocate (call : UnallocateCall)

def AllocationOp.exec : AllocationOp → Allocation → Except Err Allocation
  | .select i call, sys => do
    ensure (sys.chosen i).isNone "the call has not ended"
    ensure (call.officerUserId != "") "GetNextCase: officerUserID is required"
    let found ← call.select sys.store
    return { sys with
      chosen := Function.update sys.chosen i (found.map fun r => (call, r.1, r.2)) }
  | .assign i, sys => do
    let (call, k, seen) ← orFail (sys.chosen i) "the call has no case"
    return {
      store := assignNextCase call k seen sys.store
      chosen := Function.update sys.chosen i none
      returned := Function.update sys.returned k (call.officerUserId :: sys.returned k) }
  | .rollback i, sys => .ok { sys with chosen := Function.update sys.chosen i none }
  | .unallocate call, sys => do
    let s ← unallocateCase call sys.store
    return { sys with store := s, returned := Function.update sys.returned call.caseId [] }

def Store.officerOf (s : Store) (k : Id) : Option String := (s.cases.get? k).bind (·.assignedUserId)

/-- A case was returned at most once, and then to the officer who has it. -/
def OneOfficer (returned : List String) (officer : Option String) : Prop :=
  returned = [] ∨ ∃ x, returned = [x] ∧ officer = some x

def Allocation.Exclusive (sys : Allocation) : Prop :=
  ∀ k, OneOfficer (sys.returned k) (sys.store.officerOf k)

def AllocationOp.FindsFree (sys : Allocation) : AllocationOp → Prop
  | .assign i => ∀ call k seen, sys.chosen i = some (call, k, seen) → sys.store.officerOf k = none
  | _ => True

/-! ## Steps and runs -/

/-- A selected case is free, or it was returned to somebody in between. -/
structure Allocation.Sound (sys : Allocation) : Prop where
  exclusive : sys.Exclusive
  chosen : ∀ i call k seen, sys.chosen i = some (call, k, seen) →
    (sys.store.cases.get? k).isSome = true ∧
      (sys.store.officerOf k = none ∨ sys.returned k ≠ [])

/-- One case gets an officer, or loses its officer. -/
structure Gets (k : Id) (officer : Option String) (returned : List String)
    (sys sys' : Allocation) : Prop where
  row : ∀ j, (sys'.store.cases.get? j).isSome = (sys.store.cases.get? j).isSome
  officer : ∀ j, sys'.store.officerOf j = if j = k then officer else sys.store.officerOf j
  returned : ∀ j, sys'.returned j = if j = k then returned else sys.returned j

variable {sys sys' : Allocation} {k : Id} {officer : Option String} {returned : List String}

theorem Gets.of_update (f : CaseInstance → CaseInstance) (e : Event) {chosen}
    (hrow : (sys.store.cases.get? k).isSome = true) (hf : ∀ c, (f c).assignedUserId = officer) :
    Gets k officer returned sys
      ⟨(sys.store.updateCase k f).publish e, chosen, Function.update sys.returned k returned⟩ where
  row j := by
    show ((sys.store.cases.updateAt k f).get? j).isSome = _
    rw [Table.get?_updateAt]
    split <;> simp
  officer j := by
    show ((sys.store.cases.updateAt k f).get? j).bind _ = _
    obtain ⟨c, hget⟩ := Option.isSome_iff_exists.mp hrow
    rw [Table.get?_updateAt]
    by_cases hj : j = k
    · simp [hj, hget, hf]
    · simp [hj, Store.officerOf]
  returned j := Function.update_apply ..

theorem Gets.sound (h : Gets k officer returned sys sys') (hsound : sys.Sound)
    (hchosen : ∀ i x, sys'.chosen i = some x → sys.chosen i = some x)
    (hone : OneOfficer returned officer) (hfree : officer = none ∨ returned ≠ []) :
    sys'.Sound where
  exclusive j := by
    rw [h.officer, h.returned]
    split
    · exact hone
    · exact hsound.exclusive j
  chosen i call j seen hfound := by
    obtain ⟨hrow, hold⟩ := hsound.chosen i call j seen (hchosen i _ hfound)
    rw [h.row, h.officer, h.returned]
    refine ⟨hrow, ?_⟩
    split
    · exact hfree
    · exact hold

theorem chosen_of_ended {chosen : Nat → Option (NextCaseCall × Id × CaseInstance)} {i j : Nat}
    {x : NextCaseCall × Id × CaseInstance} (h : Function.update chosen i none j = some x) :
    chosen j = some x := by
  rw [Function.update_apply] at h
  split at h
  · cases h
  · exact h

/-- An assignment keeps its case exclusive exactly if it finds it free. -/
theorem Allocation.Sound.assign (hsound : sys.Sound) {i : Nat}
    (h : (AllocationOp.assign i).exec sys = .ok sys') :
    (sys'.Exclusive ↔ (AllocationOp.assign i).FindsFree sys) ∧
      ((AllocationOp.assign i).FindsFree sys → sys'.Sound) := by
  obtain ⟨⟨call, k, seen⟩, hfound, h⟩ := bind_ok h
  cases h
  rw [orFail_eq_ok] at hfound
  obtain ⟨hrow, hfree⟩ := hsound.chosen i call k seen hfound
  have hgets : Gets k (some call.officerUserId) (call.officerUserId :: sys.returned k) sys
      ⟨assignNextCase call k seen sys.store, Function.update sys.chosen i none, _⟩ :=
    .of_update (·.allocate call.now call.officerUserId) _ hrow fun _ => rfl
  have hexact : OneOfficer (call.officerUserId :: sys.returned k) (some call.officerUserId) ↔
      sys.store.officerOf k = none := by
    constructor
    · intro hone
      -- nobody got the case since it was selected
      rcases hone with hnil | ⟨x, hcons, -⟩
      · cases hnil
      · exact hfree.resolve_right (absurd (List.cons.inj hcons).2)
    · intro hnone
      rcases hsound.exclusive k with hnil | ⟨x, -, hsome⟩
      · exact .inr ⟨_, by rw [hnil], rfl⟩
      · cases hnone.symm.trans hsome
  have hguard : (AllocationOp.assign i).FindsFree sys ↔ sys.store.officerOf k = none := by
    constructor
    · exact fun h => h call k seen hfound
    · intro hnone call' k' seen' hfound'
      cases hfound.symm.trans hfound'
      exact hnone
  have hkeeps : (AllocationOp.assign i).FindsFree sys → Allocation.Sound _ := fun hfinds =>
    hgets.sound hsound (fun _ _ => chosen_of_ended) (hexact.mpr (hguard.mp hfinds))
      (.inr (List.cons_ne_nil _ _))
  refine ⟨⟨fun hexclusive => hguard.mpr (hexact.mp ?_), fun h => (hkeeps h).exclusive⟩, hkeeps⟩
  have hone := hexclusive k
  rw [hgets.officer, hgets.returned, if_pos rfl, if_pos rfl] at hone
  exact hone

theorem Allocation.Sound.exec (hsound : sys.Sound) {op : AllocationOp} (hfinds : op.FindsFree sys)
    (h : op.exec sys = .ok sys') : sys'.Sound := by
  cases op with
  | select i call =>
    obtain ⟨_, -, h⟩ := bind_ok h
    obtain ⟨_, -, h⟩ := bind_ok h
    obtain ⟨found, hselect, h⟩ := bind_ok h
    cases h
    refine ⟨hsound.exclusive, fun j call' k seen hfound => ?_⟩
    dsimp only at hfound
    rw [Function.update_apply] at hfound
    split at hfound
    · obtain ⟨r, rfl, hr⟩ := Option.map_eq_some_iff.mp hfound
      cases hr
      obtain ⟨hget, hnone⟩ := NextCaseCall.select_free hselect
      exact ⟨by simp [hget], .inl (by simp [Store.officerOf, hget, hnone])⟩
    · exact hsound.chosen j call' k seen hfound
  | assign i => exact (hsound.assign h).2 hfinds
  | rollback i =>
    cases h
    exact ⟨hsound.exclusive, fun j call k seen hfound =>
      hsound.chosen j call k seen (chosen_of_ended hfound)⟩
  | unallocate call =>
    obtain ⟨s, hs, h⟩ := bind_ok h
    obtain ⟨c, hget, hs⟩ := bind_ok hs
    cases hs
    cases h
    refine Gets.sound (.of_update (·.unallocate call) _ ?_ fun _ => rfl) hsound (fun _ _ => id)
      (.inl rfl) (.inl rfl)
    rw [orFail_eq_ok.mp hget]
    rfl

/-- From any store, cases are allocated exclusively along a run exactly when every assignment of
    the run finds its case free. -/
theorem exclusive_allocation_iff (s : Store) (ops : List AllocationOp) :
    Along AllocationOp.exec (fun _ _ sys => sys.Exclusive) { store := s } ops ↔
      Guarded AllocationOp.exec (fun sys op => op.FindsFree sys) { store := s } ops := by
  have hstart : Allocation.Sound { store := s } := ⟨fun _ => .inl rfl, fun _ _ _ _ h => by cases h⟩
  refine along_iff_guarded (I := Allocation.Sound) ?_ ?_ hstart
  · intro sys op hsound
    cases hexec : op.exec sys with
    | error e =>
      have hsame : commit AllocationOp.exec sys op = sys := by
        simp [commit, hexec]
      rw [hsame]
      refine iff_of_true hsound.exclusive ?_
      cases op with
      | assign i =>
        intro call k seen hfound
        simp [AllocationOp.exec, hfound, orFail] at hexec
      | _ => trivial
    | ok sys' =>
      rw [commit_ok hexec]
      cases op with
      | assign i => exact (hsound.assign hexec).1
      | _ => exact iff_of_true (hsound.exec (by trivial) hexec).exclusive trivial
  · exact fun sys op sys' hsound hfinds hexec => hsound.exec hfinds hexec

def waitingCase : Store where
  caseTypes := Table.empty.insert { code := "HOME_LOAN_DOC_VERIFICATION", config := { stages := [] } }
  cases := Table.empty.insert { caseTypeId := 0, currentStageCode := some "ALLOCATION" }

/-- Two officers select before either of them assigns: both get the case. -/
theorem case_allocated_twice : (run AllocationOp.exec { store := waitingCase }
      [.select 0 { now := 1, officerUserId := "ann" }, .select 1 { now := 1, officerUserId := "bob" },
        .assign 0, .assign 1]).returned 0 = ["bob", "ann"] := by
  decide

end LoanWorkflow
