import LoanWorkflow.Engine.CaseCreation
import LoanWorkflow.Versioning.Validation

/-! # The way of a case through its stages

    An accepted configuration has the ordinals `1..n`, in any order of the
    list. A new case starts in the first stage of the list, and goes on to the
    first stage of the list with a higher ordinal.

    - `created_case_walks_iff`: they are `2..n` behind 1 exactly if the stages are
      listed in their order
-/

namespace LoanWorkflow

open List

variable {config : CaseTypeConfig} {ordinal : Int}

/-! ## The walk -/

/-- `findNextStage`, applied again and again to the ordinal that is reached, leads to these stages
    and then to nothing. -/
inductive StageWalk (config : CaseTypeConfig) : Int → List StageDefinition → Prop
  | done {ordinal : Int} (h : findNextStage config ordinal = none) : StageWalk config ordinal []
  | next {ordinal : Int} {st : StageDefinition} {rest : List StageDefinition}
      (h : findNextStage config ordinal = some st) (hrest : StageWalk config st.sequenceOrder rest) :
      StageWalk config ordinal (st :: rest)

/-- The ordinals of `n` stages behind an ordinal. -/
def ordinalsFrom (first : Int) (n : Nat) : List Int :=
  (List.range n).map fun i : Nat => first + i

def StagesListedInOrder (config : CaseTypeConfig) : Prop :=
  config.stages.Pairwise (fun a b => a.sequenceOrder < b.sequenceOrder)

theorem ordinalsFrom_succ (first : Int) (n : Nat) :
    ordinalsFrom first (n + 1) = first :: ordinalsFrom (first + 1) n := by
  unfold ordinalsFrom
  rw [range_succ_eq_map, map_cons, map_map]
  congr 1
  · simp
  · apply map_congr_left
    intro i _
    show first + ((i + 1 : Nat) : Int) = first + 1 + i
    omega

/-- In an ordered list the walk is what is listed behind the ordinal. -/
theorem stageWalk_of_sorted (before after : List StageDefinition)
    (hstages : config.stages = before ++ after)
    (hbefore : ∀ st ∈ before, st.sequenceOrder ≤ ordinal)
    (hafter : ∀ st ∈ after, ordinal < st.sequenceOrder)
    (hsorted : after.Pairwise fun a b => a.sequenceOrder < b.sequenceOrder) :
    StageWalk config ordinal after := by
  induction after generalizing before ordinal with
  | nil =>
    apply StageWalk.done
    rw [findNextStage, hstages, append_nil, find?_eq_none]
    intro st hst
    simpa using hbefore st hst
  | cons st after ih =>
    obtain ⟨hfirst, hrest⟩ := pairwise_cons.mp hsorted
    have hhigher := hafter st mem_cons_self
    apply StageWalk.next
    · have hskip : before.find? (fun st => decide (ordinal < st.sequenceOrder)) = none := by
        rw [find?_eq_none]
        intro st hst
        simpa using hbefore st hst
      rw [findNextStage, hstages, find?_append, hskip, Option.none_or,
        find?_cons_of_pos (by simpa using hhigher)]
    · have hstages' : config.stages = (before ++ [st]) ++ after := by
        rw [hstages, append_assoc]
        rfl
      apply ih (before ++ [st]) hstages' _ hfirst hrest
      intro st' hst'
      rcases mem_append.mp hst' with hold | hnew
      · have := hbefore st' hold
        omega
      · rw [mem_singleton.mp hnew]

/-- The stages of a walk are listed in the order in which it takes them. -/
theorem StageWalk.sublist {walk : List StageDefinition} (hwalk : StageWalk config ordinal walk)
    (before after : List StageDefinition) (hstages : config.stages = before ++ after)
    (hbefore : ∀ st ∈ before, st.sequenceOrder ≤ ordinal) : walk.Sublist after := by
  induction hwalk generalizing before after with
  | done _ => exact nil_sublist after
  | @next ordinal st rest hnext _ ih =>
    rw [findNextStage, hstages, find?_append, find?_eq_none.mpr (by simpa using hbefore),
      Option.none_or] at hnext
    obtain ⟨hhigher, skipped, later, rfl, hskipped⟩ := find?_eq_some_iff_append.mp hnext
    simp only [decide_eq_true_eq, Bool.not_eq_true', decide_eq_false_iff_not] at hhigher hskipped
    apply Sublist.trans _ (sublist_append_right skipped (st :: later))
    apply Sublist.cons_cons
    apply ih (before ++ skipped ++ [st]) later (by simp [hstages])
    intro st' hst'
    rcases mem_append.mp hst' with hst' | hst'
    · rcases mem_append.mp hst' with hold | hnew
      · have := hbefore st' hold
        omega
      · have := hskipped st' hnew
        omega
    · rw [mem_singleton.mp hst']

/-! ## Accepted configurations -/

theorem listedInOrder_iff (haccepted : validateCaseTypeConfig config = []) :
    StagesListedInOrder config ↔
      config.stages.map (·.sequenceOrder) = ordinalsFrom 1 config.stages.length := by
  have hsame : ((List.range config.stages.length).map fun i : Nat => (i : Int) + 1) =
      ordinalsFrom 1 config.stages.length := by
    apply map_congr_left
    intro i _
    omega
  have hperm := ordinals_perm_of_accepted haccepted
  have hcounted : (ordinalsFrom 1 config.stages.length).Pairwise (· < ·) := by
    rw [ordinalsFrom, pairwise_map]
    apply pairwise_lt_range.imp
    intro i j hij
    omega
  rw [StagesListedInOrder, ← pairwise_map (f := fun st : StageDefinition => st.sequenceOrder)
    (R := (· < ·))]
  rw [hsame] at hperm
  constructor
  · intro hlisted
    exact (hperm.eq_of_pairwise (fun a b _ _ hab hba => by omega) hcounted hlisted).symm
  · intro hall
    rw [hall]
    exact hcounted

/-- The entry stage is the first and the walk from it takes the others in their order exactly if
    the stages are listed so. -/
theorem walks_in_order_iff {entry : StageDefinition} {rest : List StageDefinition}
    (haccepted : validateCaseTypeConfig config = []) (hstages : config.stages = entry :: rest) :
    (entry.sequenceOrder = 1 ∧ ∃ walk, StageWalk config entry.sequenceOrder walk ∧
      walk.map (·.sequenceOrder) = ordinalsFrom 2 (config.stages.length - 1)) ↔
    StagesListedInOrder config := by
  have hentry : ∀ st ∈ [entry], st.sequenceOrder ≤ entry.sequenceOrder := by simp
  have hlisted := listedInOrder_iff haccepted
  constructor
  · intro ⟨hone, walk, hwalk, hordinals⟩
    -- a walk through as many stages as there are behind the entry leaves none of them out
    have hlength := congrArg List.length hordinals
    simp only [ordinalsFrom, hstages, length_map, length_range, length_cons,
      Nat.add_sub_cancel] at hlength
    obtain rfl := (hwalk.sublist [entry] rest hstages hentry).eq_of_length hlength
    rw [hlisted, hstages, map_cons, length_cons, ordinalsFrom_succ, hone]
    rw [hordinals, hstages]
    rfl
  · intro hsorted
    have hall := hlisted.mp hsorted
    rw [hstages, map_cons, length_cons, ordinalsFrom_succ, List.cons.injEq] at hall
    rw [StagesListedInOrder, hstages, pairwise_cons] at hsorted
    refine ⟨hall.1, rest, stageWalk_of_sorted [entry] rest hstages hentry hsorted.1 hsorted.2, ?_⟩
    rw [hstages]
    exact hall.2

/-! ## New cases -/

/-- A case that `CreateCase` makes of an accepted configuration with `n` stages stands in the stage
    with the ordinal 1, and goes from there through `2..n` and then to nothing, exactly if the
    stages are listed in their order. -/
theorem created_case_walks_iff (lib : Library) (ctx : Ctx)
    (admission : Store → String → String → Except Err Unit) (contextTenant : Option String)
    (req : CreateCaseRequest) (s s' : Store) (caseId : Id) (c : CaseInstance) (ct : CaseType)
    (hok : createCase lib ctx admission contextTenant req s = .ok (caseId, s'))
    (hc : s'.cases.get? caseId = some c) (hct : s'.caseTypes.get? c.caseTypeId = some ct)
    (haccepted : validateCaseTypeConfig ct.config = []) :
    ((∃ st ∈ ct.config.stages, st.sequenceOrder = 1 ∧ c.currentStageCode = some st.code) ∧
      c.currentStageOrdinal = 1 ∧
      ∃ walk, StageWalk ct.config c.currentStageOrdinal walk ∧
        walk.map (·.sequenceOrder) = ordinalsFrom 2 (ct.config.stages.length - 1)) ↔
    StagesListedInOrder ct.config := by
  obtain ⟨c₁, ct₁, entry, rest, -, hc₁, hct₁, -, -, hstages, hcode, hordinal⟩ := createCase_entry hok
  rw [hc] at hc₁
  obtain rfl := Option.some.inj hc₁
  rw [hct] at hct₁
  obtain rfl := Option.some.inj hct₁
  rw [← walks_in_order_iff haccepted hstages, hordinal]
  constructor
  · intro ⟨_, hone, hwalk⟩
    exact ⟨hone, hwalk⟩
  · intro ⟨hone, hwalk⟩
    exact ⟨⟨entry, by rw [hstages]; exact mem_cons_self, hone, hcode⟩, hone, hwalk⟩

/-- A type of two stages, the second one with the ordinal `3 - first`. -/
def twoStageConfig (first : Int) : CaseTypeConfig where
  stages := [
    { code := "A", sequenceOrder := first, activities := [{ code := "CHECK" }] },
    { code := "B", sequenceOrder := 3 - first, activities := [{ code := "CHECK" }] }]

def twoStageStore (first : Int) : Store where
  caseTypes := Table.empty.insert { code := "LOAN", config := twoStageConfig first }

def createTwoStage (first : Int) : Except Err (Id × Store) :=
  createCase Library.plain (Ctx.plain 0) (fun _ _ _ => .ok ()) none { caseTypeCode := "LOAN" }
    (twoStageStore first)

/-- In a list in its order, the case starts with the first stage and is led to the second. -/
theorem created_case_walks_iff_listed : ∃ caseId s' c, createTwoStage 1 = .ok (caseId, s') ∧
    s'.cases.get? caseId = some c ∧ c.currentStageOrdinal = 1 ∧
    ∃ walk, StageWalk (twoStageConfig 1) 1 walk ∧ walk.map (·.sequenceOrder) = [2] := by
  have hok : (createTwoStage 1).isOk = true := by decide +kernel
  cases hrun : createTwoStage 1 with
  | error e =>
    rw [hrun] at hok
    cases hok
  | ok r =>
    obtain ⟨c, ct, _, _, -, hc, hct, htypes, -⟩ := createCase_entry hrun
    have hconfig : ct.config = twoStageConfig 1 := by
      have hrow := hct
      rw [htypes, Table.get?_eq_some_iff] at hrow
      have hpair : (c.caseTypeId, ct) = (0, { code := "LOAN", config := twoStageConfig 1 }) :=
        mem_singleton.mp hrow
      rw [(Prod.mk.inj hpair).2]
    have hwalks := (created_case_walks_iff _ _ _ _ _ _ r.2 r.1 c ct hrun hc hct
      (by rw [hconfig]; decide +kernel)).mpr (by rw [hconfig]; simp [StagesListedInOrder, twoStageConfig])
    obtain ⟨-, hone, hwalk⟩ := hwalks
    rw [hconfig, hone] at hwalk
    exact ⟨r.1, r.2, c, rfl, hc, hone, hwalk⟩

/-- With the stage of ordinal 2 in front, the case starts there and is led to no other. -/
theorem entry_is_second_stage : validateCaseTypeConfig (twoStageConfig 2) = [] ∧
    (createTwoStage 2).toOption.map (fun r => (r.2.cases.get? r.1).map fun c =>
      (c.currentStageCode, c.currentStageOrdinal)) = some (some (some "A", 2)) ∧
    StageWalk (twoStageConfig 2) 2 [] :=
  ⟨by decide +kernel, by decide +kernel, .done rfl⟩

end LoanWorkflow
