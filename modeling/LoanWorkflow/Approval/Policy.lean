import LoanWorkflow.Framework.Binary64
import LoanWorkflow.Model.Config

/-! # Approval policies

    `evaluatePolicyCounts` turns the vote counts of a gate into a verdict:
    satisfied, failed, or still open. Each policy has its own early tests, in
    its own order; `Satisfies` and `Fails` say what the tests amount to, and
    the rest of the development reasons about those two predicates only.
-/

namespace LoanWorkflow

/-! ## Counts and verdicts -/

/-- How many requests of a gate are in each counted status.
    Delegated requests are not counted. -/
structure RequestCounts where
  approved : Nat := 0
  rejected : Nat := 0
  pending : Nat := 0
  expired : Nat := 0
deriving DecidableEq, Repr

/-- The sum over the counted statuses. -/
def RequestCounts.total (c : RequestCounts) : Nat :=
  c.approved + c.rejected + c.pending + c.expired

/-- `policyEvaluationResult`. -/
structure PolicyEvaluation where
  satisfied : Bool := false
  failed : Bool := false
  err : Option Err := none
deriving DecidableEq, Repr

def PolicyEvaluation.decided (e : PolicyEvaluation) : Bool := e.satisfied ^^ e.failed

/-! ## The evaluation -/

/-- `0.66` as a double. -/
def requiredPct : ℚ := Binary64.round (66 / 100)

/-- `float64(part) / float64(total)`; row counts are small enough for the two
    conversions to be exact. -/
def pct (part total : Nat) : ℚ := Binary64.round ((part : ℚ) / (total : ℚ))

def evaluatePolicyCounts (policy : ApprovalPolicy) (required : Int) (c : RequestCounts) :
    PolicyEvaluation :=
  if c.total = 0 then {}
  else match policy with
  | .singleApprover => { satisfied := decide (1 ≤ c.approved) }
  | .allMustApprove =>
    if 0 < c.rejected then { failed := true }
    else { satisfied := decide (c.approved = c.total) }
  | .anyCanApprove =>
    let needed : Int := if 1 < required then required else 1
    if needed ≤ c.approved then { satisfied := true }
    else if c.rejected = c.total ∨ ((c.approved + c.pending : Nat) : Int) < needed then
      { failed := true }
    else {}
  | .majority =>
    let threshold := c.total / 2
    if threshold < c.approved then { satisfied := true }
    else if threshold < c.rejected then { failed := true }
    else if 0 < required ∧ required ≤ c.approved then { satisfied := true }
    else {}
  | .consensus =>
    if requiredPct < pct c.approved c.total then { satisfied := true }
    else if pct (c.approved + c.pending) c.total ≤ requiredPct then { failed := true }
    else if 0 < required ∧ required ≤ c.approved then { satisfied := true }
    else {}
  | .other name => { err := some ("unsupported policy " ++ name) }

/-! ## What the tests amount to -/

/-- The counts for which a policy is satisfied. -/
def Satisfies : ApprovalPolicy → Int → RequestCounts → Prop
  | .singleApprover, _, c => 1 ≤ c.approved
  | .allMustApprove, _, c => c.approved = c.total
  | .anyCanApprove, required, c => max 1 required ≤ c.approved
  | .majority, required, c =>
    c.total < 2 * c.approved ∨ (2 * c.rejected ≤ c.total ∧ 0 < required ∧ required ≤ c.approved)
  | .consensus, required, c =>
    requiredPct < pct c.approved c.total ∨
      (requiredPct < pct (c.approved + c.pending) c.total ∧ 0 < required ∧ required ≤ c.approved)
  | .other _, _, _ => False

/-- The counts for which a policy has failed. -/
def Fails : ApprovalPolicy → Int → RequestCounts → Prop
  | .singleApprover, _, _ => False
  | .allMustApprove, _, c => 0 < c.rejected
  | .anyCanApprove, required, c => ((c.approved + c.pending : Nat) : Int) < max 1 required
  | .majority, _, c => c.total < 2 * c.rejected
  | .consensus, _, c => pct (c.approved + c.pending) c.total ≤ requiredPct
  | .other _, _, _ => False

theorem pct_mono {a b : Nat} (total : Nat) (h : a ≤ b) : pct a total ≤ pct b total := by
  apply Binary64.round_mono
  gcongr

theorem pct_le_pct {a b t t' : Nat} (hab : a ≤ b) (ht : t' ≤ t) (hpos : 0 < t') :
    pct a t ≤ pct b t' := by
  apply Binary64.round_mono
  have hb : (a : ℚ) ≤ b := by exact_mod_cast hab
  have htq : (t' : ℚ) ≤ t := by exact_mod_cast ht
  have hposq : (0 : ℚ) < t' := by exact_mod_cast hpos
  have ha : (0 : ℚ) ≤ a := by positivity
  exact div_le_div₀ (ha.trans hb) hb hposq htq

theorem pct_self {n : Nat} (h : 0 < n) : pct n n = 1 := by
  have hne : (n : ℚ) ≠ 0 := by positivity
  simp only [pct, div_self hne, Binary64.round_one]

theorem requiredPct_lt_one : requiredPct < 1 := by
  have hle : requiredPct ≤ Binary64.round (3 / 4) := Binary64.round_mono (by norm_num)
  rw [Binary64.round_three_quarters] at hle
  linarith

theorem requiredPct_nonneg : 0 ≤ requiredPct := by
  unfold requiredPct Binary64.round
  rw [if_neg (by norm_num)]
  exact Binary64.roundPos_nonneg (by norm_num)

@[simp] theorem pct_zero (total : Nat) : pct 0 total = 0 := by
  simp [pct, Binary64.round, Binary64.roundPos, Binary64.nearestEven]

section spec

variable (policy : ApprovalPolicy) (required : Int) {c : RequestCounts}

@[simp] theorem evaluatePolicyCounts_total_zero (h : c.total = 0) :
    evaluatePolicyCounts policy required c = {} := by
  simp [evaluatePolicyCounts, h]

theorem evaluatePolicyCounts_iff (h : 0 < c.total) :
    ((evaluatePolicyCounts policy required c).satisfied = true ↔ Satisfies policy required c) ∧
      ((evaluatePolicyCounts policy required c).failed = true ↔ Fails policy required c) := by
  have hne : c.total ≠ 0 := by omega
  have hsum : c.total = c.approved + c.rejected + c.pending + c.expired := rfl
  cases policy with
  | singleApprover => simp [evaluatePolicyCounts, Satisfies, Fails, hne]
  | allMustApprove | anyCanApprove | majority =>
    simp only [evaluatePolicyCounts, Satisfies, Fails, hne, if_false]
    split_ifs <;> simp <;> omega
  | consensus =>
    -- enough approvals already: the best outcome still open is enough too
    have hopen := pct_mono c.total (Nat.le_add_right c.approved c.pending)
    simp only [evaluatePolicyCounts, Satisfies, Fails, hne, if_false]
    split_ifs with h₁ h₂ h₃
    · simp [h₁, h₁.trans_le hopen]
    · simp [h₁, h₂, not_lt.mpr h₂]
    · simp [h₃, not_le.mp h₂]
    · simpa [h₁, not_le.mp h₂] using h₃
  | other name => simp [evaluatePolicyCounts, Satisfies, Fails, hne]

theorem evaluatePolicyCounts_satisfied (h : 0 < c.total) :
    (evaluatePolicyCounts policy required c).satisfied = true ↔ Satisfies policy required c :=
  (evaluatePolicyCounts_iff policy required h).1

theorem evaluatePolicyCounts_failed (h : 0 < c.total) :
    (evaluatePolicyCounts policy required c).failed = true ↔ Fails policy required c :=
  (evaluatePolicyCounts_iff policy required h).2

variable {policy required} in
/-- No counts satisfy and fail a policy at once. -/
theorem Satisfies.not_fails (hs : Satisfies policy required c) : ¬ Fails policy required c := by
  have hsum : c.total = c.approved + c.rejected + c.pending + c.expired := rfl
  cases policy with
  | singleApprover => exact id
  | consensus =>
    simp only [Satisfies, Fails, not_le] at *
    rcases hs with hs | ⟨hs, -⟩
    · exact lt_of_lt_of_le hs (pct_mono _ (Nat.le_add_right _ _))
    · exact hs
  | other name => exact absurd hs id
  | _ => simp only [Satisfies, Fails] at *; omega

end spec

/-- Without a required count, more approvals on fewer requests keep a verdict. -/
theorem evaluatePolicyCounts_satisfied_mono {policy : ApprovalPolicy} {c c' : RequestCounts}
    (happroved : c.approved ≤ c'.approved) (htotal : c'.total ≤ c.total)
    (h : (evaluatePolicyCounts policy 0 c).satisfied = true) :
    (evaluatePolicyCounts policy 0 c').satisfied = true := by
  have hpos : 0 < c.total := by
    by_contra hzero
    rw [evaluatePolicyCounts_total_zero policy 0 (by omega)] at h
    cases h
  have hsum' : c'.total = c'.approved + c'.rejected + c'.pending + c'.expired := rfl
  rw [evaluatePolicyCounts_satisfied policy 0 hpos] at h
  have happ : 0 < c.approved := by
    cases policy with
    | consensus =>
      simp only [Satisfies] at h
      by_contra hnone
      rw [show c.approved = 0 by omega, pct_zero] at h
      rcases h with h | ⟨-, h, -⟩
      · exact absurd requiredPct_nonneg (not_le.mpr h)
      · omega
    | other name => exact absurd h id
    | _ => simp only [Satisfies] at h; omega
  rw [evaluatePolicyCounts_satisfied policy 0 (by omega)]
  cases policy with
  | consensus =>
    simp only [Satisfies] at h ⊢
    rcases h with h | ⟨-, h, -⟩
    · exact Or.inl (lt_of_lt_of_le h (pct_le_pct happroved htotal (by omega)))
    · omega
  | other name => exact h
  | _ => simp only [Satisfies] at h ⊢; omega

/-! ## Fully decided gates -/

/-- The counts without a pending request for which a policy reaches a verdict. -/
def ClosesFullyDecided : ApprovalPolicy → Int → RequestCounts → Prop
  | .singleApprover, _, c => 1 ≤ c.approved
  | .allMustApprove, _, c => 0 < c.rejected ∨ c.expired = 0
  | .anyCanApprove, _, _ => True
  | .majority, required, c =>
    c.total < 2 * c.approved ∨ c.total < 2 * c.rejected ∨ required ≤ c.approved
  | .consensus, _, _ => True
  | .other _, _, _ => False

theorem decided_iff {policy : ApprovalPolicy} {required : Int} {c : RequestCounts}
    (h : 0 < c.total) :
    (evaluatePolicyCounts policy required c).decided = true ↔
      Satisfies policy required c ∨ Fails policy required c := by
  have hs := evaluatePolicyCounts_satisfied policy required h
  have hf := evaluatePolicyCounts_failed policy required h
  have hboth : Satisfies policy required c → ¬ Fails policy required c := Satisfies.not_fails
  unfold PolicyEvaluation.decided
  cases hsat : (evaluatePolicyCounts policy required c).satisfied <;>
    cases hfail : (evaluatePolicyCounts policy required c).failed <;> simp_all

/-- Once nobody can vote any more, a policy reaches exactly one verdict unless it is
    a single-approver gate without an approval, an all-must-approve gate with expired and no
    rejected requests, or a majority gate on which neither side has more than half. -/
theorem evaluatePolicyCounts_closes_iff (policy : ApprovalPolicy) (required : Int)
    (c : RequestCounts) (hrequired : 1 ≤ required) (htotal : 0 < c.total)
    (hpending : c.pending = 0) :
    (evaluatePolicyCounts policy required c).decided = true ↔
      ClosesFullyDecided policy required c := by
  rw [decided_iff htotal]
  have hsum : c.total = c.approved + c.rejected + c.pending + c.expired := rfl
  cases policy with
  | singleApprover => simp [Satisfies, Fails, ClosesFullyDecided]
  | allMustApprove => simp only [Satisfies, Fails, ClosesFullyDecided]; omega
  | anyCanApprove =>
    simp only [Satisfies, Fails, ClosesFullyDecided, hpending, iff_true]
    omega
  | majority =>
    simp only [Satisfies, Fails, ClosesFullyDecided]
    omega
  | consensus =>
    simp only [Satisfies, Fails, ClosesFullyDecided, hpending, Nat.add_zero, iff_true]
    rcases lt_or_ge requiredPct (pct c.approved c.total) with hlt | hle
    · exact Or.inl (Or.inl hlt)
    · exact Or.inr hle
  | other name => simp [Satisfies, Fails, ClosesFullyDecided]

theorem evaluatePolicyCounts_closes_majority :
    (evaluatePolicyCounts .majority 1 { approved := 1, rejected := 1 }).decided = true ↔
      ClosesFullyDecided .majority 1 { approved := 1, rejected := 1 } :=
  evaluatePolicyCounts_closes_iff .majority 1 { approved := 1, rejected := 1 }
    (by decide) (by decide) rfl

/-- Gates on which nobody can vote any more and that stay open: a single approver who let
    the request expire, one approval and one expiry where all must approve, and a tie. -/
theorem fully_decided_stays_open :
    (evaluatePolicyCounts .singleApprover 1 { expired := 1 }).decided = false ∧
      (evaluatePolicyCounts .allMustApprove 1 { approved := 1, expired := 1 }).decided = false ∧
      (evaluatePolicyCounts .majority 2 { approved := 1, rejected := 1 }).decided = false := by
  decide

end LoanWorkflow
