import LoanWorkflow.Approval.Evaluator
import LoanWorkflow.Framework.Machine
import Mathlib.Data.Bool.Count

/-! # The order of votes

    The requests of a gate are decided one by one, and the gate is evaluated
    after each decision. The gate keeps its first verdict, so an early verdict
    in one order may contradict the verdict of another order.

    A `Tally` is what the evaluation sees of the store: the counts and the
    status of the gate. `represents_castVote` ties the two together, and the
    confluence argument is about lists of votes only.
-/

namespace LoanWorkflow

open List Table Machine

variable {g gate : ApprovalGate} {gateId k : Id} {required : Int} {order : List (Id × Instant)}
  {votes : List Bool} {ids : List Id} {approved : Nat} {s : Store}

/-! ## Casting votes -/

def ApprovalRequest.vote (r : ApprovalRequest) (approve : Bool) : ApprovalRequest :=
  { r with status := if approve then .approved else .rejected }

@[simp] theorem ApprovalRequest.vote_gate (r : ApprovalRequest) (approve : Bool) :
    (r.vote approve).approvalGateId = r.approvalGateId := rfl

@[simp] theorem ApprovalRequest.vote_status (r : ApprovalRequest) (approve : Bool) :
    (r.vote approve).status = if approve then .approved else .rejected := rfl

/-- Decide one request at an instant as the assignment says, then evaluate the gate. -/
def castVote (assignment : Id → Bool) (gateId : Id) (op : Id × Instant) (s : Store) :
    Except Err Store := do
  let s := s.updateRequest op.1 (fun r => r.vote (assignment op.1))
  let (_, s) ← evaluateApprovalPolicy s op.2 gateId
  return s

/-- The status of the gate after the requests are decided in an order. -/
def finalStatus (assignment : Id → Bool) (gateId : Id) (s : Store)
    (order : List (Id × Instant)) : Option GateStatus :=
  ((run (castVote assignment gateId) s order).gates.get? gateId).map (·.gateStatus)

/-- An active gate with its requests, all of them pending. -/
structure OpenBallot (s : Store) (gateId : Id) (gate : ApprovalGate) (ids : List Id) : Prop where
  /-- The gate is stored. -/
  gate_get : s.gates.get? gateId = some gate
  /-- The gate is active. -/
  active : gate.gateStatus = .active
  /-- No request is listed twice. -/
  nodup : ids.Nodup
  /-- The listed requests belong to the gate and are pending. -/
  pending : ∀ k ∈ ids, ∃ r, s.requests.get? k = some r ∧ r.approvalGateId = gateId ∧
    r.status = .pending
  /-- Every request of the gate is listed. -/
  complete : ∀ k r, s.requests.get? k = some r → r.approvalGateId = gateId → k ∈ ids

/-! ## Tallies -/

structure Tally where
  counts : RequestCounts
  status : GateStatus

def closeBy (e : PolicyEvaluation) (status : GateStatus) : GateStatus :=
  if status = .active then
    if e.failed then .failed else if e.satisfied then .satisfied else .active
  else status

/-- One pending request becomes an approval or a rejection. -/
def RequestCounts.vote (c : RequestCounts) (approve : Bool) : RequestCounts :=
  if approve then { c with approved := c.approved + 1, pending := c.pending - 1 }
  else { c with rejected := c.rejected + 1, pending := c.pending - 1 }

def Tally.vote (policy : ApprovalPolicy) (required : Int) (t : Tally) (approve : Bool) : Tally where
  counts := t.counts.vote approve
  status := closeBy (evaluatePolicyCounts policy required (t.counts.vote approve)) t.status

/-- `n` open requests on an active gate. -/
def Tally.start (n : Nat) : Tally := ⟨{ pending := n }, .active⟩

def tallyAfter (policy : ApprovalPolicy) (required : Int) (n : Nat) (votes : List Bool) : Tally :=
  votes.foldl (Tally.vote policy required) (Tally.start n)

/-- The counts after a list of votes on `n` requests. -/
def countsAfter (n : Nat) (votes : List Bool) : RequestCounts where
  approved := votes.count true
  rejected := votes.count false
  pending := n - votes.length

section tally

variable (policy : ApprovalPolicy) (required : Int) (n : Nat)

theorem tallyAfter_concat (votes : List Bool) (v : Bool) :
    tallyAfter policy required n (votes ++ [v]) =
      (tallyAfter policy required n votes).vote policy required v := by
  simp [tallyAfter, foldl_append]

theorem countsAfter_concat (votes : List Bool) (v : Bool) :
    countsAfter n (votes ++ [v]) = (countsAfter n votes).vote v := by
  cases v <;> simp [countsAfter, RequestCounts.vote, Nat.sub_sub]

theorem tallyAfter_counts (votes : List Bool) :
    (tallyAfter policy required n votes).counts = countsAfter n votes := by
  induction votes using List.reverseRecOn with
  | nil => rfl
  | append_singleton votes v ih =>
    rw [tallyAfter_concat, countsAfter_concat, ← ih]
    rfl

theorem tallyAfter_status_concat (votes : List Bool) (v : Bool) :
    (tallyAfter policy required n (votes ++ [v])).status =
      closeBy (evaluatePolicyCounts policy required (countsAfter n (votes ++ [v])))
        (tallyAfter policy required n votes).status := by
  rw [tallyAfter_concat, countsAfter_concat, ← tallyAfter_counts policy required]
  rfl

/-- A verdict stays. -/
theorem tallyAfter_status_append
    (h : (tallyAfter policy required n votes).status ≠ .active) (more : List Bool) :
    (tallyAfter policy required n (votes ++ more)).status =
      (tallyAfter policy required n votes).status := by
  induction more using List.reverseRecOn with
  | nil => simp
  | append_singleton more v ih =>
    rw [← append_assoc, tallyAfter_status_concat, ih]
    simp [closeBy, h]

theorem countsAfter_total_pos (h : votes ≠ []) : 0 < (countsAfter n votes).total := by
  have hpos : 0 < votes.length := length_pos_iff.mpr h
  have hlen := count_true_add_count_false votes
  simp only [countsAfter, RequestCounts.total]
  omega

/-! ### First verdicts -/

/-- A verdict has its reason in some of the first votes. -/
theorem verdict_cases (votes : List Bool) : (tallyAfter policy required n votes).status = .active ∨
    (tallyAfter policy required n votes).status = .satisfied ∧
      (∃ p, p <+: votes ∧ Satisfies policy required (countsAfter n p)) ∨
    (tallyAfter policy required n votes).status = .failed ∧
      ∃ p, p <+: votes ∧ Fails policy required (countsAfter n p) := by
  induction votes using List.reverseRecOn with
  | nil => exact Or.inl rfl
  | append_singleton votes v ih =>
    have hpos : 0 < (countsAfter n (votes ++ [v])).total := countsAfter_total_pos n (by simp)
    have hpre := prefix_append votes [v]
    rw [tallyAfter_status_concat]
    unfold closeBy
    split_ifs with hactive hfail hsat
    · exact Or.inr (Or.inr ⟨rfl, _, prefix_rfl,
        (evaluatePolicyCounts_failed policy required hpos).mp hfail⟩)
    · exact Or.inr (Or.inl ⟨rfl, _, prefix_rfl,
        (evaluatePolicyCounts_satisfied policy required hpos).mp hsat⟩)
    · exact Or.inl rfl
    · rcases ih with h | ⟨h, p, hp, hcause⟩ | ⟨h, p, hp, hcause⟩
      · exact Or.inl h
      · exact Or.inr (Or.inl ⟨h, p, hp.trans hpre, hcause⟩)
      · exact Or.inr (Or.inr ⟨h, p, hp.trans hpre, hcause⟩)

variable {policy required n}

theorem status_ne_active (hne : votes ≠ []) (h : Satisfies policy required (countsAfter n votes) ∨
      Fails policy required (countsAfter n votes)) :
    (tallyAfter policy required n votes).status ≠ .active := by
  have hpos := countsAfter_total_pos n hne
  rw [← evaluatePolicyCounts_satisfied policy required hpos,
    ← evaluatePolicyCounts_failed policy required hpos] at h
  rw [← dropLast_append_getLast hne] at h ⊢
  rw [tallyAfter_status_concat]
  unfold closeBy
  split_ifs <;> simp_all

end tally

/-! ## When the order matters -/

/-- `approved` of `n` requests are approved in the end: can the required-approver
    shortcut satisfy the gate in one order while another order fails it? -/
def OrderMatters : ApprovalPolicy → Int → Nat → Nat → Prop
  | .majority, required, approved, n => 0 < required ∧ required ≤ approved ∧ 2 * approved < n
  | .consensus, required, approved, n =>
    0 < required ∧ required ≤ approved ∧ pct approved n ≤ requiredPct
  | _, _, _, _ => False

/-- What a prefix of a full list of votes can count. -/
theorem prefix_counts {n : Nat} {p : List Bool} (hp : p <+: votes) (hlen : votes.length = n) :
    (countsAfter n p).approved ≤ votes.count true ∧
      (countsAfter n p).rejected + votes.count true ≤ n ∧
      (countsAfter n p).approved + (countsAfter n p).pending + (countsAfter n p).rejected = n ∧
      (countsAfter n p).total = n := by
  have htrue := hp.sublist.count_le true
  have hfalse := hp.sublist.count_le false
  have hplen := hp.length_le
  have hsum := count_true_add_count_false votes
  have hpsum := count_true_add_count_false p
  simp only [countsAfter, RequestCounts.total]
  omega

theorem full_counts {n : Nat} (hlen : votes.length = n) :
    (countsAfter n votes).approved = votes.count true ∧ (countsAfter n votes).pending = 0 ∧
      (countsAfter n votes).rejected + votes.count true = n ∧
      (countsAfter n votes).total = n := by
  have hsum := count_true_add_count_false votes
  refine ⟨rfl, ?_⟩
  simp only [countsAfter, RequestCounts.total]
  omega

section determined

variable {policy : ApprovalPolicy} {n : Nat} {votes' p q : List Bool}
  (hmatters : ¬ OrderMatters policy required approved n) (hlen : votes.length = n)
  (hlen' : votes'.length = n) (hcount : votes.count true = approved)
  (hcount' : votes'.count true = approved)
include hmatters hlen hlen' hcount hcount'

/-- Where the order does not matter, a verdict of the first votes is one of all votes, and no two
    verdicts differ. -/
theorem verdicts_agree (hp : p <+: votes) (hq : q <+: votes') :
    (Satisfies policy required (countsAfter n p) ∨ Fails policy required (countsAfter n p) →
      Satisfies policy required (countsAfter n votes') ∨
        Fails policy required (countsAfter n votes')) ∧
    ¬ (Satisfies policy required (countsAfter n p) ∧ Fails policy required (countsAfter n q)) := by
  obtain ⟨hap, hrp, hsump, htp⟩ := prefix_counts hp hlen
  obtain ⟨haq, hrq, hsumq, htq⟩ := prefix_counts hq hlen'
  obtain ⟨ha, hpend, hr, ht⟩ := full_counts hlen'
  cases policy with
  | consensus =>
    simp only [Satisfies, Fails, htp, htq, ht, ha, hpend, hcount', Nat.add_zero]
    refine ⟨fun _ => (lt_or_ge requiredPct (pct approved n)).imp Or.inl id, ?_⟩
    rintro ⟨hsat, hfail⟩
    have hfew : pct approved n ≤ requiredPct := (pct_mono n (by omega)).trans hfail
    rcases hsat with hsat | ⟨-, hpos, hreq⟩
    · exact absurd (hsat.trans_le (pct_mono n (by omega))) (not_lt.mpr hfew)
    · exact hmatters ⟨hpos, by omega, hfew⟩
  | other name => simp [Satisfies, Fails]
  | _ =>
    simp only [OrderMatters] at hmatters
    simp only [Satisfies, Fails, or_false, and_false, not_false_eq_true, and_true]
    omega

/-- Where the order does not matter, the number of approvals decides. -/
theorem status_determined : (tallyAfter policy required n votes).status =
    (tallyAfter policy required n votes').status := by
  wlog hverdict : (tallyAfter policy required n votes).status ≠ .active generalizing votes votes'
  · by_cases hother : (tallyAfter policy required n votes').status = .active
    · rw [hother, not_not.mp hverdict]
    · exact (this hlen' hlen hcount' hcount hother).symm
  have hne : votes' ≠ [] := by
    rintro rfl
    rw [← hlen', length_nil, length_eq_zero_iff] at hlen
    rw [hlen] at hverdict
    exact hverdict rfl
  have hagree : ∀ {p}, p <+: votes → ∀ {q}, q <+: votes' → _ := fun hp _ hq =>
    verdicts_agree hmatters hlen hlen' hcount hcount' hp hq
  rcases verdict_cases policy required n votes with h | ⟨h, p, hp, hcause⟩ | ⟨h, p, hp, hcause⟩
  · exact absurd h hverdict
  · rcases verdict_cases policy required n votes' with h' | ⟨h', -⟩ | ⟨-, q, hq, hfails⟩
    · exact absurd h' (status_ne_active hne ((hagree hp prefix_rfl).1 (Or.inl hcause)))
    · rw [h, h']
    · exact absurd ⟨hcause, hfails⟩ (hagree hp hq).2
  · rcases verdict_cases policy required n votes' with h' | ⟨-, q, hq, hsat⟩ | ⟨h', -⟩
    · exact absurd h' (status_ne_active hne ((hagree hp prefix_rfl).1 (Or.inr hcause)))
    · exact absurd ⟨hsat, hcause⟩ (verdicts_agree hmatters hlen' hlen hcount' hcount hq hp).2
    · rw [h, h']

end determined

theorem countsAfter_replicate {n m : Nat} (hle : m ≤ n) (v : Bool) :
    (countsAfter n (replicate m v)).approved = (if v then m else 0) ∧
      (countsAfter n (replicate m v)).rejected = (if v then 0 else m) ∧
      (countsAfter n (replicate m v)).pending = n - m ∧
      (countsAfter n (replicate m v)).total = n := by
  cases v <;> simp [countsAfter, RequestCounts.total, count_replicate] <;> omega

section grouped

variable {policy : ApprovalPolicy} {n : Nat} (hle : approved ≤ n)
  (h : OrderMatters policy required approved n)
include hle h

/-- Approvals first: the shortcut satisfies the gate. -/
theorem approvalsFirst_satisfied (more : List Bool) :
    (tallyAfter policy required n (replicate approved true ++ more)).status = .satisfied := by
  have hpos : 0 < approved := by
    cases policy <;> simp only [OrderMatters] at h <;> omega
  have hfirst : (tallyAfter policy required n (replicate approved true)).status = .satisfied := by
    rcases verdict_cases policy required n (replicate approved true) with
      hactive | ⟨hsat, -⟩ | ⟨-, p, hp, hfails⟩
    · refine absurd hactive (status_ne_active (by simp; omega) (Or.inl ?_))
      obtain ⟨ha, hr, hopen, ht⟩ := countsAfter_replicate hle true
      cases policy <;> simp only [OrderMatters] at h
      · simp only [Satisfies, ha, hr, if_true]
        omega
      · simp only [Satisfies, ha, hopen, ht, if_true, Nat.add_sub_cancel' hle,
          pct_self (by omega : 0 < n)]
        exact Or.inr ⟨requiredPct_lt_one, h.1, h.2.1⟩
    · exact hsat
    · obtain ⟨hfew, heq⟩ := prefix_replicate_iff.mp hp
      rw [heq] at hfails
      obtain ⟨ha, hr, hopen, ht⟩ := countsAfter_replicate (hfew.trans hle) true
      cases policy <;> simp only [OrderMatters] at h
      · simp only [Fails, hr, if_true] at hfails
        omega
      · simp only [Fails, ha, hopen, ht, if_true, Nat.add_sub_cancel' (hfew.trans hle),
          pct_self (by omega : 0 < n)] at hfails
        exact absurd requiredPct_lt_one (not_lt.mpr hfails)
  rw [tallyAfter_status_append policy required n (by rw [hfirst]; decide), hfirst]

/-- Rejections first: they outvote whatever follows. -/
theorem rejectionsFirst_failed (more : List Bool) :
    (tallyAfter policy required n (replicate (n - approved) false ++ more)).status = .failed := by
  have hfew : approved < n := by
    cases policy <;> simp only [OrderMatters] at h
    · omega
    · by_contra hall
      obtain rfl : approved = n := by omega
      rw [pct_self (by omega)] at h
      exact absurd requiredPct_lt_one (not_lt.mpr h.2.2)
  have hfirst : (tallyAfter policy required n (replicate (n - approved) false)).status =
      .failed := by
    rcases verdict_cases policy required n (replicate (n - approved) false) with
      hactive | ⟨-, p, hp, hsat⟩ | ⟨hf, -⟩
    · refine absurd hactive (status_ne_active (by simp; omega) (Or.inr ?_))
      obtain ⟨ha, hr, hopen, ht⟩ := countsAfter_replicate (Nat.sub_le n approved) false
      cases policy <;> simp only [OrderMatters] at h
      · simp only [Fails, hr, ht, Bool.false_eq_true, if_false]
        omega
      · simp only [Fails, ha, hopen, ht, Nat.sub_sub_self hle]
        simpa using h.2.2
    · obtain ⟨hlen, heq⟩ := prefix_replicate_iff.mp hp
      rw [heq] at hsat
      have ha : (countsAfter n (replicate p.length false)).approved = 0 :=
        (countsAfter_replicate (hlen.trans (Nat.sub_le ..)) false).1
      cases policy <;> simp only [OrderMatters] at h
      · simp only [Satisfies, ha] at hsat
        omega
      · simp only [Satisfies, ha, pct_zero] at hsat
        rcases hsat with hsat | ⟨-, -, hreq⟩
        · exact absurd requiredPct_nonneg (not_le.mpr hsat)
        · omega
    · exact hf
  rw [tallyAfter_status_append policy required n (by rw [hfirst]; decide), hfirst]

end grouped

/-! ## Tallies and the store -/

/-- The store shows the tally of a gate with this policy and count. -/
structure Represents (s : Store) (gateId : Id) (policy : ApprovalPolicy) (required : Int)
    (t : Tally) : Prop where
  /-- The gate has the policy, the count and the status of the tally. -/
  gate : ∃ g, s.gates.get? gateId = some g ∧ g.approvalPolicy = policy ∧
    g.requiredApproverCount = required ∧ g.gateStatus = t.status
  /-- The requests give the counts of the tally. -/
  counts : loadRequestCounts s gateId = t.counts
  /-- The gate is active or has its verdict. -/
  status : t.status = .active ∨ t.status = .satisfied ∨ t.status = .failed

/-- Deciding a pending request of the gate moves one pending vote. -/
theorem loadRequestCounts_vote {r : ApprovalRequest} (hget : s.requests.get? k = some r)
    (hgate : r.approvalGateId = gateId) (hpending : r.status = .pending) (approve : Bool) :
    loadRequestCounts (s.updateRequest k (fun r => r.vote approve)) gateId =
      (loadRequestCounts s gateId).vote approve := by
  have hcount := count_updateAt hget (fun r => r.vote approve)
  have happroved := hcount (fun r => r.approvalGateId == gateId && r.status == .approved)
  have hrejected := hcount (fun r => r.approvalGateId == gateId && r.status == .rejected)
  have hpend := hcount (fun r => r.approvalGateId == gateId && r.status == .pending)
  have hexpired := hcount (fun r => r.approvalGateId == gateId && r.status == .expired)
  cases approve <;>
  · simp [hgate, hpending] at happroved hrejected hpend hexpired
    simp [loadRequestCounts, requestCounts, RequestCounts.vote, Store.updateRequest]
    omega

/-- Evaluating an active or decided gate with a supported policy closes it by the counts. -/
theorem evaluateApprovalPolicy_closeBy (s : Store) (now : Instant)
    (hget : s.gates.get? gateId = some g)
    (hstatus : g.gateStatus = .active ∨ g.gateStatus = .satisfied ∨ g.gateStatus = .failed)
    (hsupported : (evaluatePolicyCounts g.approvalPolicy g.requiredApproverCount
      (loadRequestCounts s gateId)).err = none) :
    ∃ b s' g', evaluateApprovalPolicy s now gateId = .ok (b, s') ∧ s'.requests = s.requests ∧
      s'.gates.get? gateId = some g' ∧ g'.approvalPolicy = g.approvalPolicy ∧
      g'.requiredApproverCount = g.requiredApproverCount ∧
      g'.gateStatus = closeBy (evaluatePolicyCounts g.approvalPolicy g.requiredApproverCount
        (loadRequestCounts s gateId)) g.gateStatus := by
  rcases hstatus with hactive | hclosed
  · simp only [evaluateApprovalPolicy, hget, hactive, closeGate_eq hget, hsupported]
    cases hf : (evaluatePolicyCounts g.approvalPolicy g.requiredApproverCount
        (loadRequestCounts s gateId)).failed
    · cases hs : (evaluatePolicyCounts g.approvalPolicy g.requiredApproverCount
          (loadRequestCounts s gateId)).satisfied
      · exact ⟨false, s, g, by simp, rfl, hget, rfl, rfl, by simp [closeBy, hactive, hf, hs]⟩
      · refine ⟨true, _, g.close .satisfied now, rfl, rfl, ?_, rfl, rfl, ?_⟩
        · exact get?_updateAt_of_get? hget
        · simp [closeBy, hf, hs, ApprovalGate.close]
    · refine ⟨false, _, g.close .failed now, rfl, rfl, ?_, rfl, rfl, ?_⟩
      · exact get?_updateAt_of_get? hget
      · simp [closeBy, hf, ApprovalGate.close]
  · -- a decided gate is returned as it is
    refine ⟨decide (g.gateStatus = .satisfied), s, g, ?_, rfl, hget, rfl, rfl, ?_⟩
    · rcases hclosed with h | h <;> simp [evaluateApprovalPolicy, hget, h]
    · rcases hclosed with h | h <;> simp [closeBy, h]

/-- The policies that `evaluatePolicyCounts` knows. -/
def ApprovalPolicy.isSupported : ApprovalPolicy → Bool
  | .other _ => false
  | _ => true

theorem evaluatePolicyCounts_err {policy : ApprovalPolicy} (h : policy.isSupported = true)
    (required : Int) (c : RequestCounts) : (evaluatePolicyCounts policy required c).err = none := by
  by_cases hzero : c.total = 0
  · rw [evaluatePolicyCounts_total_zero policy required hzero]
  · cases policy with
    | other name => simp [ApprovalPolicy.isSupported] at h
    | _ =>
      simp only [evaluatePolicyCounts, hzero, if_false]
      try split_ifs <;> rfl

section ballot

variable {assignment : Id → Bool} {policy : ApprovalPolicy}

/-- A request of the gate that is still to be decided. -/
def Undecided (s : Store) (gateId k : Id) : Prop :=
  ∃ r, s.requests.get? k = some r ∧ r.approvalGateId = gateId ∧ r.status = .pending

/-- One vote in the store is one vote in the tally, and touches no other request. -/
theorem represents_castVote (hsupported : policy.isSupported = true) {t : Tally}
    (hrep : Represents s gateId policy required t) (hopen : Undecided s gateId k) (now : Instant) :
    ∃ s', castVote assignment gateId (k, now) s = .ok s' ∧
      Represents s' gateId policy required (t.vote policy required (assignment k)) ∧
      ∀ j, j ≠ k → s'.requests.get? j = s.requests.get? j := by
  obtain ⟨r, hget, hgate, hpending⟩ := hopen
  obtain ⟨⟨g, hg, rfl, rfl, hstatus⟩, hcounts, hcases⟩ := hrep
  have hvote := loadRequestCounts_vote hget hgate hpending (assignment k)
  rw [hcounts] at hvote
  rw [← hstatus] at hcases
  obtain ⟨b, s', g', hok, hreq, hg', hpolicy, hrequired, hclose⟩ :=
    evaluateApprovalPolicy_closeBy (s.updateRequest k (fun r => r.vote (assignment k))) now
      hg hcases (evaluatePolicyCounts_err hsupported _ _)
  have hnew : g'.gateStatus = (t.vote g.approvalPolicy g.requiredApproverCount
      (assignment k)).status := by
    rw [hclose, hvote, hstatus]; rfl
  refine ⟨s', ?_, ⟨⟨g', hg', hpolicy, hrequired, hnew⟩, ?_, ?_⟩, ?_⟩
  · simp [castVote, hok, bind, Except.bind, pure, Except.pure]
  · show loadRequestCounts s' gateId = t.counts.vote (assignment k)
    rw [← hvote]
    simp only [loadRequestCounts, hreq]
  · simp only [Tally.vote, closeBy]
    split_ifs <;> simp_all
  · intro j hj
    rw [hreq]
    exact get?_updateAt_ne hj

/-- Deciding undecided requests one by one is counting their votes one by one. -/
theorem represents_run (assignment : Id → Bool) (hsupported : policy.isSupported = true) :
    ∀ {s : Store} {t : Tally}, Represents s gateId policy required t →
      (order.map Prod.fst).Nodup → (∀ op ∈ order, Undecided s gateId op.1) →
      Represents (run (castVote assignment gateId) s order) gateId policy required
        ((order.map (fun op => assignment op.1)).foldl (Tally.vote policy required) t) := by
  induction order with
  | nil => exact fun hrep _ _ => hrep
  | cons op order ih =>
    intro s t hrep hnodup hopen
    rw [map_cons, nodup_cons] at hnodup
    obtain ⟨s', hok, hrep', hframe⟩ :=
      represents_castVote hsupported hrep (hopen op (mem_cons_self ..)) op.2
    rw [run_cons, commit_ok hok]
    refine ih hrep' hnodup.2 fun op' hop' => ?_
    -- the vote that was just cast is not decided again
    have hne : op'.1 ≠ op.1 := by
      intro heq
      exact hnodup.1 (mem_map.mpr ⟨op', hop', heq⟩)
    unfold Undecided
    rw [hframe _ hne]
    exact hopen op' (mem_cons_of_mem _ hop')

theorem OpenBallot.represents (h : OpenBallot s gateId gate ids) :
    Represents s gateId gate.approvalPolicy gate.requiredApproverCount
      (Tally.start ids.length) := by
  have hpending : ∀ k r, s.requests.get? k = some r → r.approvalGateId = gateId →
      r.status = .pending := by
    intro k r hget hgate
    obtain ⟨r', hget', -, hr'⟩ := h.pending k (h.complete k r hget hgate)
    rw [hget] at hget'
    cases hget'
    exact hr'
  have hnone : ∀ status, status ≠ .pending →
      s.requests.count (fun r => r.approvalGateId == gateId && r.status == status) = 0 := by
    intro status hne
    rw [count_eq_zero]
    intro k r hget
    by_cases hgate : r.approvalGateId = gateId
    · simp [hgate, hpending k r hget hgate, hne.symm]
    · simp [hgate]
  have hall : s.requests.count (fun r => r.approvalGateId == gateId && r.status == .pending) =
      ids.length := by
    apply count_eq_length h.nodup
    intro k
    constructor
    · intro hk
      obtain ⟨r, hget, hgate, hr⟩ := h.pending k hk
      exact ⟨r, hget, by simp [hgate, hr]⟩
    · rintro ⟨r, hget, hr⟩
      simp at hr
      exact h.complete k r hget hr.1
  refine ⟨⟨gate, h.gate_get, rfl, rfl, h.active⟩, ?_, Or.inl rfl⟩
  simp [loadRequestCounts, requestCounts, Tally.start, hnone, hall]

/-- An unsupported policy never closes the gate: every vote is rolled back. -/
theorem castVote_unsupported {s' : Store} {op : Id × Instant}
    (hget : s.gates.get? gateId = some g) (hsupported : g.approvalPolicy.isSupported = false)
    (hok : castVote assignment gateId op s = .ok s') : s'.gates = s.gates := by
  obtain ⟨⟨b, s''⟩, heval, hret⟩ := bind_ok hok
  cases hret
  obtain ⟨g', hget', hstep⟩ := evaluateApprovalPolicy_step heval
  obtain rfl := Option.mem_unique hget hget'
  have hverdict : ∀ c, (evaluatePolicyCounts g.approvalPolicy g.requiredApproverCount c).failed
      = false ∧ (evaluatePolicyCounts g.approvalPolicy g.requiredApproverCount c).satisfied
      = false := by
    intro c
    cases hpolicy : g.approvalPolicy with
    | other name => unfold evaluatePolicyCounts; split_ifs <;> exact ⟨rfl, rfl⟩
    | _ => simp [hpolicy, ApprovalPolicy.isSupported] at hsupported
  cases hstep with
  | unchanged => rfl
  | failed e hopen hcounts => rw [(hverdict _).1] at hcounts; cases hcounts
  | satisfied e hopen hcounts => rw [(hverdict _).2] at hcounts; cases hcounts

/-- The verdict on a ballot is the status of the tally. -/
theorem OpenBallot.finalStatus_eq (h : OpenBallot s gateId gate ids) (assignment : Id → Bool)
    (hperm : (order.map Prod.fst).Perm ids) :
    finalStatus assignment gateId s order =
      some (tallyAfter gate.approvalPolicy gate.requiredApproverCount ids.length
        (order.map (fun op => assignment op.1))).status := by
  by_cases hsupported : gate.approvalPolicy.isSupported = true
  · have hopen : ∀ op ∈ order, Undecided s gateId op.1 := fun op hop =>
      h.pending op.1 (hperm.mem_iff.mp (mem_map.mpr ⟨op, hop, rfl⟩))
    obtain ⟨⟨g, hg, -, -, hstatus⟩, -⟩ :=
      represents_run assignment hsupported h.represents
        (hperm.nodup_iff.mpr h.nodup) hopen
    simp only [finalStatus, hg, Option.map_some, hstatus]
    rfl
  · have hgates : (run (castVote assignment gateId) s order).gates = s.gates := by
      refine run_invariant (I := fun s' : Store => s'.gates = s.gates) ?_ rfl order
      intro s₁ op s₂ hsame hok
      rw [castVote_unsupported (g := gate) (by rw [hsame]; exact h.gate_get)
        (by simpa using hsupported) hok, hsame]
    simp only [finalStatus, hgates, h.gate_get, Option.map_some, h.active]
    cases hpolicy : gate.approvalPolicy with
    | other name =>
      rcases verdict_cases (.other name) gate.requiredApproverCount ids.length
        (order.map (fun op => assignment op.1)) with hactive | ⟨-, _, -, hsat⟩ | ⟨-, _, -, hfails⟩
      · rw [hactive]
      · exact hsat.elim
      · exact hfails.elim
    | _ => simp [hpolicy, ApprovalPolicy.isSupported] at hsupported

end ballot

/-! ## Order independence -/

/-- The votes of a ballot can come in any order. -/
theorem exists_order (assignment : Id → Bool) (ids : List Id) {votes : List Bool}
    (hvotes : votes.Perm (ids.map assignment)) :
    ∃ order : List (Id × Instant), (order.map Prod.fst).Perm ids ∧
      order.map (fun op => assignment op.1) = votes := by
  obtain ⟨ids', hsame, hperm⟩ := perm_comp_forall₂ (r := fun v k => v = assignment k) hvotes
    (forall₂_map_left_iff.mpr (forall₂_same.mpr fun _ _ => rfl))
  refine ⟨ids'.map (fun k => (k, 0)), by simpa [Function.comp_def] using hperm, ?_⟩
  rw [map_map, ← forall₂_eq_eq_eq, forall₂_map_left_iff]
  exact hsame.flip.imp fun _ _ => Eq.symm

/-- On an open ballot, the final status is the same for every order of the votes exactly
    when the required-approver shortcut cannot overtake the rejections. -/
theorem voteOrder_irrelevant_iff (s : Store) (gateId : Id) (gate : ApprovalGate) (ids : List Id)
    (hballot : OpenBallot s gateId gate ids) (assignment : Id → Bool) :
    (∀ o₁ o₂ : List (Id × Instant), (o₁.map Prod.fst).Perm ids → (o₂.map Prod.fst).Perm ids →
        finalStatus assignment gateId s o₁ = finalStatus assignment gateId s o₂) ↔
      ¬ OrderMatters gate.approvalPolicy gate.requiredApproverCount (ids.countP assignment)
        ids.length := by
  have hfinal := fun (o : List (Id × Instant)) (ho : (o.map Prod.fst).Perm ids) =>
    hballot.finalStatus_eq assignment ho
  have hcount : (ids.map assignment).count true = ids.countP assignment := by
    rw [List.count, countP_map]
    congr 1
    funext k
    simp
  constructor
  · intro hsame hmatters
    -- all approvals first against all rejections first
    have hle : ids.countP assignment ≤ ids.length := countP_le_length
    have hgrouped : (ids.map assignment).Perm (replicate (ids.countP assignment) true ++
        replicate (ids.length - ids.countP assignment) false) := by
      have hsum := count_true_add_count_false (ids.map assignment)
      rw [length_map, hcount] at hsum
      refine (perm_replicate_append_replicate (by decide)).mpr ⟨hcount, by omega, ?_⟩
      intro v _
      cases v <;> simp
    obtain ⟨o₁, h₁, hvotes₁⟩ := exists_order assignment ids hgrouped.symm
    obtain ⟨o₂, h₂, hvotes₂⟩ := exists_order assignment ids (perm_append_comm.trans hgrouped.symm)
    have hboth := hsame o₁ o₂ h₁ h₂
    rw [hfinal o₁ h₁, hfinal o₂ h₂, hvotes₁, hvotes₂, approvalsFirst_satisfied hle hmatters,
      rejectionsFirst_failed hle hmatters] at hboth
    cases hboth
  · intro hmatters o₁ o₂ h₁ h₂
    have hvotes : ∀ o : List (Id × Instant), (o.map Prod.fst).Perm ids →
        (o.map fun op => assignment op.1).length = ids.length ∧
          (o.map fun op => assignment op.1).count true = ids.countP assignment := by
      intro o ho
      have hperm : (o.map fun op => assignment op.1).Perm (ids.map assignment) := by
        simpa [Function.comp_def] using ho.map assignment
      exact ⟨hperm.length_eq.trans (length_map _), (hperm.count_eq true).trans hcount⟩
    obtain ⟨hlen₁, hcount₁⟩ := hvotes o₁ h₁
    obtain ⟨hlen₂, hcount₂⟩ := hvotes o₂ h₂
    rw [hfinal o₁ h₁, hfinal o₂ h₂, status_determined hmatters hlen₁ hlen₂ hcount₁ hcount₂]

def threeRequests (policy : ApprovalPolicy) (required : Int) : Store where
  gates := Table.empty.insert
    { taskId := 0, caseId := 0, approvalPolicy := policy, requiredApproverCount := required,
      gateStatus := .active }
  requests := ((Table.empty.insert { approvalGateId := 0, approverId := "ann" }).insert
    { approvalGateId := 0, approverId := "bob" }).insert { approvalGateId := 0, approverId := "cid" }

theorem threeRequests_ballot (policy : ApprovalPolicy) (required : Int) :
    OpenBallot (threeRequests policy required) 0
      { taskId := 0, caseId := 0, approvalPolicy := policy, requiredApproverCount := required,
        gateStatus := .active } [0, 1, 2] where
  gate_get := rfl
  active := rfl
  nodup := by decide
  pending := by
    intro k hk
    simp only [mem_cons, not_mem_nil, or_false] at hk
    rcases hk with rfl | rfl | rfl <;> exact ⟨_, rfl, rfl, rfl⟩
  complete := by
    intro k r hget _
    rw [get?_eq_some_iff] at hget
    have hmem : k ∈ (threeRequests policy required).requests.rows.map Prod.fst :=
      mem_map.mpr ⟨_, hget, rfl⟩
    exact hmem

/-- A majority gate with two required approvers: two approvals out of three settle it whether
    the rejection comes first or last. -/
theorem voteOrder_irrelevant_twoOfThree :
    finalStatus (fun k => decide (k ≠ 0)) 0 (threeRequests .majority 2) [(0, 1), (1, 2), (2, 3)] =
        some .satisfied ∧
      finalStatus (fun k => decide (k ≠ 0)) 0 (threeRequests .majority 2)
          [(0, 1), (1, 2), (2, 3)] =
        finalStatus (fun k => decide (k ≠ 0)) 0 (threeRequests .majority 2)
          [(2, 1), (1, 2), (0, 3)] := by
  have hsame := (voteOrder_irrelevant_iff _ 0 _ [0, 1, 2] (threeRequests_ballot .majority 2)
    (fun k => decide (k ≠ 0))).mpr (by
      show ¬ ((0 : Int) < 2 ∧ (2 : Int) ≤ 2 ∧ 2 * 2 < 3)
      decide)
  exact ⟨by decide, hsame _ _ (by decide) (by decide)⟩

/-- A majority gate with one required approver, one approval and two rejections: the
    approval satisfies the gate when it comes first, the rejections fail it when they do. -/
theorem voteOrder_decides_verdict :
    finalStatus (fun k => decide (k = 0)) 0 (threeRequests .majority 1) [(0, 1), (1, 2), (2, 3)] =
        some .satisfied ∧
      finalStatus (fun k => decide (k = 0)) 0 (threeRequests .majority 1)
        [(1, 1), (2, 2), (0, 3)] = some .failed := by
  decide

end LoanWorkflow
