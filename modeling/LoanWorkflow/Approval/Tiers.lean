import LoanWorkflow.Approval.Conservation

/-! # Tiers of an approval chain

    A gate with a chain is closed by two evaluators: the policy of the gate
    over all requests, and the walk over the tiers. Requests are only ever
    opened in the first tier, so the walk can finish a chain of one tier at
    most, and it is the gate's own policy that closes a longer chain.

    `TieredGate` is the invariant of a gate with a chain, from its creation on.
-/

namespace LoanWorkflow

open List Table Machine

variable {ch : ApprovalChainState} {t tierDef : ApprovalChainTierDefinition} {ctx : Ctx}
  {input : DecideInput} {cand : ExpiryCandidate} {now : Instant} {n : Int} {idx : Nat}
  {verdict : Verdict}
variable {approval : ApprovalDefinition} {p : ApprovalPolicy} {c : CaseInstance}
  {caseId gateId k : Id} {lib : Library} {tiers : List ApprovalChainTierDefinition} {s : Store}

/-! ## Runs on gates -/

inductive GateOp where
  | vote (op : VoteOp)
  | activate (ctx : Ctx) (gateId : Id)
  | activateForTask (ctx : Ctx) (taskId caseId gateId : Id)

variable {op : GateOp}

def GateOp.exec (lib : Library) : GateOp → Store → Except Err Store
  | .vote op, s => op.exec lib s
  | .activate ctx gateId, s => activateApprovalGate ctx gateId s
  | .activateForTask ctx taskId caseId gateId, s => repoActivateApprovalGate ctx taskId caseId gateId s

/-! ## Settled tiers -/

/-- The policy of a tier: its own, or that of the gate. -/
def ApprovalChainTierDefinition.policy (t : ApprovalChainTierDefinition)
    (gatePolicy : ApprovalPolicy) : ApprovalPolicy :=
  if t.approvalPolicy = .other "" then gatePolicy else t.approvalPolicy

/-- The conditions of a tier let the chain skip it. -/
def Skippable (lib : Library) (metadata : Json) (t : ApprovalChainTierDefinition) : Prop :=
  evaluateCondition lib t.canSkipIf metadata false = .ok true ∨
    evaluateCondition lib t.requiredIf metadata true = .ok false

/-- The policy of a tier is satisfied by the requests of the tier. -/
def TierSatisfied (s : Store) (gateId : Id) (gatePolicy : ApprovalPolicy)
    (t : ApprovalChainTierDefinition) : Prop :=
  (evaluatePolicyCounts (t.policy gatePolicy) 0 (loadTierCounts s gateId t.tier)).satisfied = true

/-- Every tier of a gate was satisfied by its own requests or could be skipped. -/
def TiersSettled (lib : Library) (s : Store) (gateId : Id) : Prop :=
  ∀ g c, s.gates.get? gateId = some g → s.cases.get? g.caseId = some c →
    ∀ t ∈ g.chainDefinition,
      TierSatisfied s gateId g.approvalPolicy t ∨ Skippable lib c.metadata t

def gateStatus? (s : Store) (gateId : Id) : Option GateStatus :=
  (s.gates.get? gateId).map (·.gateStatus)

/-- A step that makes a gate `SATISFIED` finds all of its tiers settled. -/
def SettlesOnSuccess (lib : Library) (gateId : Id) (s : Store) (_ : GateOp) (s' : Store) : Prop :=
  gateStatus? s gateId ≠ some .satisfied → gateStatus? s' gateId = some .satisfied →
    TiersSettled lib s' gateId

/-! ## The invariant -/

/-- What a gate with a chain is created with. -/
structure ChainTerms where
  gateId : Id
  caseId : Id
  policy : ApprovalPolicy
  required : Int
  tiers : List ApprovalChainTierDefinition
  metadata : Json

/-- Every tier is satisfied or can be skipped. -/
def ChainTerms.Settled (T : ChainTerms) (lib : Library) (s : Store) : Prop :=
  ∀ t ∈ T.tiers, TierSatisfied s T.gateId T.policy t ∨ Skippable lib T.metadata t

/-- A gate with a chain: the terms it was created with, the requests in its first tier, the
    chain row with the same tiers, and the metadata of its case. -/
structure TieredGate (T : ChainTerms) (s : Store) : Prop where
  /-- The gate has its terms. -/
  gate : ∃ g, s.gates.get? T.gateId = some g ∧ g.caseId = T.caseId ∧ g.approvalPolicy = T.policy ∧
    g.requiredApproverCount = T.required ∧ g.chainDefinition = T.tiers
  /-- Its requests are in the first tier. -/
  requests : ∀ k r, s.requests.get? k = some r → r.approvalGateId = T.gateId →
    r.tier = T.tiers.head?.map (·.tier)
  /-- Its chain row has the tiers of the gate. -/
  chain : ∀ k ch, s.chains.get? k = some ch → ch.approvalGateId = T.gateId →
    ch.approvalChainDefinition = T.tiers
  /-- Its case has the metadata. -/
  metadata : ∃ c, s.cases.get? T.caseId = some c ∧ c.metadata = T.metadata

section invariant

variable {s' : Store} {policy : ApprovalPolicy} {T : ChainTerms}

variable (h : TieredGate T s)

include h

/-- Requests in the slots of earlier ones are in the first tier, too. -/
theorem TieredGate.requests_over
    {t : Table ApprovalRequest} (hover : s.requests.Over ApprovalRequest.slot t) :
    ∀ k r, t.get? k = some r → r.approvalGateId = T.gateId → r.tier = T.tiers.head?.map (·.tier) := by
  intro k r' hget' hgate
  obtain ⟨j, r, hget, heq⟩ := hover k r' hget'
  simp only [ApprovalRequest.slot, Prod.mk.injEq] at heq
  rw [heq.2]
  exact h.requests j r hget (heq.1.symm.trans hgate)

/-- Frames carry the invariant over a step. -/
theorem TieredGate.of_frames (hgates : s.gates.Keeps ApprovalGate.terms s'.gates)
    (hrequests : ∀ k r, s'.requests.get? k = some r → r.approvalGateId = T.gateId →
      r.tier = T.tiers.head?.map (·.tier))
    (hchains : s.chains.Over ApprovalChainState.terms s'.chains)
    (hcases : s.cases.Keeps CaseInstance.terms s'.cases) :
    TieredGate T s' where
  gate := by
    obtain ⟨g, hget, hterms⟩ := h.gate
    obtain ⟨g', hget', heq⟩ := hgates T.gateId g hget
    simp only [ApprovalGate.terms, Prod.mk.injEq] at heq
    obtain ⟨-, hcase, hpolicy, hrequired, hchain⟩ := heq
    exact ⟨g', hget', by rw [hcase, hpolicy, hrequired, hchain]; exact hterms⟩
  requests := hrequests
  chain := by
    intro k ch' hget' hgate
    obtain ⟨j, ch, hget, heq⟩ := hchains k ch' hget'
    simp only [ApprovalChainState.terms, Prod.mk.injEq] at heq
    rw [heq.2.2]
    exact h.chain j ch hget (heq.2.1.symm.trans hgate)
  metadata := by
    obtain ⟨c, hget, hmeta⟩ := h.metadata
    obtain ⟨c', hget', heq⟩ := hcases T.caseId c hget
    simp only [CaseInstance.terms, Prod.mk.injEq] at heq
    exact ⟨c', hget', by rw [heq.2]; exact hmeta⟩

/-! ### Counts of T.tiers -/

/-- The first tier has all the votes of the gate. -/
theorem TieredGate.loadTierCounts_first (hfirst : some n = T.tiers.head?.map (·.tier)) :
    loadTierCounts s T.gateId n = loadRequestCounts s T.gateId := by
  have hcount : ∀ status, s.requests.count (fun r => (r.approvalGateId == T.gateId && r.tier == some n)
      && r.status == status) = s.requests.count (fun r => r.approvalGateId == T.gateId &&
      r.status == status) := by
    intro status
    apply count_congr
    intro k r hget
    by_cases hgate : r.approvalGateId = T.gateId
    · have htier : (r.tier == some n) = true := by
        rw [h.requests k r hget hgate, ← hfirst]
        exact beq_self_eq_true _
      rw [htier, Bool.and_true]
    · simp only [beq_false_of_ne hgate, Bool.false_and]
  simp only [loadTierCounts, loadRequestCounts, requestCounts, hcount]

theorem TieredGate.first_of_votes
    (hvotes : (evaluatePolicyCounts p 0 (loadTierCounts s T.gateId n)).satisfied = true) :
    some n = T.tiers.head?.map (·.tier) := by
  have htotal : 0 < (loadTierCounts s T.gateId n).total := by
    by_contra hzero
    rw [evaluatePolicyCounts_total_zero p 0 (by omega)] at hvotes
    cases hvotes
  rw [loadTierCounts, requestCounts_total, count_pos] at htotal
  obtain ⟨k, r, hget, hr⟩ := htotal
  simp only [Bool.and_eq_true, beq_iff_eq] at hr
  rw [← h.requests k r hget hr.1.1, hr.1.2]

omit h

/-- The walk looks up the first tier at index `0`. -/
theorem findTierDefinition_first {first : ApprovalChainTierDefinition}
    {rest : List ApprovalChainTierDefinition} (h : findTierDefinition (first :: rest) n = some (tierDef, idx))
    (hn : n = first.tier) : tierDef = first ∧ idx = 0 := by
  simp [findTierDefinition, zipIdx_cons, hn] at h
  exact ⟨h.1.symm, h.2.symm⟩

theorem findTierDefinition_tier
    (h : findTierDefinition tiers n = some (tierDef, idx)) : tierDef.tier = n := by
  have := find?_some h
  simpa using this

/-! ### Steps -/

/-- Votes that satisfy the gate's policy satisfy the tier's policy. -/
def PolicyImplies (policy : ApprovalPolicy) (required : Int) (tierPolicy : ApprovalPolicy) : Prop :=
  ∀ c, (evaluatePolicyCounts policy required c).satisfied = true →
    (evaluatePolicyCounts tierPolicy 0 c).satisfied = true

/-- Every tier can be skipped, or is the first tier and no stricter than the gate. -/
def FirstTierSuffices (lib : Library) (policy : ApprovalPolicy) (required : Int)
    (tiers : List ApprovalChainTierDefinition) (metadata : Json) : Prop :=
  ∀ t ∈ tiers, Skippable lib metadata t ∨
    (some t.tier = tiers.head?.map (·.tier) ∧ PolicyImplies policy required (t.policy policy))

include h

theorem TieredGate.tiersSettled (hall : T.Settled lib s) : TiersSettled lib s T.gateId := by
  intro g c hget hcase t ht
  obtain ⟨g', hget', hcaseId, hpolicy, -, hchain⟩ := h.gate
  obtain rfl := Option.mem_unique hget hget'
  obtain ⟨c', hcase', hmeta⟩ := h.metadata
  rw [hcaseId] at hcase
  obtain rfl := Option.mem_unique hcase hcase'
  rw [hpolicy, hmeta]
  rw [hchain] at ht
  exact hall t ht

/-- The votes that satisfied the gate settle every tier, where the first tier suffices. -/
theorem TieredGate.settled_by_policy
    (hsuffices : FirstTierSuffices lib T.policy T.required T.tiers T.metadata)
    (hvotes : (evaluatePolicyCounts T.policy T.required (loadRequestCounts s T.gateId)).satisfied =
      true) : T.Settled lib s := by
  intro t ht
  rcases hsuffices t ht with hskip | ⟨hfirst, himplies⟩
  · exact Or.inr hskip
  · left
    unfold TierSatisfied
    rw [h.loadTierCounts_first hfirst]
    exact himplies _ hvotes

/-- A walk that finishes the chain has satisfied its only tier. -/
theorem TieredGate.satisfied_by_chain
    (hch : ch.approvalGateId = T.gateId) (htiers : T.tiers = tiers)
    (hfind : findTierDefinition tiers ch.currentTier = some (tierDef, idx))
    (hlast : idx = tiers.length - 1) (hp : tierPolicy s ch tierDef = .ok p)
    (hvotes : (evaluatePolicyCounts p 0 (loadTierCounts s T.gateId tierDef.tier)).satisfied = true) :
    ∀ t ∈ tiers, TierSatisfied s T.gateId T.policy t := by
  -- only the first tier has votes, and it sits at index 0, so it is also the last
  have hfirst := h.first_of_votes hvotes
  rw [htiers] at hfirst
  have htier := findTierDefinition_tier hfind
  cases tiers with
  | nil => cases hfirst
  | cons first rest =>
    have hn : tierDef.tier = first.tier := Option.some.inj hfirst
    obtain ⟨rfl, rfl⟩ := findTierDefinition_first hfind (htier.symm.trans hn)
    have hrest : rest = [] := by
      rw [← length_eq_zero_iff]
      simp at hlast
      omega
    subst hrest
    intro t ht
    obtain rfl : t = tierDef := mem_singleton.mp ht
    have hpolicy : p = t.policy T.policy := by
      obtain ⟨g, hget, -, hgp, -⟩ := h.gate
      unfold tierPolicy at hp
      unfold ApprovalChainTierDefinition.policy
      split at hp
      · next hown =>
        rw [hch, hget] at hp
        cases hp
        rw [if_pos hown, hgp]
      · next hown =>
        cases hp
        rw [if_neg hown]
    rw [hpolicy] at hvotes
    exact hvotes

omit h

/-- Only the requests decide whether a tier is satisfied. -/
theorem TierSatisfied.of_requests_eq (h : TierSatisfied s gateId policy t)
    (heq : s'.requests = s.requests) : TierSatisfied s' gateId policy t := by
  unfold TierSatisfied loadTierCounts at h ⊢
  rw [heq]
  exact h

theorem gateStatus?_eq_some {status : GateStatus} :
    gateStatus? s gateId = some status ↔
      ∃ g, s.gates.get? gateId = some g ∧ g.gateStatus = status := by
  simp [gateStatus?]

/-- A walk leaves a gate satisfied that already was, or finishes the chain on its last tier. -/
theorem ChainStep.satisfied_cases {chainId : Id} (h : ChainStep s now chainId ch s')
    (hafter : gateStatus? s' ch.approvalGateId = some .satisfied) :
    gateStatus? s ch.approvalGateId = some .satisfied ∨ ∃ tierDef idx p,
      findTierDefinition ch.approvalChainDefinition ch.currentTier = some (tierDef, idx) ∧
      idx = ch.approvalChainDefinition.length - 1 ∧ tierPolicy s ch tierDef = .ok p ∧
      (evaluatePolicyCounts p 0 (loadTierCounts s ch.approvalGateId tierDef.tier)).satisfied =
        true := by
  cases h with
  | unchanged => exact Or.inl hafter
  | moved => exact Or.inl hafter
  | failed =>
    obtain ⟨g', hg', hsat⟩ := gateStatus?_eq_some.mp hafter
    simp only [Store.publish, Store.updateGate, get?_updateAt_self] at hg'
    obtain ⟨g, -, rfl⟩ := Option.map_eq_some_iff.mp hg'
    cases hsat
  | satisfied tierDef idx p next e hfind hlast hp hvotes =>
    exact Or.inr ⟨tierDef, idx, p, hfind, hlast, hp, hvotes⟩

/-- A gate that keeps its status does not become satisfied. -/
theorem SettlesOnSuccess.of_same
    (h : s'.gates.get? gateId = s.gates.get? gateId) : SettlesOnSuccess lib gateId s op s' := by
  intro hbefore hafter
  unfold gateStatus? at hbefore hafter
  rw [h] at hafter
  exact absurd hafter hbefore

end invariant

section steps

variable {s' : Store} {policy : ApprovalPolicy} {T : ChainTerms}

variable (step : DecideStep lib ctx verdict input s s')

include step

theorem DecideStep.tieredGate (h : TieredGate T s) : TieredGate T s' := by
  refine h.of_frames step.gates_keep (h.requests_over ?_) step.chains_over step.cases_keep
  rw [step.requests_eq]
  exact .updateAt fun _ => rfl

/-- The gate was satisfied when the chain was walked, unless the rejection overwrote it. -/
theorem DecideStep.walked_satisfied
    (hafter : gateStatus? s' step.request.approvalGateId = some .satisfied) :
    gateStatus? step.walked step.request.approvalGateId = some .satisfied := by
  rcases step.hrejection with heq | hstep
  · rw [← hafter]
    exact congrArg (gateStatus? · step.request.approvalGateId) heq.symm
  · unfold gateStatus? at hafter ⊢
    rcases hstep.gates with hsame | ⟨status, hne, -, -, hclosed⟩
    · rw [hsame] at hafter
      exact hafter
    · -- the rejection closed the gate, and not as satisfied
      rw [hclosed, get?_updateAt_self, Option.map_map] at hafter
      obtain ⟨g, -, hg⟩ := Option.map_eq_some_iff.mp hafter
      exact absurd hg hne

theorem DecideStep.settles (h : TieredGate T s)
    (hsuffices : FirstTierSuffices lib T.policy T.required T.tiers T.metadata) :
    SettlesOnSuccess lib T.gateId s op s' := by
  by_cases hgate : T.gateId = step.request.approvalGateId
  · intro hbefore hafter
    have h' := step.tieredGate h
    apply h'.tiersSettled
    obtain ⟨g, hget, -, hpolicy, hrequired, -⟩ := h.gate
    rw [hgate] at hget hbefore hafter
    obtain rfl := Option.mem_unique step.hgate hget
    have hopen : step.gate.gateStatus ≠ .satisfied := by
      intro hsat
      exact hbefore (gateStatus?_eq_some.mpr ⟨step.gate, hget, hsat⟩)
    -- the requests are those of the recorded decision from here on
    have hrequests : s'.requests = step.evaluated.requests := by
      rw [step.requests_eq, step.hpolicy.requests_eq]
      rfl
    have hevaluated : gateStatus? step.evaluated step.request.approvalGateId = some .satisfied →
        T.Settled lib s' := by
      intro hsat
      obtain ⟨g', hget', hsat'⟩ := gateStatus?_eq_some.mp hsat
      have hvotes := step.hpolicy.votes_of_satisfied hget hopen hget' hsat'
      apply h'.settled_by_policy hsuffices
      rw [hpolicy, hrequired] at hvotes
      unfold loadRequestCounts at hvotes ⊢
      rw [hgate, hrequests, step.hpolicy.requests_eq]
      exact hvotes
    have hwalked := step.walked_satisfied hafter
    rcases step.hchain with heq | ⟨chainId, ch, hch, hchgate, hwalk⟩
    · rw [heq] at hwalked
      exact hevaluated hwalked
    · rw [← hchgate] at hwalked
      rcases hwalk.satisfied_cases hwalked with hsat | ⟨tierDef, idx, p, hfind, hlast, hp, hvotes⟩
      · rw [hchgate] at hsat
        exact hevaluated hsat
      · have hmid : TieredGate T step.evaluated := by
          refine h.of_frames step.hpolicy.gates_keep (h.requests_over ?_)
            (.of_eq step.hpolicy.chains_eq) (.of_eq step.hpolicy.cases_eq)
          rw [← hrequests, step.requests_eq]
          exact .updateAt fun _ => rfl
        have hchgate := hchgate.trans hgate.symm
        have htiers := hmid.chain chainId ch hch hchgate
        rw [htiers] at hfind hlast
        rw [hchgate] at hvotes
        intro t ht
        left
        exact (hmid.satisfied_by_chain hchgate rfl hfind hlast hp hvotes t ht).of_requests_eq
          hrequests
  · exact SettlesOnSuccess.of_same (step.gate_other hgate)

/-! ### Sweeps -/

omit step

/-- A satisfied tier stays satisfied when a request times out. -/
theorem TierSatisfied.of_move {r : ApprovalRequest} (h : TierSatisfied s gateId policy t)
    (hmove : TimeoutMove ctx cand s.requests s'.requests)
    (hget : s.requests.get? cand.requestId = some r) (hpending : r.status = .pending)
    (hslot : r.slot = cand.request.slot) : TierSatisfied s' gateId policy t := by
  obtain ⟨happroved, htotal⟩ := hmove.counts_le hget hpending hslot
    (fun slot => slot.1 == gateId && slot.2 == some t.tier)
  exact evaluatePolicyCounts_satisfied_mono happroved htotal h

/-- A gate is satisfied after a candidate was processed only if it already was, or if its
    policy is satisfied by the votes that are there now. -/
theorem CandidateStep.satisfied_cases (hstep : CandidateStep ctx cand s s')
    (h : TieredGate T s) (hafter : gateStatus? s' T.gateId = some .satisfied) :
    gateStatus? s T.gateId = some .satisfied ∨
      (evaluatePolicyCounts T.policy T.required (loadRequestCounts s' T.gateId)).satisfied =
        true := by
  cases hstep with
  | skipped => exact Or.inl hafter
  | logged => exact Or.inl hafter
  | evaluated r t outbox gate b s' hget hpending hmove hgate hpolicy =>
    by_cases hsame : T.gateId = cand.request.approvalGateId
    · obtain ⟨g, hg, -, hgp, hgr, -⟩ := h.gate
      rw [hsame] at hg hafter ⊢
      obtain rfl := Option.mem_unique hgate hg
      by_cases hopen : gate.gateStatus = .satisfied
      · exact Or.inl (gateStatus?_eq_some.mpr ⟨gate, hgate, hopen⟩)
      · right
        obtain ⟨g', hget', hsat⟩ := gateStatus?_eq_some.mp hafter
        have hvotes := hpolicy.votes_of_satisfied hgate hopen hget' hsat
        rw [hgp, hgr] at hvotes
        unfold loadRequestCounts at hvotes ⊢
        rw [hpolicy.requests_eq]
        exact hvotes
    · left
      unfold gateStatus? at hafter ⊢
      rw [hpolicy.gate_other hsame] at hafter
      exact hafter

theorem CandidateStep.tieredGate (hstep : CandidateStep ctx cand s s')
    (hslot : ∀ r, s.requests.get? cand.requestId = some r → r.slot = cand.request.slot)
    (h : TieredGate T s) : TieredGate T s' := by
  have hover : s.requests.Over ApprovalRequest.slot s'.requests := by
    rcases hstep.move with hsame | ⟨r, hget, hpending, hmove⟩
    · exact .of_eq hsame
    · exact hmove.over_slots hget (hslot r hget)
  obtain ⟨hgates, hchains, hcases, -⟩ := hstep.frame
  exact h.of_frames hgates (h.requests_over hover) (.of_eq hchains) (.of_eq hcases)

/-- Settled tiers stay settled when a request times out. -/
theorem CandidateStep.settled (hstep : CandidateStep ctx cand s s')
    (hslot : ∀ r, s.requests.get? cand.requestId = some r → r.slot = cand.request.slot)
    (h : T.Settled lib s) : T.Settled lib s' := by
  intro t ht
  rcases h t ht with htier | hskip
  · left
    rcases hstep.move with hsame | ⟨r, hget, hpending, hmove⟩
    · exact htier.of_requests_eq hsame
    · exact htier.of_move hmove hget hpending (hslot r hget)
  · exact Or.inr hskip

variable (h : TieredGate T s)

include h

/-- A sweep keeps the invariant, and settles the tiers of a gate that it satisfies. -/
theorem expirySweep_settles {locked : Id → Bool} {batchSize : Nat}
    (hsuffices : FirstTierSuffices lib T.policy T.required T.tiers T.metadata)
    (hok : expirySweep ctx locked batchSize s = .ok s') :
    TieredGate T s' ∧ SettlesOnSuccess lib T.gateId s op s' := by
  -- a gate that was open before the sweep is satisfied only with settled tiers
  have hinv := expirySweep_invariant
    (I := fun x => TieredGate T x ∧ (gateStatus? s T.gateId ≠ some .satisfied →
      gateStatus? x T.gateId = some .satisfied → T.Settled lib x))
    ?_ ⟨h, fun hbefore hsat => absurd hsat hbefore⟩ hok
  · exact ⟨hinv.1, fun hbefore hafter => hinv.1.tiersSettled (hinv.2 hbefore hafter)⟩
  · intro cand hcand x x' ⟨hx, hsettled⟩ hslot hstep
    have hx' := hstep.tieredGate hslot hx
    refine ⟨hx', fun hbefore hafter => ?_⟩
    rcases hstep.satisfied_cases hx hafter with hsat | hvotes
    · exact hstep.settled hslot (hsettled hbefore hsat)
    · exact hx'.settled_by_policy hsuffices hvotes

/-! ### Delegations and activations -/

theorem delegateRequest_settles {input : DelegateInput}
    (hok : delegateRequest ctx input s = .ok s') :
    TieredGate T s' ∧ SettlesOnSuccess lib T.gateId s op s' := by
  obtain ⟨r, hops, e, hget, -, rfl⟩ := delegateRequest_step hok
  refine ⟨?_, .of_same rfl⟩
  have hget' : (s.requests.updateAt input.requestId (fun r => r.delegate input ctx.now)).get?
      input.requestId = some (r.delegate input ctx.now) := get?_updateAt_of_get? hget
  refine h.of_frames (.refl _ _) (h.requests_over ?_) (.refl _ _) (.refl _ _)
  refine Table.Over.trans ?_ (Table.Over.insert hget' rfl)
  exact .updateAt fun _ => rfl

/-- An activation opens requests in the first tier and satisfies no gate. -/
theorem ActivationStep.settles {gate gate' : ApprovalGate} (hstep : ActivationStep s ctx k gate' s')
    (hget : s.gates.get? k = some gate) (hchain : gate'.chainDefinition = gate.chainDefinition) :
    TieredGate T s' ∧ SettlesOnSuccess lib T.gateId s op s' := by
  have hactive : ∀ x : Store, x.gates = s.gates.updateAt k (fun g => g.activate ctx.now) →
      SettlesOnSuccess lib T.gateId s op x := by
    intro x hx
    by_cases hk : T.gateId = k
    · intro _ hafter
      obtain ⟨g', hg', hsat⟩ := gateStatus?_eq_some.mp hafter
      rw [hx, hk, get?_updateAt_self, hget] at hg'
      cases hg'
      cases hsat
    · exact .of_same (by rw [hx, get?_updateAt_ne hk])
  cases hstep with
  | unchanged => exact ⟨h, .of_same rfl⟩
  | reopened =>
    refine ⟨?_, hactive _ rfl⟩
    exact h.of_frames (.updateAt fun _ => rfl) h.requests (.refl _ _) (.refl _ _)
  | opened c approvers expiresAt outbox hstatus hpending hcase hchosen =>
    refine ⟨h.of_frames (.updateAt fun _ => rfl) ?_ (.refl _ _) (.refl _ _), hactive _ rfl⟩
    intro j r hr hgate
    rcases mem_foldl_insert hr with hold | hnew
    · exact h.requests j r hold hgate
    · -- a new request of this gate has the first tier of its chain
      obtain ⟨approver, -, rfl⟩ := mem_map.mp hnew
      obtain ⟨g, hg, -, -, -, htiers⟩ := h.gate
      have hk : k = T.gateId := hgate
      rw [hk] at hget
      obtain rfl := Option.mem_unique hget hg
      show gate'.chainDefinition.head?.map (·.tier) = T.tiers.head?.map (·.tier)
      rw [hchain, htiers]

/-- Every operation keeps the invariant, and settles the tiers of a gate that it satisfies. -/
theorem TieredGate.exec_settles
    (hsuffices : FirstTierSuffices lib T.policy T.required T.tiers T.metadata)
    (hok : op.exec lib s = .ok s') :
    TieredGate T s' ∧ SettlesOnSuccess lib T.gateId s op s' := by
  cases op with
  | vote op =>
    cases op with
    | decide ctx verdict input =>
      obtain ⟨step⟩ := decideRequest_step hok
      exact ⟨step.tieredGate h, step.settles h hsuffices⟩
    | delegate ctx input => exact delegateRequest_settles h hok
    | sweep ctx locked batchSize => exact expirySweep_settles h hsuffices hok
  | activate ctx k =>
    obtain ⟨gate, hget, hstep⟩ := activateApprovalGate_step hok
    exact hstep.settles h hget rfl
  | activateForTask ctx taskId caseId' k =>
    obtain ⟨gate, hget, hstep⟩ := repoActivateApprovalGate_step hok
    exact hstep.settles h hget rfl

end steps

/-! ## From creation on -/

/-- Requests and chains refer to stored gates, as the foreign keys demand. -/
def ReferencesGates (s : Store) : Prop :=
  (∀ k r, s.requests.get? k = some r → ∃ g, s.gates.get? r.approvalGateId = some g) ∧
    ∀ k ch, s.chains.get? k = some ch → ∃ g, s.gates.get? ch.approvalGateId = some g

/-- The first gate of a task of the case was just created from a definition, with a chain,
    by either of the two functions that create gates. -/
def CreatedWithChain (approval : ApprovalDefinition) (tiers : List ApprovalChainTierDefinition)
    (caseId gateId : Id) (s : Store) : Prop :=
  ∃ s₀ ctx taskId amount, ReferencesGates s₀ ∧
    (∀ k g, s₀.gates.get? k = some g → g.taskId ≠ taskId) ∧
    ((∃ taskDef config, taskDef.approval = some approval ∧ config.approvalChain = tiers ∧
        createApprovalGateForTask s₀ ctx caseId taskId taskDef config amount = .ok (gateId, s)) ∨
      ∃ role, createApprovalGate s₀ ctx caseId taskId approval amount tiers role = (gateId, s))

theorem upsertGate_new (s : Store) (row : ApprovalGate)
    (hnew : ∀ k g, s.gates.get? k = some g → g.taskId ≠ row.taskId) :
    upsertGate s row = (s.gates.fresh, { s with gates := s.gates.insert row }) := by
  unfold upsertGate
  split
  · next k g hfind =>
    obtain ⟨hget, htask⟩ := find?_eq_some hfind
    exact absurd (by simpa using htask) (hnew k g hget)
  · rfl

/-- The chain rows after a chain was started for a gate without one. -/
theorem insertChainState_chain
    (hnone : ∀ k ch, s.chains.get? k = some ch → ch.approvalGateId ≠ gateId)
    (hget : (insertChainState s caseId gateId tiers now).chains.get? k = some ch)
    (hgate : ch.approvalGateId = gateId) : ch.approvalChainDefinition = tiers := by
  unfold insertChainState at hget
  split at hget
  · exact absurd hgate (hnone k ch hget)
  · split at hget
    · exact absurd hgate (hnone k ch hget)
    · rw [get?_insert] at hget
      split at hget
      · cases hget
        rfl
      · exact absurd hgate (hnone k ch hget)

def ApprovalDefinition.terms (approval : ApprovalDefinition) (gateId caseId : Id)
    (tiers : List ApprovalChainTierDefinition) (metadata : Json) : ChainTerms :=
  ⟨gateId, caseId, (withGateDefaults approval).approvalPolicy,
    (withGateDefaults approval).requiredApproverCount, tiers, metadata⟩

/-- The first gate of a task, with its chain state, is a tiered gate. -/
theorem CreationStep.tieredGate {s₀ : Store} {taskId : Id}
    (step : CreationStep s₀ s now caseId taskId gateId approval tiers)
    (hrefs : ReferencesGates s₀) (hnew : ∀ k g, s₀.gates.get? k = some g → g.taskId ≠ taskId)
    (hcase : s.cases.get? caseId = some c) :
    TieredGate (approval.terms gateId caseId tiers c.metadata) s := by
  have hupsert := upsertGate_new s₀ step.row (by rw [step.row_task]; exact hnew)
  have hkey : gateId = s₀.gates.fresh := by rw [← step.key, hupsert]
  have hgates : s.gates = s₀.gates.insert step.row := by rw [step.gates, hupsert]
  refine ⟨⟨step.row, ?_, step.row_case, step.row_policy, step.row_required, step.row_chain⟩,
    ?_, ?_, ⟨c, hcase, rfl⟩⟩
  · rw [hgates, get?_insert]
    exact if_pos hkey
  · intro k r hget hgate
    -- nothing can refer to a key that was not yet there
    rw [step.requests] at hget
    obtain ⟨g, hg⟩ := hrefs.1 k r hget
    exact absurd (hgate.trans hkey) (ne_fresh_of_get? hg)
  · intro k ch hget hgate
    rw [step.chains] at hget
    refine insertChainState_chain ?_ hget hgate
    intro j ch' hget'
    obtain ⟨g, hg⟩ := hrefs.2 j ch' hget'
    rw [hkey]
    exact ne_fresh_of_get? hg

theorem CreatedWithChain.tieredGate
    (h : CreatedWithChain approval tiers caseId gateId s) (hcase : s.cases.get? caseId = some c) :
    TieredGate (approval.terms gateId caseId tiers c.metadata) s := by
  obtain ⟨s₀, ctx, taskId, amount, hrefs, hnew, hpath⟩ := h
  rcases hpath with ⟨taskDef, config, happroval, rfl, hok⟩ | ⟨role, heq⟩
  · obtain ⟨step⟩ := createApprovalGateForTask_step happroval hok
    exact step.tieredGate hrefs hnew hcase
  · obtain ⟨step⟩ := createApprovalGate_step heq
    exact step.tieredGate hrefs hnew hcase

/-- A task in progress of a case, without a gate. -/
def taskInProgress : Store where
  cases := Table.empty.insert { caseTypeId := 0 }
  tasks := Table.empty.insert
    { caseId := 0, taskDefinitionCode := "REVIEW", activityCode := "A", stageCode := "S"
      status := .inProgress, idempotencyKey := "0:REVIEW" }

def annDecides : ApprovalDefinition where
  approvalPolicy := .singleApprover
  approvers := ["ann"]
  reworkTargetStageCode := some "S"

/-- The task with a gate for a chain of tiers. -/
def chainedGate (tiers : List ApprovalChainTierDefinition) : Store :=
  (createApprovalGate taskInProgress (Ctx.plain 0) 0 0 annDecides none tiers "").2

/-- The gate is opened and the approver approves. -/
def annApproves : List GateOp :=
  [.activate (Ctx.plain 1) 0,
   .vote (.decide (Ctx.plain 2) .approve
    { requestId := 0, actor := { id := "ann", isApprover := true }, decisionText := "fine",
      evidenceRefs := some [] })]

theorem chainedGate_created (tiers : List ApprovalChainTierDefinition) :
    CreatedWithChain annDecides tiers 0 0 (chainedGate tiers) := by
  refine ⟨taskInProgress, Ctx.plain 0, 0, none, ⟨?_, ?_⟩, ?_, Or.inr ⟨"", rfl⟩⟩
  · intro k r hget
    cases hget
  · intro k ch hget
    cases hget
  · intro k g hget
    cases hget

end LoanWorkflow
