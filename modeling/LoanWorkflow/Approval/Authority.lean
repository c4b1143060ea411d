import LoanWorkflow.Approval.Conservation

/-! # Who decides a request

    `decideRequest` trusts the flags of the actor it is given. Only for a
    delegated request it overwrites two of them by comparing the actor with
    the row. The identity behind the decision of a pending request is therefore
    what the caller says it is.

    - `WaitsFor`: the identity that a request waits for
    - `decided_by_approver_iff`: the first property along runs, by the second
-/

namespace LoanWorkflow

open Machine

/-! ## Identities -/

/-- A pending request waits for its approver, a delegated one for the delegate alone. -/
def ApprovalRequest.WaitsFor (r : ApprovalRequest) (actorId : String) : Prop :=
  (r.status = .pending → actorId = r.approverId) ∧
    (r.status = .delegated → r.delegatedToId = some actorId ∧ actorId ≠ r.approverId)

/-- Every request that a decision moves to `APPROVED` or `REJECTED` waited for the actor. -/
def DecidedByApprover (s : Store) (op : VoteOp) (s' : Store) : Prop :=
  match op with
  | .decide _ _ input => ∀ k r r', s.requests.get? k = some r → s'.requests.get? k = some r' →
      r.status ≠ r'.status → r'.status = .approved ∨ r'.status = .rejected →
      r.WaitsFor input.actor.id
  | .delegate _ _ | .sweep _ _ _ => True

/-- An actor that is passed as an approver, and not as the system, for a pending request is the
    approver of the request. -/
def TruthfulFlags (s : Store) : VoteOp → Prop
  | .decide _ _ input => ∀ r, s.requests.get? input.requestId = some r → r.status = .pending →
      input.actor.isApprover = true → input.actor.isSystem = false → input.actor.id = r.approverId
  | .delegate _ _ | .sweep _ _ _ => True

/-! ## Single steps -/

section Steps

variable {lib : Library} {ctx : Ctx} {verdict : Verdict} {input : DecideInput} {s s' : Store}
  {actor : Actor}

/-- The guard asks who leaves `PENDING` only for the flags. -/
theorem validateApprovalTransition_pending
    (h : validateApprovalTransition .pending verdict.status actor = .ok ()) :
    actor.isApprover = true ∧ actor.isSystem = false := by
  obtain ⟨-, -, h⟩ := bind_ok h
  obtain ⟨-, -, h⟩ := bind_ok h
  have hflags : ensure actor.isApprover
        (unauthorizedApproval ("only approver may " ++ verdict.status.text ++ " from PENDING")) =
          .ok () ∧
      ensure (!actor.isSystem)
        (unauthorizedApproval ("system cannot manually " ++ verdict.status.text ++
          " from PENDING")) = .ok () := by
    cases verdict with
    | _ =>
      obtain ⟨_, happrover, h⟩ := bind_ok h
      obtain ⟨_, hsystem, -⟩ := bind_ok h
      exact ⟨happrover, hsystem⟩
  simpa using hflags

/-- The guard lets a named delegate who is not the approver leave `DELEGATED`. -/
theorem validateApprovalTransition_from_delegated
    (h : validateApprovalTransition .delegated verdict.status actor = .ok ()) :
    actor.id ≠ "" ∧ actor.isDelegate = true ∧ actor.isOriginalApprover = false := by
  obtain ⟨_, hnamed, h⟩ := bind_ok h
  obtain ⟨-, -, h⟩ := bind_ok h
  have hdelegate : ensure (actor.isDelegate && !actor.isOriginalApprover)
      (unauthorizedApproval ("only delegate may " ++ verdict.status.text ++
        " delegated request")) = .ok () := by
    cases verdict with
    | approve => exact (bind_ok h).choose_spec.1
    | reject => exact (bind_ok h).choose_spec.1
  rw [ensure_eq_ok] at hnamed hdelegate
  simpa using And.intro hnamed hdelegate

variable (h : DecideStep lib ctx verdict input s s')

include h

/-- A delegated request is decided by its delegate, whatever the flags of the actor. -/
theorem DecideStep.waitsFor_of_delegated
    (hdelegated : h.request.status = .delegated) : h.request.WaitsFor input.actor.id := by
  have hguard := h.hguard
  rw [hdelegated] at hguard
  obtain ⟨hnamed, hdelegate, horiginal⟩ := validateApprovalTransition_from_delegated hguard
  -- the two flags were computed from the row
  simp only [DecideInput.effectiveActor, hdelegated, if_true, beq_iff_eq,
    beq_eq_false_iff_ne] at hnamed hdelegate horiginal
  refine ⟨fun hpending => ?_, fun _ => ⟨?_, horiginal⟩⟩
  · rw [hdelegated] at hpending
    cases hpending
  · cases hto : h.request.delegatedToId with
    | none =>
      rw [hto] at hdelegate
      exact absurd hdelegate hnamed
    | some delegate =>
      rw [hto] at hdelegate
      exact congrArg some hdelegate.symm

/-- A pending request is decided by someone who was passed as an approver. -/
theorem DecideStep.flags_of_pending (hpending : h.request.status = .pending) :
    input.actor.isApprover = true ∧ input.actor.isSystem = false := by
  have hguard := h.hguard
  rw [hpending] at hguard
  have hflags := validateApprovalTransition_pending hguard
  simpa [DecideInput.effectiveActor, hpending] using hflags

theorem DecideStep.moved {k : Id}
    {r r' : ApprovalRequest} (hget : s.requests.get? k = some r)
    (hget' : s'.requests.get? k = some r') (hmoved : r.status ≠ r'.status) :
    k = input.requestId ∧ r = h.request := by
  rw [h.requests_eq] at hget'
  by_cases hk : k = input.requestId
  · subst hk
    exact ⟨rfl, Option.some.inj (hget.symm.trans h.hrequest)⟩
  · -- the other requests are as before
    rw [Table.get?_updateAt_ne hk, hget] at hget'
    cases hget'
    exact absurd rfl hmoved

theorem DecideStep.decidedByApprover (htruthful : TruthfulFlags s (.decide ctx verdict input)) :
    DecidedByApprover s (.decide ctx verdict input) s' := by
  intro k r r' hget hget' hmoved _
  obtain ⟨-, rfl⟩ := h.moved hget hget' hmoved
  by_cases hdelegated : h.request.status = .delegated
  · exact h.waitsFor_of_delegated hdelegated
  · refine ⟨fun hpending => ?_, fun habsurd => absurd habsurd hdelegated⟩
    obtain ⟨happrover, hsystem⟩ := h.flags_of_pending hpending
    exact htruthful h.request h.hrequest hpending happrover hsystem

theorem DecideStep.truthfulFlags (hdecided : DecidedByApprover s (.decide ctx verdict input) s') :
    TruthfulFlags s (.decide ctx verdict input) := by
  intro r hget hpending _ _
  have hget' : s'.requests.get? input.requestId =
      some (r.decide verdict.status input ctx.now) := by
    rw [h.requests_eq, Table.get?_updateAt_self, hget]
    rfl
  have hverdict : verdict.status = .approved ∨ verdict.status = .rejected := by
    cases verdict with
    | approve => exact Or.inl rfl
    | reject => exact Or.inr rfl
  have hmoved : r.status ≠ verdict.status := by
    rw [hpending]
    rcases hverdict with heq | heq <;> rw [heq] <;> decide
  exact (hdecided _ r _ hget hget' hmoved hverdict).1 hpending

end Steps

/-! ## Runs -/

/-- A step that commits decides for the right actor exactly when its flags are truthful. -/
theorem VoteOp.decidedByApprover_iff {lib : Library} {s s' : Store} {op : VoteOp}
    (h : op.exec lib s = .ok s') : DecidedByApprover s op s' ↔ TruthfulFlags s op := by
  cases op with
  | decide ctx verdict input =>
    obtain ⟨step⟩ := decideRequest_step h
    exact ⟨step.truthfulFlags, step.decidedByApprover⟩
  | delegate ctx input => exact Iff.rfl
  | sweep ctx locked batchSize => exact Iff.rfl

/-- Nothing is decided by a step that changes nothing. -/
theorem DecidedByApprover.refl (s : Store) (op : VoteOp) : DecidedByApprover s op s := by
  cases op with
  | decide ctx verdict input =>
    intro k r r' hget hget' hmoved _
    rw [hget] at hget'
    cases hget'
    exact absurd rfl hmoved
  | delegate ctx input => trivial
  | sweep ctx locked batchSize => trivial

/-- In every run whose callers set the flags truthfully, requests are decided only by those they
    wait for. Along a run without failed steps the condition is exact. -/
theorem decided_by_approver_iff (lib : Library) (s : Store) (ops : List VoteOp) :
    (Guarded (VoteOp.exec lib) TruthfulFlags s ops →
      Along (VoteOp.exec lib) DecidedByApprover s ops) ∧
    (Succeeds (VoteOp.exec lib) s ops →
      Along (VoteOp.exec lib) DecidedByApprover s ops →
      Guarded (VoteOp.exec lib) TruthfulFlags s ops) := by
  refine along_and_guarded (I := fun _ => True) ?_ (fun _ _ _ _ _ _ => trivial) ?_ trivial
  · exact fun _ _ _ _ hok => VoteOp.decidedByApprover_iff hok
  · exact fun s op _ => DecidedByApprover.refl s op

/-- Nobody but the delegate decides a delegated request, in every run and for all flags. -/
theorem delegated_decided_by_delegate (lib : Library) (s : Store) (ops : List VoteOp) :
    Along (VoteOp.exec lib) (fun s op s' => ∀ ctx verdict input k r r',
      op = .decide ctx verdict input → s.requests.get? k = some r →
      s'.requests.get? k = some r' → r.status = .delegated → r'.status ≠ .delegated →
      r.delegatedToId = some input.actor.id ∧ input.actor.id ≠ r.approverId) s ops := by
  refine along_of_invariant (I := fun _ => True) ?_ ?_ trivial ops
  · intro x op x' _ hok
    refine ⟨trivial, ?_⟩
    rintro ctx verdict input k r r' rfl hget hget' hdelegated hleft
    obtain ⟨step⟩ := decideRequest_step hok
    obtain ⟨-, rfl⟩ := step.moved hget hget' (by rw [hdelegated]; exact Ne.symm hleft)
    exact (step.waitsFor_of_delegated hdelegated).2 hdelegated
  · rintro x op _ ctx verdict input k r r' rfl hget hget' hdelegated hleft
    rw [hget] at hget'
    cases hget'
    exact absurd hdelegated hleft

/-- Someone whom no request names approves the request of an approver, passed with the flag of an
    approver. -/
theorem stranger_approves : (threeOpened.requests.get? 0).map (fun r => (r.approverId, r.status)) =
        some ("ann", .pending) ∧
      ((commit (VoteOp.exec Library.plain) threeOpened (danApproves 0 1)).requests.get?
        0).map (fun r => (r.decidedBy, r.status)) = some (some "dan", .approved) ∧
      ¬ Along (VoteOp.exec Library.plain) DecidedByApprover threeOpened
        [danApproves 0 1] := by
  have happroved : ((commit (VoteOp.exec Library.plain) threeOpened
      (danApproves 0 1)).requests.get? 0).map (fun r => (r.decidedBy, r.status)) =
        some (some "dan", .approved) := by decide
  refine ⟨by decide, happroved, fun ⟨hdecided, _⟩ => ?_⟩
  obtain ⟨r', hget', hr'⟩ := Option.map_eq_some_iff.mp happroved
  have hstatus : r'.status = .approved := congrArg Prod.snd hr'
  have hwaits := hdecided 0 _ r' rfl hget' (by rw [hstatus]; decide) (Or.inl hstatus)
  exact absurd (hwaits.1 rfl) (by decide)

end LoanWorkflow
