import LoanWorkflow.Framework.Machine
import LoanWorkflow.Integration.DealService

/-! # Live cases of a deal

    At most one case of a deal should be open for work. The ingestion looks at
    the open cases of the deal and, if there is none, at the case with the
    latest `created_at`. So it is enough that only the latest case may be in a
    non-terminal status. `created_at` is the time at which the transaction of
    the ingestion began, and the lock of the deal is taken after that: an
    ingestion that began before the latest case was created, and finds all
    cases closed, opens a case that is not the latest one.

    - `oneLiveCase_of_startsLast`
-/

namespace LoanWorkflow

open Table Machine

variable {ctx : Ctx} {caseId k : Id} {i : Ingestion} {s s' : Store} {reason tenantId : String}
variable {clock : Clock} {lib : DealLibrary} {call : IngestCall} {response : IngestResponse}
  {now : Instant} {sla : SLAColumns} {dealId : String}

/-! ## Links and creation times -/

/-- What a link connects. -/
def CaseDealLink.ends (link : CaseDealLink) : Id × String × String :=
  (link.caseId, link.tenantId, link.dealId)

/-- The links connect what they did, the cases were created when they were, there are no new
    ones, and a case that is in a non-terminal status was in one before. -/
structure KeepsLinked (s s' : Store) : Prop where
  links : s.caseDealLinks.Grows CaseDealLink.ends (fun _ => False) s'.caseDealLinks
  cases : s.cases.Grows CaseInstance.createdAt (fun _ => False) s'.cases
  noRevival : ∀ k c c', s.cases.get? k = some c → s'.cases.get? k = some c' →
    c'.status.isTerminal = false → c.status.isTerminal = false

theorem KeepsLinked.of_links
    (hlinks : s.caseDealLinks.Grows CaseDealLink.ends (fun _ => False) s'.caseDealLinks)
    (hcases : s'.cases = s.cases) : KeepsLinked s s' := by
  refine ⟨hlinks, .of_eq hcases, ?_⟩
  intro k c c' hc hc' hlive
  rw [hcases, hc] at hc'
  cases hc'
  exact hlive

theorem KeepsLinked.refl (s : Store) : KeepsLinked s s := .of_links (.refl _ _ _) rfl

/-- Closing a case revives none. -/
theorem KeepsLinked.of_close {f : CaseInstance → CaseInstance}
    (hlinks : s.caseDealLinks.Grows CaseDealLink.ends (fun _ => False) s'.caseDealLinks)
    (hcases : s'.cases = s.cases.updateAt caseId f) (hcreated : ∀ c, (f c).createdAt = c.createdAt)
    (hf : ∀ c, (f c).status.isTerminal = true) : KeepsLinked s s' := by
  refine ⟨hlinks, hcases ▸ .updateAt hcreated, ?_⟩
  intro k c c' hc hc' hlive
  rw [hcases, get?_updateAt, hc] at hc'
  split at hc'
  · cases hc'
    rw [hf c] at hlive
    cases hlive
  · cases hc'
    exact hlive

theorem KeepsLinked.mem_linkedCases (h : KeepsLinked s s') {c' : CaseInstance}
    (hmem : (k, c') ∈ linkedCases s' tenantId dealId) :
    ∃ c, (k, c) ∈ linkedCases s tenantId dealId ∧ c'.createdAt = c.createdAt := by
  obtain ⟨hcase, j, link', hlink, rfl, rfl, rfl⟩ := LoanWorkflow.mem_linkedCases.mp hmem
  obtain ⟨c, hc, hcreated⟩ := (h.cases.adds _ _ hcase).resolve_right id
  obtain ⟨link, hold, hends⟩ := (h.links.adds _ _ hlink).resolve_right id
  simp only [CaseDealLink.ends, Prod.mk.injEq] at hends
  obtain ⟨hcaseId, htenant, hdeal⟩ := hends
  refine ⟨c, LoanWorkflow.mem_linkedCases.mpr ⟨hc, j, link, hold, ?_, ?_, ?_⟩, hcreated⟩
  · exact hcaseId.symm
  · exact htenant.symm
  · exact hdeal.symm

/-- Suspending, resuming or closing a case keeps the links. -/
theorem LifecycleStep.linked (h : LifecycleStep s caseId s') : KeepsLinked s s' := by
  refine ⟨.of_eq h.links, h.created, ?_⟩
  intro k c c' hc hc' hlive
  by_cases hk : k = caseId
  · subst hk
    exact h.notClosed c hc
  · rw [h.others k hk, hc] at hc'
    cases hc'
    exact hlive

theorem completeCase_step (h : completeCase now caseId s = .ok s') : KeepsLinked s s' := by
  obtain ⟨_, -, h⟩ := bind_ok h
  cases h
  exact .of_close (f := fun c => c.complete now) (.refl _ _ _) rfl (fun _ => rfl) fun _ => rfl

/-! ## What an ingestion does to the cases of deals -/

theorem cancelCaseForDealStatus_step {lib : Library} {status : String}
    (h : cancelCaseForDealStatus lib now tenantId caseId status s = .ok s') :
    KeepsLinked s s' := by
  obtain ⟨c, -, h⟩ := bind_ok h
  cases h
  refine .of_close (f := fun c => c.cancelForDeal status) ?_ rfl (fun _ => rfl) fun _ => rfl
  dsimp only [Store.updateCase]
  apply Table.Grows.updateWhere_of
  intro link _
  rfl

section ingestion

theorem updateCaseSnapshot_links (i : Ingestion) (k : Id) (notify : Bool) (s : Store) :
    s.caseDealLinks.Grows CaseDealLink.ends (fun _ => False)
      (updateCaseSnapshot lib i k notify s).caseDealLinks := by
  dsimp only [updateCaseSnapshot]
  apply Table.Grows.updateWhere_of
  intro link _
  rfl

/-- A new case was opened, when no case was open and the latest one was closed. -/
def OpensCase (lib : DealLibrary) (i : Ingestion) (s s' : Store) : Prop :=
  getOpenCasesByDealID s i.tenantId i.deal.dealId = [] ∧
    i.incomingStatus lib = "DOCUMENT_VERIFICATION" ∧
    (∀ k c, getLatestCaseByDealID s i.tenantId i.deal.dealId = some (k, c) →
      c.status = .completed ∨ c.status = .cancelled) ∧
    ∃ caseTypeId, s' = withDealCase lib i caseTypeId s

theorem CaseStep.linked {outcome : DealIngestOutcome} {diff : Option DealDiff} {r : CaseAction}
    (h : CaseStep lib i outcome diff s r) :
    KeepsLinked s r.store ∨ OpensCase lib i s r.store := by
  cases h with
  | idle _ _ => exact .inl (.refl s)
  | unhandled _ _ _ => exact .inl (.refl s)
  | created hopen hstatus hlatest action caseTypeId =>
    exact .inr ⟨hopen, hstatus, hlatest, caseTypeId, rfl⟩
  | untouched _ _ => exact .inl (.refl s)
  | refreshed _ _ => exact .inl (.of_links (updateCaseSnapshot_links i _ _ s) rfl)
  | flagged _ _ _ => exact .inl (.of_links (updateCaseSnapshot_links i _ _ s) rfl)
  | cancelled _ _ hcancel => exact .inl (cancelCaseForDealStatus_step hcancel)

theorem Processed.linked {d : Delivery} {s s' : DealStore}
    (h : Processed lib call d s response s') :
    KeepsLinked s.toStore s'.toStore ∨ OpensCase lib d.ingestion s.toStore s'.toStore := by
  cases h with
  | first _ hstep =>
    rw [DealStore.upsertIdempotencyCache_toStore]
    exact hstep.linked
  | repeated _ _ =>
    rw [DealStore.upsertIdempotencyCache_toStore]
    exact .inl (.refl _)
  | late _ _ _ =>
    rw [DealStore.upsertIdempotencyCache_toStore]
    exact .inl (.refl _)
  | updated _ _ _ _ hstep =>
    rw [DealStore.upsertIdempotencyCache_toStore]
    exact hstep.linked

end ingestion

/-! ## The invariant -/

/-- At most one case of a deal is in a non-terminal status. -/
def OneLiveCase (s : Store) (tenantId dealId : String) : Prop :=
  ∀ r ∈ linkedCases s tenantId dealId, ∀ r' ∈ linkedCases s tenantId dealId,
    r.2.status.isTerminal = false → r'.2.status.isTerminal = false → r.1 = r'.1

/-- Links lead to cases, and a case in a non-terminal status is newer than all other cases of
    its deal. -/
structure LiveIsLatest (s : Store) : Prop where
  resolved : ∀ j link, s.caseDealLinks.get? j = some link → ∃ c, s.cases.get? link.caseId = some c
  latest : ∀ tenantId dealId, ∀ r ∈ linkedCases s tenantId dealId, r.2.status.isTerminal = false →
    ∀ r' ∈ linkedCases s tenantId dealId, r'.1 ≠ r.1 → r'.2.createdAt < r.2.createdAt

instance OneLiveCase.decidable (s : Store) (tenantId dealId : String) :
    Decidable (OneLiveCase s tenantId dealId) :=
  inferInstanceAs (Decidable (∀ r ∈ _, ∀ r' ∈ _, _))

variable (h : LiveIsLatest s)

include h

theorem LiveIsLatest.oneLiveCase (tenantId dealId : String) :
    OneLiveCase s tenantId dealId := by
  intro r hr r' hr' hlive hlive'
  by_contra hne
  have hlt : r'.2.createdAt < r.2.createdAt := h.latest _ _ r hr hlive r' hr' fun heq => hne heq.symm
  have hgt : r.2.createdAt < r'.2.createdAt := h.latest _ _ r' hr' hlive' r hr hne
  exact lt_asymm hlt hgt

theorem LiveIsLatest.keeps (hlinked : KeepsLinked s s') : LiveIsLatest s' := by
  constructor
  · intro j link' hlink
    obtain ⟨link, hold, hends⟩ := (hlinked.links.adds j link' hlink).resolve_right id
    obtain ⟨c, hc⟩ := h.resolved j link hold
    obtain ⟨c', hc', -⟩ := hlinked.cases.keeps _ c hc
    have hcaseId : link'.caseId = link.caseId := congrArg Prod.fst hends
    exact ⟨c', by rw [hcaseId]; exact hc'⟩
  · rintro tenantId dealId ⟨k, c'⟩ hr hlive ⟨k₁, c₁'⟩ hr₁ hne
    obtain ⟨c, hmem, hcreated⟩ := hlinked.mem_linkedCases hr
    obtain ⟨c₁, hmem₁, hcreated₁⟩ := hlinked.mem_linkedCases hr₁
    have hwas : c.status.isTerminal = false :=
      hlinked.noRevival k c c' (mem_linkedCases.mp hmem).1 (mem_linkedCases.mp hr).1 hlive
    have hlt := h.latest tenantId dealId (k, c) hmem hwas (k₁, c₁) hmem₁ hne
    show c₁'.createdAt < c'.createdAt
    rw [hcreated, hcreated₁]
    exact hlt

/-- When no case is open and the latest one is closed, all are. -/
theorem LiveIsLatest.all_closed (hopens : OpensCase lib i s s') :
    ∀ r ∈ linkedCases s i.tenantId i.deal.dealId, r.2.status.isTerminal = true := by
  obtain ⟨-, -, hclosed, -⟩ := hopens
  intro r hr
  by_contra hlive
  have hlive : r.2.status.isTerminal = false := by simpa using hlive
  cases hlatest : getLatestCaseByDealID s i.tenantId i.deal.dealId with
  | none =>
    rw [getLatestCaseByDealID_eq_none hlatest] at hr
    cases hr
  | some top =>
    obtain ⟨htop, hmax⟩ := getLatestCaseByDealID_eq_some hlatest
    by_cases hsame : top.1 = r.1
    · -- the live case is the latest one, but that is closed
      have hrow : r.2 = top.2 := by
        have hr' := (mem_linkedCases.mp hr).1
        rw [← hsame, (mem_linkedCases.mp htop).1] at hr'
        exact (Option.some.inj hr').symm
      rcases hclosed top.1 top.2 hlatest with hstatus | hstatus
      · rw [hrow, hstatus] at hlive
        cases hlive
      · rw [hrow, hstatus] at hlive
        cases hlive
    · have hlt : top.2.createdAt < r.2.createdAt := h.latest _ _ r hr hlive top htop hsame
      exact absurd (hmax r hr) (not_le.mpr hlt)

/-- The cases of a deal after a new one was opened. -/
theorem mem_linkedCases_withDealCase {caseTypeId : Id} {c : CaseInstance}
    (hmem : (k, c) ∈ linkedCases (withDealCase lib i caseTypeId s) tenantId dealId) :
    (k, c) ∈ linkedCases s tenantId dealId ∨
      (k = s.cases.fresh ∧ c = dealCase lib i caseTypeId ∧ tenantId = i.tenantId ∧
        dealId = i.deal.dealId) := by
  obtain ⟨hcase, j, link, hlink, hk, htenant, hdeal⟩ := mem_linkedCases.mp hmem
  simp only [withDealCase, get?_insert] at hcase hlink
  split at hlink
  · -- the new link leads to the new case
    cases hlink
    have hfresh : k = s.cases.fresh := hk.symm
    rw [if_pos hfresh] at hcase
    exact .inr ⟨hfresh, (Option.some.inj hcase).symm, htenant.symm, hdeal.symm⟩
  · -- an old link leads to an old case
    obtain ⟨c', hc'⟩ := h.resolved j link hlink
    have hne : k ≠ s.cases.fresh := by
      rw [← hk]
      exact ne_fresh_of_get? hc'
    rw [if_neg hne] at hcase
    exact .inl (mem_linkedCases.mpr ⟨hcase, j, link, hlink, hk, htenant, hdeal⟩)

/-- A new case keeps the invariant if it is newer than all cases of its deal. -/
theorem LiveIsLatest.opens (hopens : OpensCase lib i s s')
    (hnew : ∀ r ∈ linkedCases s i.tenantId i.deal.dealId, r.2.createdAt < i.startedAt) :
    LiveIsLatest s' := by
  have hclosed := h.all_closed hopens
  obtain ⟨-, -, -, caseTypeId, rfl⟩ := hopens
  constructor
  · intro j link hlink
    simp only [withDealCase, get?_insert] at hlink ⊢
    split at hlink
    · cases hlink
      exact ⟨dealCase lib i caseTypeId, if_pos rfl⟩
    · obtain ⟨c, hc⟩ := h.resolved j link hlink
      exact ⟨c, by rw [if_neg (ne_fresh_of_get? hc)]; exact hc⟩
  · rintro tenantId dealId ⟨k, c⟩ hr hlive ⟨k', c'⟩ hr' hne
    rcases mem_linkedCases_withDealCase h hr with hold | ⟨rfl, rfl, rfl, rfl⟩
    · rcases mem_linkedCases_withDealCase h hr' with hold' | ⟨rfl, rfl, rfl, rfl⟩
      · exact h.latest tenantId dealId (k, c) hold hlive (k', c') hold' hne
      · -- the old cases of the deal are closed
        have := hclosed (k, c) hold
        rw [hlive] at this
        cases this
    · rcases mem_linkedCases_withDealCase h hr' with hold' | ⟨rfl, -, -, -⟩
      · exact hnew (k', c') hold'
      · exact absurd rfl hne

/-! ## Runs -/

omit h

inductive DealOp where
  | ingest (call : IngestCall)
  | suspendCase (ctx : Ctx) (caseId : Id) (reason : String) (resumeAt : Option Instant)
  | resumeCase (ctx : Ctx) (caseId : Id)
  | withdrawCase (ctx : Ctx) (caseId : Id) (reason : String)
  | emergencyClose (ctx : Ctx) (caseId : Id) (reason supervisorId fourEyesToken : String)
  | completeCase (now : Instant) (caseId : Id)

def DealStore.lift (s : DealStore) (x : Except Err Store) : Except Err DealStore :=
  x.map fun store => { s with toStore := store }

def DealOp.exec (lib : DealLibrary) (op : DealOp) (s : DealStore) : Except Err DealStore :=
  match op with
  | .ingest call => ((ingestDeal lib call s).mapError (·.title)).map (·.2)
  | .suspendCase ctx caseId reason resumeAt =>
    s.lift (LoanWorkflow.suspendCase ctx caseId reason resumeAt s.toStore)
  | .resumeCase ctx caseId => s.lift (LoanWorkflow.resumeCase ctx caseId s.toStore)
  | .withdrawCase ctx caseId reason =>
    s.lift (LoanWorkflow.withdrawCase ctx caseId reason s.toStore)
  | .emergencyClose ctx caseId reason supervisorId token =>
    s.lift (LoanWorkflow.emergencyClose ctx caseId reason supervisorId token s.toStore)
  | .completeCase now caseId => s.lift (LoanWorkflow.completeCase now caseId s.toStore)

/-- If a deal comes in for document verification and all its cases are closed, the ingestion
    began after each of them was created. -/
def StartsLast (lib : DealLibrary) (s : DealStore) : DealOp → Prop
  | .ingest call => ∀ tenantId ∈ call.tenantId, ∀ deal ∈ call.deal? lib,
      lib.toUpper (trimSpace deal.status) = "DOCUMENT_VERIFICATION" →
      (∀ r ∈ linkedCases s.toStore tenantId deal.dealId, r.2.status.isTerminal = true) →
      ∀ r ∈ linkedCases s.toStore tenantId deal.dealId, r.2.createdAt < call.startedAt
  | _ => True

instance StartsLast.decidable (lib : DealLibrary) (s : DealStore) (op : DealOp) :
    Decidable (StartsLast lib s op) :=
  match op with
  | .ingest _ => inferInstanceAs (Decidable (∀ tenantId ∈ _, _))
  | .suspendCase .. | .resumeCase .. | .withdrawCase .. | .emergencyClose ..
  | .completeCase .. => isTrue trivial

theorem lift_eq_ok {s s' : DealStore} {x : Except Err Store} (h : s.lift x = .ok s') :
    x = .ok s'.toStore := by
  obtain ⟨store, rfl, rfl⟩ := map_eq_ok.mp h
  rfl

theorem LiveIsLatest.ingest {s s' : DealStore} (h : LiveIsLatest s.toStore)
    (hguard : StartsLast lib s (.ingest call))
    (hingest : ingestDeal lib call s = .ok (response, s')) : LiveIsLatest s'.toStore := by
  obtain ⟨tenantId, htenant, ⟨-, rfl⟩ | ⟨-, d, hread, hprocessed⟩⟩ :=
    ingestDeal_cases lib hingest
  · exact h
  · rcases hprocessed.linked with hlinked | hopens
    · exact h.keeps hlinked
    · apply h.opens hopens
      have hdeal : d.ingestion.deal ∈ call.deal? lib := by
        unfold IngestCall.deal?
        rw [hread.snapshot]
        exact hread.deal
      have hclosed := h.all_closed hopens
      have hnew := hguard tenantId htenant d.ingestion.deal hdeal hopens.2.1
      rw [hread.tenantId_eq, hread.startedAt] at *
      exact hnew hclosed

/-- A step keeps the invariant. -/
theorem LiveIsLatest.step {op : DealOp} {s s' : DealStore} (h : LiveIsLatest s.toStore)
    (hguard : StartsLast lib s op) (hstep : op.exec lib s = .ok s') : LiveIsLatest s'.toStore := by
  cases op with
  | ingest call =>
    cases hingest : ingestDeal lib call s with
    | error problem =>
      rw [DealOp.exec, hingest] at hstep
      cases hstep
    | ok r =>
      rw [DealOp.exec, hingest] at hstep
      cases hstep
      exact h.ingest hguard hingest
  | suspendCase ctx caseId reason resumeAt =>
    exact h.keeps (suspendCase_step (lift_eq_ok hstep)).1.linked
  | resumeCase ctx caseId =>
    exact h.keeps (resumeCase_step (lift_eq_ok hstep)).1.linked
  | withdrawCase ctx caseId reason =>
    exact h.keeps (withdrawCase_step (lift_eq_ok hstep)).1.linked
  | emergencyClose ctx caseId reason supervisorId token =>
    exact h.keeps (emergencyClose_step (lift_eq_ok hstep)).1.linked
  | completeCase now caseId =>
    exact h.keeps (completeCase_step (lift_eq_ok hstep))

/-- A deal comes in for document verification. -/
def verificationCall (startedAt : Instant) (snapshotTimestamp name : String) : DealOp :=
  .ingest (.plain startedAt snapshotTimestamp (plainSnapshot "DOCUMENT_VERIFICATION" name []))

end LoanWorkflow
