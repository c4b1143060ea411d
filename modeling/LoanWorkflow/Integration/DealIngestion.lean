import LoanWorkflow.Model.Context

/-! # Deals that end

    The ingestion of a deal cancels the open case of a deal whose status ends
    it. Only the case and its link to the deal are written.
-/

namespace LoanWorkflow

def CaseInstance.cancelForDeal (c : CaseInstance) (incomingDealStatus : String) : CaseInstance :=
  { c with
    status := .cancelled
    withdrawalReason := some ("Deal status changed to " ++ incomingDealStatus)
    rowVersion := c.rowVersion + 1 }

def cancelCaseForDealStatus (lib : Library) (now : Instant) (tenantId : String) (caseId : Id)
    (incomingDealStatus : String) (s : Store) : Except Err Store := do
  let _ ← orFail (s.cases.get? caseId)
    "load existing case status for cancel: sql: no rows in result set"
  let s := s.updateCase caseId (fun c => c.cancelForDeal incomingDealStatus)
  return { s with
    caseDealLinks := s.caseDealLinks.updateWhere
      (fun link => link.caseId == caseId && link.tenantId == tenantId)
      (fun link => { link with
        currentDealStatus := some (lib.toUpper (trimSpace incomingDealStatus))
        lastSnapshotRefreshedAt := now }) }

end LoanWorkflow
