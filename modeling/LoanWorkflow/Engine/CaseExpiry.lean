import LoanWorkflow.Engine.Lifecycle
import LoanWorkflow.Framework.Autocommit
import LoanWorkflow.Sla.Calendar

/-! # Expiry of cases

    `RunExpirySweep` closes the cases that are older than the `ttl_days` of
    their case type, oldest first and a hundred in a transaction, until a
    transaction finds fewer.
-/

namespace LoanWorkflow

structure ExpiryCall where
  now : Instant
  /-- The cast of a text to `int`; none where the database refuses it. -/
  castInt : String → Option Int
  /-- How many batches begin before the context is cancelled. -/
  batches : Nat

def expiryBatchSize : Nat := 100

/-- The `ttl_days` of a case, if its type has any. -/
def CaseInstance.ttlDays? (s : Store) (c : CaseInstance) : Option String :=
  (s.caseTypes.get? c.caseTypeId).bind (·.ttlDays)

/-- The query of a batch reads the `ttl_days` of every open case; a text that is no number fails
    it. -/
def expiredCases (call : ExpiryCall) (s : Store) : Except Err (List (Id × Int)) := do
  let rows ← s.cases.rows.filterMapM (fun r =>
    match r.2.ttlDays? s with
    | some text =>
      if r.2.status = .open ∨ r.2.status = .inProgress then do
        let ttl ← orFail (call.castInt text)
          ("RunExpirySweep: query expired cases: invalid input syntax for type integer: " ++ text)
        return if r.2.createdAt + ttl * dayLength < call.now then some (r, ttl) else none
      else return none
    | none => return none)
  let earliest := (rows.insertionSort (fun a b => a.1.2.createdAt ≤ b.1.2.createdAt)).take
    expiryBatchSize
  return earliest.map (fun r => (r.1.1, r.2))

def CaseInstance.expire (c : CaseInstance) (now : Instant) : CaseInstance :=
  { c with
    status := .cancelled
    completedAt := some now
    withdrawalReason := some "TTL_EXPIRED"
    rowVersion := c.rowVersion + 1 }

/-- Close one case: its open tasks, the case itself, and the event. -/
def expireCase (call : ExpiryCall) (s : Store) (expired : Id × Int) : Store :=
  let s := cancelOpenTasks s expired.1 call.now
  let s := s.updateCase expired.1 (fun c => c.expire call.now)
  s.publish
    { eventType := .caseExpired, caseId := some expired.1
      payload := .obj [("case_id", .uuid expired.1), ("ttl_days", .num expired.2),
        ("expired_at", .num call.now)] }

/-- One transaction: how many cases it closed, and the store. -/
def expireBatch (call : ExpiryCall) (s : Store) : Except Err (Nat × Store) := do
  let expired ← expiredCases call s
  return (expired.length, expired.foldl (expireCase call) s)

/-- The loop over batches. Each commits on its own, so a later one that fails takes nothing
    back. -/
def expireBatches (call : ExpiryCall) : Nat → Autocommit Store Err Unit
  | 0 => pure ()
  | n + 1 => do
    let processed ← Autocommit.transaction (expireBatch call)
    if processed < expiryBatchSize then return () else expireBatches call n

def runExpirySweep (call : ExpiryCall) : Autocommit Store Err Unit :=
  expireBatches call call.batches

/-- What closing a case keeps, a whole sweep keeps. -/
theorem runExpirySweep_moves {R : Store → Store → Prop} (hrefl : ∀ s, R s s)
    (htrans : ∀ {s₁ s₂ s₃}, R s₁ s₂ → R s₂ s₃ → R s₁ s₃) (call : ExpiryCall)
    (hone : ∀ s expired, R s (expireCase call s expired)) : (runExpirySweep call).Moves R := by
  have hfold : ∀ (expired : List (Id × Int)) (s : Store),
      R s (expired.foldl (expireCase call) s) := by
    intro expired
    induction expired with
    | nil => exact hrefl
    | cons e expired ih => exact fun s => htrans (hone s e) (ih _)
  have hbatch : (Autocommit.transaction (expireBatch call)).Moves R := by
    apply Autocommit.Moves.transaction hrefl
    intro s n s' h
    obtain ⟨expired, -, h⟩ := bind_ok h
    cases h
    exact hfold expired s
  have hloop : ∀ n, (expireBatches call n).Moves R := by
    intro n
    induction n with
    | zero => exact Autocommit.Moves.pure hrefl ()
    | succ n ih =>
      apply Autocommit.Moves.bind (R := R) htrans hbatch
      intro processed
      split
      · exact Autocommit.Moves.pure hrefl ()
      · exact ih
  exact hloop call.batches

end LoanWorkflow
