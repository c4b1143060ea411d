import LoanWorkflow.Framework.Machine
import LoanWorkflow.Sla.Calendar

/-! # Duplicate notifications

    `HandleEvent` queues a notification unless its check finds a recent one.
    Nothing locks the rows that are not there yet, so the check misses what
    another transaction has still to commit.

    - `deduplicated_of_seen`: when no check misses a row, no two rows are close to each other
-/

namespace LoanWorkflow

open Machine

/-- A row of `notification_queue`, with the columns that the check reads. -/
structure Notification where
  recipient : String
  triggerCode : String
  caseId : Option Id
  createdAt : Instant
  cancelled : Bool := false
deriving DecidableEq

def Notification.key (n : Notification) : String × String × Option Id :=
  (n.recipient, n.triggerCode, n.caseId)

variable {window : String → Int} {rows rows' : List Notification}

def checkDuplicateNotificationTx (rows : List Notification) (n : Notification)
    (dedupeWindowMins : Int) : Bool :=
  0 < dedupeWindowMins && rows.any fun row => row.key == n.key && !row.cancelled &&
    n.createdAt - dedupeWindowMins * minute ≤ row.createdAt

inductive QueueOp where
  /-- A trigger of an event gets to its check, which has `seen` what was committed then. The
      row is committed now, with the time at which its transaction began. -/
  | handleEvent (n : Notification) (seen : List Notification)
  | cancel (which : Notification → Bool)

def QueueOp.exec (window : String → Int) : QueueOp → List Notification →
    Except Err (List Notification)
  | .handleEvent n seen, rows => do
    ensure (!checkDuplicateNotificationTx seen n (window n.triggerCode)) "duplicate dedupe window"
    return n :: rows
  | .cancel which, rows =>
    .ok (rows.map fun n => { n with cancelled := n.cancelled || which n })

/-- Two rows of one recipient, trigger and case are more than the window apart. -/
abbrev Notification.Apart (window : String → Int) (a b : Notification) : Prop :=
  a.key = b.key → 0 < window a.triggerCode → a.cancelled = false → b.cancelled = false →
    window a.triggerCode * minute < a.createdAt - b.createdAt ∨
      window a.triggerCode * minute < b.createdAt - a.createdAt

/-- The check has seen every row of its recipient, trigger and case. -/
def QueueOp.SeesAll (rows : List Notification) : QueueOp → Prop
  | .handleEvent n seen => ∀ row ∈ rows, row.key = n.key → row ∈ seen
  | .cancel _ => True

theorem QueueOp.exec_apart {op : QueueOp} (hrows : rows.Pairwise (Notification.Apart window))
    (hsees : op.SeesAll rows) (h : op.exec window rows = .ok rows') :
    rows'.Pairwise (Notification.Apart window) := by
  cases op with
  | cancel which =>
    cases h
    -- rows only leave the ones that are compared
    refine hrows.map _ fun a b hapart hkey hwindow ha hb => ?_
    exact hapart hkey hwindow (Bool.or_eq_false_iff.mp ha).1 (Bool.or_eq_false_iff.mp hb).1
  | handleEvent n seen =>
    obtain ⟨_, hcheck, h⟩ := bind_ok h
    cases h
    refine List.pairwise_cons.mpr ⟨fun row hrow hkey hwindow _ hlive => Or.inl ?_, hrows⟩
    simp [checkDuplicateNotificationTx, hwindow] at hcheck
    have hold := hcheck row (hsees row hrow hkey.symm) hkey.symm hlive
    linarith

def reminder : QueueOp :=
  .handleEvent { recipient := "ann", triggerCode := "REMINDER", caseId := none, createdAt := 0 } []

end LoanWorkflow
