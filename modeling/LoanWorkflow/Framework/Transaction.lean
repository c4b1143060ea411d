import LoanWorkflow.Framework.Autocommit

/-! # Transactions that can be aborted

    A program on a connection that has begun a transaction. A statement that
    fails aborts the transaction: from then on every statement fails, and a
    commit rolls back and reports an error. The program sees these errors as
    values and may go on. What it leaves on the connection is kept, so these
    are the programs of `Autocommit` over the state of the connection.

    - `Tx`: a connection, with the state that a rollback goes back to
    - `exec`, `commit`: a statement, and the end of the transaction
    - `transact`: a program in a transaction of its own, with a deferred rollback
    - `Implements`: the program has the outcome of one atomic step
-/

/-- Why a statement or a commit failed. -/
inductive TxError (ε : Type) where
  /-- The statement itself failed. -/
  | failed (e : ε)
  /-- An earlier statement of the transaction failed. -/
  | inFailedTransaction
  /-- The transaction that should be committed was aborted. -/
  | commitRollback
  /-- The transaction has ended before. -/
  | done

/-- A connection with a transaction. -/
inductive Tx (σ : Type) where
  | active (start current : σ)
  | aborted (start : σ)
  | closed (last : σ)

namespace Tx

open Autocommit

variable {σ ε δ α β : Type}
variable {k : Except (TxError ε) β → Autocommit (Tx σ) δ α} {x : Except δ (α × σ)} {e : δ}
  {f : σ → Except ε (β × σ)}

/-! ### Programs -/

/-- Execute one statement. -/
def exec (f : σ → Except ε (α × σ)) : Autocommit (Tx σ) δ (Except (TxError ε) α) where
  run
    | .active start current => match f current with
      | .ok (a, next) => (.ok (.ok a), .active start next)
      | .error e => (.ok (.error (.failed e)), .aborted start)
    | .aborted start => (.ok (.error .inFailedTransaction), .aborted start)
    | .closed last => (.ok (.error .done), .closed last)

/-- Commit. An aborted transaction is rolled back instead. -/
def commit : Autocommit (Tx σ) δ (Except (TxError ε) Unit) where
  run
    | .active _ current => (.ok (.ok ()), .closed current)
    | .aborted start => (.ok (.error .commitRollback), .closed start)
    | .closed last => (.ok (.error .done), .closed last)

/-- Go on with a computed value, or give up. -/
def lift (x : Except δ α) : Autocommit (Tx σ) δ α := read fun _ => x

/-- The state after a rollback; it does nothing to a transaction that has ended. -/
def rollback : Tx σ → σ
  | .active start _ => start
  | .aborted start => start
  | .closed last => last

/-- A program in a transaction of its own, with a deferred rollback. -/
def transact (p : Autocommit (Tx σ) δ α) (s : σ) : Except δ α × σ :=
  ((p.run (.active s s)).1, (p.run (.active s s)).2.rollback)

/-! ### Atomic steps -/

/-- The outcome of an atomic step: its result and its state, or an error and the old state. -/
def outcome (s : σ) : Except δ (α × σ) → Except δ α × σ
  | .ok (a, s') => (.ok a, s')
  | .error e => (.error e, s)

/-- From the state `s` of an active transaction, the program ends the transaction as the atomic
    step `x` does. -/
def Implements (p : Autocommit (Tx σ) δ α) (s : σ) (x : Except δ (α × σ)) : Prop :=
  ∀ start, ((p.run (.active start s)).1, (p.run (.active start s)).2.rollback) = outcome start x

/-- The same, from an aborted transaction. -/
def FailsAborted (p : Autocommit (Tx σ) δ α) (e : δ) : Prop :=
  ∀ start, ((p.run (.aborted start)).1, (p.run (.aborted start)).2.rollback) = (.error e, start)

theorem Implements.transact_eq {p : Autocommit (Tx σ) δ α} {s : σ}
    (h : Implements p s x) : transact p s = outcome s x := h s

section rules

variable {p : Autocommit (Tx σ) δ α} {s : σ}

theorem implements_lift_bind {x : Except δ β} {k : β → Autocommit (Tx σ) δ α}
    {g : β → Except δ (α × σ)} (h : ∀ b, x = .ok b → Implements (k b) s (g b)) :
    Implements (lift x >>= k) s (x >>= g) := by
  intro start
  cases hx : x with
  | error e => rfl
  | ok b => exact h b hx start

theorem implements_exec_ok {b : β} {s' : σ}
    (hf : f s = .ok (b, s')) (h : Implements (k (.ok b)) s' x) : Implements (exec f >>= k) s x := by
  intro start
  have hexec : (exec (δ := δ) f).run (.active start s) = (.ok (.ok b), .active start s') := by
    simp only [exec, hf]
  rw [run_bind_of_run hexec]
  exact h start

/-- A statement that fails leaves the rest of the program in an aborted transaction. -/
theorem implements_exec_error {e : ε} {e' : δ} (hf : f s = .error e)
    (h : FailsAborted (k (.error (.failed e))) e') : Implements (exec f >>= k) s (.error e') := by
  intro start
  have hexec : (exec (δ := δ) f).run (.active start s) = (.ok (.error (.failed e)), .aborted start) := by
    simp only [exec, hf]
  rw [run_bind_of_run hexec]
  exact h start

theorem implements_commit {k : Except (TxError ε) Unit → Autocommit (Tx σ) δ α} {a : α}
    (hk : k (.ok ()) = pure a) : Implements (commit >>= k) s (.ok (a, s)) := by
  intro start
  have hcommit : (commit (ε := ε) (δ := δ)).run (.active start s) = (.ok (.ok ()), .closed s) := rfl
  rw [run_bind_of_run hcommit, hk]
  rfl

theorem failsAborted_exec
    (h : FailsAborted (k (.error .inFailedTransaction)) e) : FailsAborted (exec f >>= k) e := by
  intro start
  have hexec : (exec (δ := δ) f).run (.aborted start) =
      (.ok (.error .inFailedTransaction), .aborted start) := rfl
  rw [run_bind_of_run hexec]
  exact h start

theorem failsAborted_commit {k : Except (TxError ε) Unit → Autocommit (Tx σ) δ α}
    (hk : k (.error .commitRollback) = fail e) : FailsAborted (commit >>= k) e := by
  intro start
  have hcommit : (commit (ε := ε) (δ := δ)).run (.aborted start) =
      (.ok (.error .commitRollback), .closed start) := rfl
  rw [run_bind_of_run hcommit, hk]
  rfl

end rules

end Tx
