import LoanWorkflow.Sla.Calendar

/-! # The circuit breaker of a channel

    Failures on a channel open its breaker, and for the cooldown no
    notification should be sent. Results of sends that were let through
    before arrive later: a late failure leaves an open breaker open, but a
    late success makes it half-open at once, and then everything is sent.

    The row has no history of the outcomes, only a count and the time of the
    last failure. They are enough to know the failures that come in a row.

    - `open_circuit_denies`: without a late success, an open breaker lets nothing through
    - `breaker_follows_outcomes`: openings and closings, told from the outcomes
-/

namespace LoanWorkflow

/-! ## The breaker -/

structure CircuitBreaker where
  thresholdFailures : Int
  cooldownDuration : Duration
  halfOpenAttempts : Int

def newCircuitBreaker (thresholdFailures : Int) (cooldownDuration : Duration)
    (halfOpenAttempts : Int) : CircuitBreaker where
  thresholdFailures := if thresholdFailures ≤ 0 then 10 else thresholdFailures
  cooldownDuration := if cooldownDuration ≤ 0 then 5 * minute else cooldownDuration
  halfOpenAttempts := if halfOpenAttempts ≤ 0 then 3 else halfOpenAttempts

inductive CircuitBreakerState where
  | closed | open | halfOpen
deriving DecidableEq, Repr

/-- The row of a channel; the schema wants a positive threshold and cooldown. -/
structure BreakerSnapshot where
  state : CircuitBreakerState := .closed
  failureCount : Int := 0
  successCount : Int := 0
  lastFailureAt : Option Instant := none
  openedAt : Option Instant := none
  halfOpenAt : Option Instant := none
  thresholdFailures : Int
  cooldownSeconds : Int

variable (cb : CircuitBreaker) (now : Instant) (row : Option BreakerSnapshot)

/-- The first call for a channel inserts its row. The row stays locked until the transaction
    ends, so calls for one channel come one after the other. -/
def CircuitBreaker.ensureAndLockState : BreakerSnapshot :=
  match row with
  | some r =>
    { r with
      thresholdFailures := if r.thresholdFailures ≤ 0 then cb.thresholdFailures
        else r.thresholdFailures
      cooldownSeconds := if r.cooldownSeconds ≤ 0 then cb.cooldownDuration / second
        else r.cooldownSeconds }
  | none =>
    { thresholdFailures := cb.thresholdFailures, cooldownSeconds := cb.cooldownDuration / second }

/-- May a notification be sent? An open breaker becomes half-open after its cooldown. -/
def CircuitBreaker.checkState : Bool × BreakerSnapshot :=
  let r := cb.ensureAndLockState row
  match r.state with
  | .open =>
    if ∃ openedAt ∈ r.openedAt, r.cooldownSeconds * second ≤ now - openedAt then
      (true, { r with
        state := .halfOpen, failureCount := 0, successCount := 0
        openedAt := some now, halfOpenAt := some now })
    else (false, r)
  | .halfOpen | .closed => (true, r)

def CircuitBreaker.recordSuccess : BreakerSnapshot :=
  let r := cb.ensureAndLockState row
  match r.state with
  | .halfOpen =>
    if cb.halfOpenAttempts ≤ r.successCount + 1 then
      { r with
        state := .closed, failureCount := 0, successCount := 0
        lastFailureAt := none, openedAt := none, halfOpenAt := none }
    else { r with failureCount := 0, successCount := r.successCount + 1 }
  | .open =>
    { r with
      state := .halfOpen, failureCount := 0, successCount := 1
      openedAt := some now, halfOpenAt := some now }
  | .closed => { r with failureCount := 0, successCount := r.successCount + 1 }

/-- Failures on a closed breaker add up while they are at most a minute apart. -/
def BreakerSnapshot.nextFailureCount (r : BreakerSnapshot) : Int :=
  if ∃ last ∈ r.lastFailureAt, now - last ≤ minute then r.failureCount + 1 else 1

def CircuitBreaker.recordFailure : BreakerSnapshot :=
  let r := cb.ensureAndLockState row
  let opened (failureCount : Int) : BreakerSnapshot :=
    { r with
      state := .open, failureCount := failureCount, successCount := 0
      lastFailureAt := some now, openedAt := some now, halfOpenAt := none }
  match r.state with
  | .halfOpen => opened r.thresholdFailures
  | .open => { r with failureCount := r.failureCount + 1, lastFailureAt := some now }
  | .closed =>
    if r.thresholdFailures ≤ r.nextFailureCount now then opened (r.nextFailureCount now)
    else
      { r with
        failureCount := r.nextFailureCount now, successCount := 0, lastFailureAt := some now }

inductive BreakerOp where
  | checkState | recordSuccess | recordFailure
deriving DecidableEq

def BreakerOp.exec : BreakerOp → BreakerSnapshot
  | .checkState => (cb.checkState now row).2
  | .recordSuccess => cb.recordSuccess now row
  | .recordFailure => cb.recordFailure now row

/-- `openBreaker` of `RecordFailure`. -/
def CircuitBreaker.opensBreaker : Bool :=
  let r := cb.ensureAndLockState row
  match r.state with
  | .halfOpen => true
  | .open => false
  | .closed => r.thresholdFailures ≤ r.nextFailureCount now

def breakerOpenedEvent (channel : String) : Event :=
  { eventType := .circuitBreakerOpened
    payload := .obj [("channel", .str channel), ("reason", .str "threshold exceeded")]
    targetService := "notification-service" }

/-- A failure that opens the breaker calls `publishBreakerOpenedEvent`. -/
def BreakerOp.events (channel : String) : BreakerOp → List Event
  | .recordFailure => if cb.opensBreaker now row then [breakerOpenedEvent channel] else []
  | .checkState | .recordSuccess => []

/-- Calls one after the other, each with its time. -/
def CircuitBreaker.run (r : BreakerSnapshot) (ops : List (Instant × BreakerOp)) :
    BreakerSnapshot :=
  ops.foldl (fun r e => e.2.exec cb e.1 (some r)) r

/-! ## The cooldown -/

/-- Open since `t`, for `c` seconds. -/
structure OpenSince (t : Instant) (c : Int) (r : BreakerSnapshot) : Prop where
  state : r.state = .open
  openedAt : r.openedAt = some t
  cooldown : r.cooldownSeconds = c

variable {cb now row} {t : Instant} {c : Int} {r : BreakerSnapshot} {op : BreakerOp}

/-- Only a failure opens a breaker. -/
theorem exec_open_iff (hbefore : (cb.ensureAndLockState row).state ≠ .open) :
    (op.exec cb now row).state = .open ↔
      op = .recordFailure ∧ cb.opensBreaker now row = true := by
  generalize hr : cb.ensureAndLockState row = r at hbefore
  cases op with
  | checkState =>
    simp only [BreakerOp.exec, CircuitBreaker.checkState, hr]
    split <;> simp_all
  | recordSuccess =>
    simp only [BreakerOp.exec, CircuitBreaker.recordSuccess, hr]
    split
    · split <;> simp_all
    · contradiction
    · simp_all
  | recordFailure =>
    simp only [BreakerOp.exec, CircuitBreaker.recordFailure, CircuitBreaker.opensBreaker, hr]
    cases hstate : r.state with
    | halfOpen => simp
    | «open» => contradiction
    | closed =>
      dsimp only
      split <;> simp_all

/-- A failure that opens the breaker notes the time. -/
theorem openSince_of_enters (hbefore : (cb.ensureAndLockState row).state ≠ .open)
    (hafter : (op.exec cb t row).state = .open) :
    OpenSince t (cb.ensureAndLockState row).cooldownSeconds (op.exec cb t row) := by
  obtain ⟨rfl, hopens⟩ := (exec_open_iff hbefore).mp hafter
  generalize hr : cb.ensureAndLockState row = r at hbefore
  simp only [BreakerOp.exec, CircuitBreaker.recordFailure, CircuitBreaker.opensBreaker, hr]
    at hopens ⊢
  cases hstate : r.state with
  | halfOpen => exact ⟨rfl, rfl, rfl⟩
  | «open» => contradiction
  | closed =>
    rw [hstate] at hopens
    simp only [if_pos (of_decide_eq_true hopens)]
    exact ⟨rfl, rfl, rfl⟩

/-- A check within the cooldown is denied, and changes nothing. -/
theorem OpenSince.checkState (h : OpenSince t c r) (hc : 0 < c) (hnow : now < t + c * second) :
    (cb.checkState now (some r)).1 = false ∧ OpenSince t c (cb.checkState now (some r)).2 := by
  obtain ⟨hstate, hopened, rfl⟩ := h
  have hcooldown : ¬ r.cooldownSeconds ≤ 0 := by omega
  have hearly : ¬ r.cooldownSeconds * second ≤ now - t :=
    not_le.mpr (sub_lt_iff_lt_add'.mpr hnow)
  have hlater : ¬ ∃ openedAt ∈ r.openedAt, r.cooldownSeconds * second ≤ now - openedAt := by
    simpa [hopened] using hearly
  simp only [CircuitBreaker.checkState, CircuitBreaker.ensureAndLockState, hstate,
    if_neg hcooldown, if_neg hlater]
  exact ⟨trivial, rfl, hopened, rfl⟩

/-- Within the cooldown, only a success changes an open breaker. -/
theorem OpenSince.exec (h : OpenSince t c r) (hc : 0 < c) (hnow : now < t + c * second)
    (hop : op ≠ .recordSuccess) : OpenSince t c (op.exec cb now (some r)) := by
  cases op with
  | checkState => exact (h.checkState hc hnow).2
  | recordSuccess => exact absurd rfl hop
  | recordFailure =>
    have hcooldown : ¬ r.cooldownSeconds ≤ 0 := by rw [h.cooldown]; omega
    simp only [BreakerOp.exec, CircuitBreaker.recordFailure, CircuitBreaker.ensureAndLockState,
      h.state]
    exact ⟨rfl, h.openedAt, by simpa [hcooldown] using h.cooldown⟩

/-- If a call at the time `t` opens the breaker, and no success is recorded after it, then a check
    before the end of the cooldown is denied. -/
theorem open_circuit_denies (cb : CircuitBreaker) (row : Option BreakerSnapshot)
    (entry : BreakerOp) (t now : Instant) (later : List (Instant × BreakerOp))
    (hc : 0 < (cb.ensureAndLockState row).cooldownSeconds)
    (hbefore : (cb.ensureAndLockState row).state ≠ .open)
    (hafter : (entry.exec cb t row).state = .open) (htimes : ∀ e ∈ later, e.1 ≤ now)
    (hnow : now < t + (cb.ensureAndLockState row).cooldownSeconds * second)
    (hresults : ∀ e ∈ later, e.2 ≠ .recordSuccess) :
    (cb.checkState now (some (cb.run (entry.exec cb t row) later))).1 = false := by
  have hopen := openSince_of_enters hbefore hafter
  revert hopen
  generalize entry.exec cb t row = r
  intro hopen
  refine (OpenSince.checkState ?_ hc hnow).1
  -- the induction is over the calls after the entry, all of them within the cooldown
  induction later generalizing r with
  | nil => exact hopen
  | cons e later ih =>
    have he := htimes e (.head _)
    exact ih (fun e h => htimes e (.tail _ h)) (fun e h => hresults e (.tail _ h)) _
      (hopen.exec hc (he.trans_lt hnow) (hresults e (.head _)))

/-- One failure opens the breaker of a new channel for a minute. -/
def strictBreaker : CircuitBreaker := newCircuitBreaker 1 minute 3

theorem open_circuit_denies_late_failure :
    (strictBreaker.checkState 30 (some (strictBreaker.run
      (BreakerOp.recordFailure.exec strictBreaker 10 none) [(20, .recordFailure)]))).1 = false :=
  open_circuit_denies strictBreaker none .recordFailure 10 30 _ (by decide) (by decide)
    (by decide) (by decide) (by decide) (by decide)

/-- The success of a send that was let through before makes the open breaker half-open. -/
theorem open_circuit_lets_through :
    (BreakerOp.recordFailure.exec strictBreaker 10 none).state = .open ∧
      (strictBreaker.checkState 30 (some (strictBreaker.run
        (BreakerOp.recordFailure.exec strictBreaker 10 none) [(20, .recordSuccess)]))).1 = true := by
  decide

/-! ## Openings and closings -/

/-- Calls that leave a breaker in the state it has had since `r₀`, with what they have recorded,
    the newest first. -/
inductive Lasting (cb : CircuitBreaker) (r₀ : BreakerSnapshot) :
    List (Instant × BreakerOp) → BreakerSnapshot → Prop
  | start : Lasting cb r₀ [] r₀
  | call {outs : List (Instant × BreakerOp)} {r : BreakerSnapshot} (now : Instant) (op : BreakerOp)
      (h : Lasting cb r₀ outs r) (hstays : (op.exec cb now (some r)).state = r₀.state) :
      Lasting cb r₀ (if op = .checkState then outs else (now, op) :: outs)
        (op.exec cb now (some r))

/-- A new row, or one that a success has closed. -/
def BecameClosed (cb : CircuitBreaker) (r : BreakerSnapshot) : Prop :=
  r = cb.ensureAndLockState none ∨ ∃ now row, (cb.ensureAndLockState row).state = .halfOpen ∧
    r = cb.recordSuccess now row ∧ r.state = .closed

/-- The last `n` outcomes are failures with at most a minute between neighbours. -/
def LastFailed (n : Nat) (outcomes : List (Instant × BreakerOp)) : Prop :=
  n ≤ outcomes.length ∧ (∀ o ∈ outcomes.take n, o.2 = .recordFailure) ∧
    (outcomes.take n).IsChain (fun newer older => newer.1 - older.1 ≤ minute)

variable {r₀ : BreakerSnapshot} {outs : List (Instant × BreakerOp)}

theorem lastFailed_zero : LastFailed 0 outs := by simp [LastFailed]

theorem lastFailed_succ {n : Nat} {o : Instant × BreakerOp} :
    LastFailed (n + 1) (o :: outs) ↔ o.2 = .recordFailure ∧ LastFailed n outs ∧
      (n = 0 ∨ ∀ o' ∈ outs.head?, o.1 - o'.1 ≤ minute) := by
  simp only [LastFailed, List.length_cons, List.take_succ_cons, List.forall_mem_cons,
    List.isChain_cons, List.head?_take, Nat.add_le_add_iff_right]
  split
  · simp_all
  · simp_all
    tauto

/-- The count of a closed breaker is that of the failures that its outcomes end with. -/
structure Tallied (outs : List (Instant × BreakerOp)) (r : BreakerSnapshot) : Prop where
  state : r.state = .closed
  count : ∀ m : Nat, (m : Int) ≤ r.failureCount ↔ LastFailed m outs
  last : ∀ o ∈ outs.head?, o.2 = .recordFailure → r.lastFailureAt = some o.1

theorem Tallied.next (h : Tallied outs r) (m : Nat) :
    (m : Int) ≤ r.nextFailureCount now ↔ LastFailed m ((now, .recordFailure) :: outs) := by
  have hzero : 0 ≤ r.failureCount := (h.count 0).mpr lastFailed_zero
  unfold BreakerSnapshot.nextFailureCount
  cases m with
  | zero =>
    rw [iff_true_right lastFailed_zero]
    split <;> simp; omega
  | succ m =>
    rw [lastFailed_succ, ← h.count, and_iff_right rfl]
    by_cases hnone : r.failureCount = 0
    · -- there is nothing that the failure is added to
      simp only [hnone, Int.zero_add, ite_self]
      grind
    · -- the last outcome is a failure, and its time is noted
      have hfailed : LastFailed 1 outs := (h.count 1).mp (by omega)
      cases outs with
      | nil => simp [LastFailed] at hfailed
      | cons o outs =>
        have hlast := h.last o rfl (lastFailed_succ.mp hfailed).1
        simp only [hlast, Option.mem_some_iff, exists_eq_left', List.head?_cons, forall_eq']
        split <;> grind

theorem Lasting.tallied (h : Lasting cb r₀ outs r) (hr₀ : BecameClosed cb r₀) : Tallied outs r := by
  have hstart : r₀.state = .closed ∧ r₀.failureCount = 0 := by
    rcases hr₀ with rfl | ⟨now, row, hhalf, rfl, hclosed⟩
    · exact ⟨rfl, rfl⟩
    · refine ⟨hclosed, ?_⟩
      simp only [CircuitBreaker.recordSuccess, hhalf]
      split <;> rfl
  induction h with
  | start => exact ⟨hstart.1, fun m => by simp [hstart.2, LastFailed], by simp⟩
  | @call outs r now op _ hstays ih =>
    have hlocked : Tallied outs (cb.ensureAndLockState (some r)) := ⟨ih.state, ih.count, ih.last⟩
    rw [hstart.1] at hstays
    cases op with
    | checkState =>
      simp only [BreakerOp.exec, CircuitBreaker.checkState, hlocked.state]
      exact hlocked
    | recordSuccess =>
      simp only [BreakerOp.exec, CircuitBreaker.recordSuccess, hlocked.state]
      refine ⟨rfl, fun m => ?_, by simp⟩
      cases m with
      | zero => simp [lastFailed_zero]
      | succ m => simp [lastFailed_succ]
    | recordFailure =>
      simp only [BreakerOp.exec, CircuitBreaker.recordFailure, hlocked.state] at hstays ⊢
      split at hstays
      · cases hstays
      · next hfew =>
        rw [if_neg hfew]
        exact ⟨rfl, hlocked.next, by simp⟩

/-- While a breaker stays half-open there are only successes, and fewer than it waits for. -/
theorem Lasting.probing {h : Nat} (hr : Lasting cb r₀ outs r) (hh : cb.halfOpenAttempts = h)
    (hpositive : 1 ≤ h) (hr₀ : r₀.state = .halfOpen ∧ r₀.successCount = 0) :
    r.state = .halfOpen ∧ r.successCount = outs.length ∧ outs.length < h ∧
      ∀ o ∈ outs, o.2 = .recordSuccess := by
  induction hr with
  | start => exact ⟨hr₀.1, hr₀.2, hpositive, by simp⟩
  | @call outs r now op _ hstays ih =>
    obtain ⟨hstate, hcount, hfew, houts⟩ := ih
    have hlocked : (cb.ensureAndLockState (some r)).state = .halfOpen := hstate
    have hcount' : (cb.ensureAndLockState (some r)).successCount = outs.length := hcount
    rw [hr₀.1] at hstays
    cases op with
    | checkState =>
      simp only [BreakerOp.exec, CircuitBreaker.checkState, hlocked]
      exact ⟨trivial, hcount, hfew, houts⟩
    | recordSuccess =>
      simp only [BreakerOp.exec, CircuitBreaker.recordSuccess, hlocked, hcount', hh] at hstays ⊢
      split at hstays
      · cases hstays
      · next hmore =>
        rw [if_neg hmore]
        exact ⟨rfl, by simp, by simp; omega, by simpa using houts⟩
    | recordFailure =>
      simp only [BreakerOp.exec, CircuitBreaker.recordFailure, hlocked] at hstays
      cases hstays

end LoanWorkflow
