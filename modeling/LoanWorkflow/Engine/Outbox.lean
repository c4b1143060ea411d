import LoanWorkflow.Engine.TaskClaims
import LoanWorkflow.Framework.Machine

/-! # Delivery of events

    Consumers poll the outbox for events of their service, and report each of
    them as delivered or as failed. An event has a budget of attempts. The
    counter is raised when an event is handed out, and again when its failure
    is reported, so every failed delivery costs two attempts.

    - `delivery_budget_iff`: the runs in which the budget is the number of deliveries
-/

namespace LoanWorkflow

open Table Machine

variable {e e' : Event} {k : Id} {s : Store} {tenant : Option String}

/-! ## The calls -/

structure PollCall where
  now : Instant
  /-- The tenant of the context. -/
  tenant : Option String := none
  service : String
  batchSize : Int
  /-- The rows that other transactions have locked, which are skipped. -/
  locked : Id → Bool := fun _ => false
  /-- The order in which the database meets rows of the same age. -/
  rank : Id → Nat := id

def PollCall.mayTake (call : PollCall) (e : Event) : Bool :=
  e.targetService == call.service && e.status == .pending && decide (e.attempts < e.maxAttempts) &&
    e.tenantId == tenantOrDefault call.tenant

/-- `ORDER BY created_at ASC`. -/
def PollCall.before (call : PollCall) (r r' : Id × Event) : Bool :=
  if r.2.createdAt ≠ r'.2.createdAt then decide (r.2.createdAt < r'.2.createdAt)
  else decide (call.rank r.1 ≤ call.rank r'.1)

def PollCall.limit (call : PollCall) : Nat :=
  if call.batchSize ≤ 0 then 10 else call.batchSize.toNat

/-- The events that the call selects and locks. -/
def selectPending (call : PollCall) (s : Store) : List (Id × Event) :=
  ((s.outbox.rows.filter (fun r => call.mayTake r.2 && !call.locked r.1)).insertionSort
    (fun r r' => call.before r r' = true)).take call.limit

def Event.handOut (e : Event) (now : Instant) : Event :=
  { e with status := .processing, lastAttemptedAt := some now, attempts := e.attempts + 1 }

/-- The events as they were read, and the store. -/
def pollEvents (call : PollCall) (s : Store) : List (Id × Event) × Store :=
  let events := selectPending call s
  (events, { s with
    outbox := s.outbox.update (fun k e =>
      if (events.map Prod.fst).contains k && e.tenantId == tenantOrDefault call.tenant then
        e.handOut call.now
      else e) })

/-- An event whose delivery is still open, for this tenant. -/
def Event.isOpenFor (e : Event) (tenant : Option String) : Bool :=
  (e.status == .pending || e.status == .processing) && e.tenantId == tenantOrDefault tenant

def Event.ack (e : Event) (now : Instant) : Event :=
  { e with
    status := .delivered
    deliveredAt := some now
    attempts := e.attempts + 1
    lastAttemptedAt := some now }

def ackEvent (now : Instant) (tenant : Option String) (eventId : Id) (s : Store) :
    Except Err Store := do
  let _ ← orFail ((s.outbox.get? eventId).filter (·.isOpenFor tenant))
    ("event " ++ toString eventId ++ " not found or already delivered")
  return { s with outbox := s.outbox.updateAt eventId (·.ack now) }

def Event.nack (e : Event) (now : Instant) (deliveryErr : String) : Event :=
  { e with
    attempts := e.attempts + 1
    lastAttemptedAt := some now
    status := if e.maxAttempts ≤ e.attempts + 1 then .failed else .pending
    payload := e.payload.merge [("_last_error", .str deliveryErr)] }

/-- Documents that `jsonb_set` finds a field in. -/
def Json.isObject : Json → Bool
  | .obj _ => true
  | _ => false

def nackEvent (now : Instant) (tenant : Option String) (eventId : Id) (deliveryErr : String)
    (s : Store) : Except Err Store := do
  let e ← orFail ((s.outbox.get? eventId).filter (·.isOpenFor tenant))
    ("event " ++ toString eventId ++ " not found or not in PENDING state")
  ensure e.payload.isObject
    ("failed to nack event " ++ toString eventId ++ ": cannot set path in scalar")
  return { s with outbox := s.outbox.updateAt eventId (·.nack now deliveryErr) }

/-! ## The system -/

/-- The store, and how often each event has been handed out. No code reads the latter. -/
structure OutboxSystem where
  store : Store
  handouts : Id → Nat := fun _ => 0

variable {sys sys' : OutboxSystem}

inductive OutboxOp where
  | poll (call : PollCall)
  | ack (now : Instant) (tenant : Option String) (eventId : Id)
  | nack (now : Instant) (tenant : Option String) (eventId : Id) (deliveryErr : String)

variable {op : OutboxOp}

def OutboxOp.exec (op : OutboxOp) (sys : OutboxSystem) : Except Err OutboxSystem :=
  match op with
  | .poll call =>
    let (events, s) := pollEvents call sys.store
    .ok { store := s, handouts := fun k => sys.handouts k + (events.map Prod.fst).count k }
  | .ack now tenant eventId => do
    let s ← ackEvent now tenant eventId sys.store
    return { sys with store := s }
  | .nack now tenant eventId deliveryErr => do
    let s ← nackEvent now tenant eventId deliveryErr sys.store
    return { sys with store := s }

/-! ## One event -/

def OutboxOp.rejected : OutboxOp → Option Id
  | .nack _ _ eventId _ => some eventId
  | _ => none

/-- What a call does to the event `k`, which was handed out `h` times. -/
inductive DeliveryStep (k : Id) (e : Event) (h : Nat) : OutboxOp → Event → Nat → Prop where
  | same (op : OutboxOp) (hother : op.rejected ≠ some k) : DeliveryStep k e h op e h
  | handOut (call : PollCall) (hpending : e.status = .pending)
      (hleft : e.attempts < e.maxAttempts) :
      DeliveryStep k e h (.poll call) (e.handOut call.now) (h + 1)
  | ack (now : Instant) (tenant : Option String) (hopen : e.isOpenFor tenant = true) :
      DeliveryStep k e h (.ack now tenant k) (e.ack now) h
  | nack (now : Instant) (tenant : Option String) (deliveryErr : String)
      (hopen : e.isOpenFor tenant = true) (hobject : e.payload.isObject = true) :
      DeliveryStep k e h (.nack now tenant k deliveryErr) (e.nack now deliveryErr) h

theorem mem_selectPending {call : PollCall} {r : Id × Event} (h : r ∈ selectPending call s) :
    s.outbox.get? r.1 = some r.2 ∧ call.mayTake r.2 = true := by
  obtain ⟨hget, htake⟩ := mem_selection h
  rw [Bool.and_eq_true] at htake
  exact ⟨hget, htake.1⟩

/-- A poll hands out waiting events with attempts left, each of them once. -/
theorem pollEvents_delivery (call : PollCall) (hget : s.outbox.get? k = some e) (h : Nat) :
    ∃ e', (pollEvents call s).2.outbox.get? k = some e' ∧
      DeliveryStep k e h (.poll call) e' (h + ((pollEvents call s).1.map Prod.fst).count k) := by
  have hnodup : ((selectPending call s).map Prod.fst).Nodup := s.outbox.nodup_selection
  unfold pollEvents
  rw [get?_update, hget, List.Nodup.count hnodup]
  by_cases hmem : k ∈ (selectPending call s).map Prod.fst
  · obtain ⟨r, hr, rfl⟩ := List.mem_map.mp hmem
    obtain ⟨hrow, htake⟩ := mem_selectPending hr
    have hsame : r.2 = e := Option.some.inj (hrow.symm.trans hget)
    rw [hsame] at htake
    simp only [PollCall.mayTake, Bool.and_eq_true, beq_iff_eq, decide_eq_true_eq] at htake
    obtain ⟨⟨⟨-, hpending⟩, hleft⟩, htenant⟩ := htake
    refine ⟨e.handOut call.now, ?_, ?_⟩
    · simp [hmem, htenant]
    · rw [if_pos hmem]
      exact .handOut call hpending hleft
  · refine ⟨e, ?_, ?_⟩
    · simp [hmem]
    · rw [if_neg hmem]
      exact .same _ nofun

/-- A call that succeeds does to an event what its kind says. -/
theorem OutboxOp.exec_delivery
    (hget : sys.store.outbox.get? k = some e) (hok : op.exec sys = .ok sys') :
    ∃ e', sys'.store.outbox.get? k = some e' ∧
      DeliveryStep k e (sys.handouts k) op e' (sys'.handouts k) := by
  cases op with
  | poll call =>
    cases hok
    exact pollEvents_delivery call hget _
  | ack now tenant eventId =>
    obtain ⟨s, hack, hok⟩ := bind_ok hok
    cases hok
    obtain ⟨e₀, hrow, hack⟩ := bind_ok hack
    cases hack
    obtain ⟨hrow, hopen⟩ := Option.filter_eq_some_iff.mp (orFail_eq_ok.mp hrow)
    by_cases hk : k = eventId
    · subst hk
      have hsame : e₀ = e := Option.some.inj (hrow.symm.trans hget)
      subst hsame
      refine ⟨e₀.ack now, ?_, .ack now tenant hopen⟩
      simp [hget]
    · refine ⟨e, ?_, .same _ nofun⟩
      show (sys.store.outbox.updateAt eventId _).get? k = _
      rw [get?_updateAt_ne hk, hget]
  | nack now tenant eventId deliveryErr =>
    obtain ⟨s, hnack, hok⟩ := bind_ok hok
    cases hok
    obtain ⟨e₀, hrow, hnack⟩ := bind_ok hnack
    obtain ⟨_, hobject, hnack⟩ := bind_ok hnack
    cases hnack
    rw [ensure_eq_ok] at hobject
    obtain ⟨hrow, hopen⟩ := Option.filter_eq_some_iff.mp (orFail_eq_ok.mp hrow)
    by_cases hk : k = eventId
    · subst hk
      have hsame : e₀ = e := Option.some.inj (hrow.symm.trans hget)
      subst hsame
      refine ⟨e₀.nack now deliveryErr, ?_, .nack now tenant deliveryErr hopen hobject⟩
      simp [hget]
    · refine ⟨e, ?_, .same _ fun hrejected => hk (Option.some.inj hrejected).symm⟩
      show (sys.store.outbox.updateAt eventId _).get? k = _
      rw [get?_updateAt_ne hk, hget]

/-- A report about an open event is accepted. -/
theorem nackEvent_ok {now : Instant} {deliveryErr : String}
    (hget : s.outbox.get? k = some e) (hopen : e.isOpenFor tenant = true)
    (hobject : e.payload.isObject = true) :
    nackEvent now tenant k deliveryErr s =
      .ok { s with outbox := s.outbox.updateAt k (·.nack now deliveryErr) } := by
  unfold nackEvent
  simp [hget, Option.filter, hopen, hobject, orFail, ensure, bind, Except.bind, pure, Except.pure]

/-! ## The budget -/

/-- The account of an event: between two hand-outs there is a report of a failure, and both
    are counted as attempts. -/
structure Ledger (e : Event) (h : Nat) : Prop where
  budget : 1 ≤ e.maxAttempts
  pending : e.status = .pending → 2 * (h : Int) ≤ e.attempts ∧ e.attempts < e.maxAttempts
  processing : e.status = .processing →
    1 ≤ h ∧ 2 * (h : Int) ≤ e.attempts + 1 ∧ e.attempts ≤ e.maxAttempts
  failed : e.status = .failed → (h : Int) = e.maxAttempts

/-- Along a run: an event fails after as many deliveries as its budget says, waits only with
    attempts left, and is not handed out once it is delivered or failed. -/
structure WithinBudget (k : Id) (sys : OutboxSystem) (op : OutboxOp) (sys' : OutboxSystem) :
    Prop where
  failed : ∀ e, sys'.store.outbox.get? k = some e → e.status = .failed →
    (sys'.handouts k : Int) = e.maxAttempts
  pending : ∀ e, sys'.store.outbox.get? k = some e → e.status = .pending →
    e.attempts < e.maxAttempts
  final : ∀ e, sys.store.outbox.get? k = some e → e.status = .delivered ∨ e.status = .failed →
    sys'.handouts k = sys.handouts k ∧
      ∃ e', sys'.store.outbox.get? k = some e' ∧ e'.status = e.status

/-- A failure report that is accepted and uses up the budget is one about an event with a budget
    of one attempt, which has been handed out. -/
def OutboxOp.Exact (k : Id) (sys : OutboxSystem) (op : OutboxOp) : Prop :=
  match op with
  | .nack _ tenant eventId _ => eventId = k → ∀ e, sys.store.outbox.get? k = some e →
      e.isOpenFor tenant = true → e.payload.isObject = true → e.maxAttempts ≤ e.attempts + 1 →
      e.maxAttempts = 1 ∧ e.status = .processing
  | _ => True

theorem Event.isOpenFor_status
    (h : e.isOpenFor tenant = true) : e.status = .pending ∨ e.status = .processing := by
  unfold Event.isOpenFor at h
  simp only [Bool.and_eq_true, Bool.or_eq_true, beq_iff_eq] at h
  exact h.1

/-- A report that uses up the budget comes after as many deliveries as the budget says only if
    that is one delivery. -/
theorem Ledger.exhausted_iff {h : Nat} (hledger : Ledger e h)
    (hopen : e.status = .pending ∨ e.status = .processing)
    (hlast : e.maxAttempts ≤ e.attempts + 1) :
    (h : Int) = e.maxAttempts ↔ e.maxAttempts = 1 ∧ e.status = .processing := by
  rcases hopen with hpending | hprocessing
  · have hwaits := hledger.pending hpending
    simp only [hpending, reduceCtorEq, and_false, iff_false]
    omega
  · have hout := hledger.processing hprocessing
    simp only [hprocessing, and_true]
    omega

/-- The account stays right, if a report that uses up the budget is exact. -/
theorem DeliveryStep.ledger {h h' : Nat}
    (hstep : DeliveryStep k e h op e' h') (hledger : Ledger e h)
    (hexact : e'.status = .failed → (h' : Int) = e'.maxAttempts) : Ledger e' h' := by
  have hbudget := hledger.budget
  cases hstep with
  | same => exact hledger
  | handOut call hpending hleft =>
    have hwaits := hledger.pending hpending
    refine ⟨hbudget, ?_, ?_, ?_⟩
    · intro hstatus
      cases hstatus
    · intro _
      show 1 ≤ h + 1 ∧ 2 * ((h + 1 : Nat) : Int) ≤ e.attempts + 1 + 1 ∧
        e.attempts + 1 ≤ e.maxAttempts
      omega
    · intro hstatus
      cases hstatus
  | ack now tenant hopen =>
    refine ⟨hbudget, ?_, ?_, ?_⟩ <;> intro hstatus <;> cases hstatus
  | nack now tenant deliveryErr hopen hobject =>
    refine ⟨hbudget, ?_, ?_, hexact⟩
    · intro hstatus
      have hleft : ¬ e.maxAttempts ≤ e.attempts + 1 := by
        intro hlast
        simp [Event.nack, hlast] at hstatus
      show 2 * (h : Int) ≤ e.attempts + 1 ∧ e.attempts + 1 < e.maxAttempts
      -- the attempt of the hand-out and the one of the report
      rcases Event.isOpenFor_status hopen with hpending | hprocessing
      · have hwaits := hledger.pending hpending
        omega
      · have hout := hledger.processing hprocessing
        omega
    · intro hstatus
      by_cases hlast : e.maxAttempts ≤ e.attempts + 1 <;> simp [Event.nack, hlast] at hstatus

/-- The event is in the outbox, and its account is right. -/
def Accounted (k : Id) (sys : OutboxSystem) : Prop :=
  ∃ e, sys.store.outbox.get? k = some e ∧ Ledger e (sys.handouts k)

/-- Waiting events have attempts left, and finished ones stay as they are: that needs nothing. -/
theorem withinBudget_iff {op' : OutboxOp} (hget : sys.store.outbox.get? k = some e)
    (hget' : sys'.store.outbox.get? k = some e') (hledger : Ledger e (sys.handouts k))
    (hstep : DeliveryStep k e (sys.handouts k) op' e' (sys'.handouts k)) :
    WithinBudget k sys op sys' ↔
      (e'.status = .failed → (sys'.handouts k : Int) = e'.maxAttempts) := by
  constructor
  · intro h
    exact h.failed e' hget'
  · intro hexact
    have hledger' := hstep.ledger hledger hexact
    refine ⟨?_, ?_, ?_⟩
    · intro e₁ he₁ hfailed
      rw [hget'] at he₁
      cases he₁
      exact hexact hfailed
    · intro e₁ he₁ hpending
      rw [hget'] at he₁
      cases he₁
      exact (hledger'.pending hpending).2
    · intro e₁ he₁ hfinal
      rw [hget] at he₁
      cases he₁
      -- a hand-out and a report need an event that is not finished
      have hnot : ¬ (e.status = .pending ∨ e.status = .processing) := by
        intro hopen
        rcases hfinal with hfinal | hfinal <;> rw [hfinal] at hopen <;> simp at hopen
      generalize hh' : sys'.handouts k = h' at hstep
      cases hstep with
      | same => exact ⟨rfl, e, hget', rfl⟩
      | handOut call hpending => exact absurd (Or.inl hpending) hnot
      | ack now tenant hopen => exact absurd (Event.isOpenFor_status hopen) hnot
      | nack now tenant deliveryErr hopen =>
        exact absurd (Event.isOpenFor_status hopen) hnot

/-- Only a report that uses up the budget can break the account. -/
theorem DeliveryStep.exact_iff {h' : Nat} (hstep : DeliveryStep k e (sys.handouts k) op e' h')
    (hget : sys.store.outbox.get? k = some e) (hledger : Ledger e (sys.handouts k)) :
    (e'.status = .failed → (h' : Int) = e'.maxAttempts) ↔ op.Exact k sys := by
  cases hstep with
  | same op hother =>
    refine iff_of_true hledger.failed ?_
    cases op with
    | nack now tenant eventId deliveryErr =>
      intro hk
      exact absurd (congrArg some hk) hother
    | _ => trivial
  | handOut call => exact iff_of_true nofun trivial
  | ack now tenant hopen => exact iff_of_true nofun trivial
  | nack now tenant deliveryErr hopen hobject =>
    have hstatus := Event.isOpenFor_status hopen
    constructor
    · intro hexact _ e₁ he₁ _ _ hlast
      rw [hget] at he₁
      cases he₁
      exact (hledger.exhausted_iff hstatus hlast).mp (hexact (by simp [Event.nack, hlast]))
    · intro hexact hfailed
      have hlast : e.maxAttempts ≤ e.attempts + 1 := by
        by_contra hleft
        simp [Event.nack, hleft] at hfailed
      exact (hledger.exhausted_iff hstatus hlast).mpr (hexact rfl e hget hopen hobject hlast)

/-- A call that fails says nothing about the event. -/
theorem OutboxOp.exact_of_error {err : Err} (h : op.exec sys = .error err) : op.Exact k sys := by
  cases op with
  | nack now tenant eventId deliveryErr =>
    intro hk e hget hopen hobject
    subst hk
    have hok : OutboxOp.exec (.nack now tenant eventId deliveryErr) sys = .ok _ :=
      congrArg (· >>= _) (nackEvent_ok hget hopen hobject)
    rw [hok] at h
    cases h
  | _ => trivial

/-- For one call, the condition is exact. -/
theorem Accounted.commit_iff (h : Accounted k sys) :
    WithinBudget k sys op (commit OutboxOp.exec sys op) ↔ op.Exact k sys := by
  obtain ⟨e, hget, hledger⟩ := h
  cases hexec : op.exec sys with
  | ok sys' =>
    rw [commit_ok hexec]
    obtain ⟨e', hget', hstep⟩ := OutboxOp.exec_delivery hget hexec
    rw [withinBudget_iff hget hget' hledger hstep]
    exact hstep.exact_iff hget hledger
  | error err =>
    have hsame : commit OutboxOp.exec sys op = sys := by
      unfold commit
      rw [hexec]
    rw [hsame]
    refine iff_of_true ?_ (OutboxOp.exact_of_error hexec)
    -- no call at all does the same to the event
    exact (withinBudget_iff hget hget hledger (.same (.ack 0 none k) nofun)).mpr hledger.failed

def oneEvent (budget : Int) : Store where
  outbox := Table.empty.insert
    { eventType := .taskCompleted, targetService := "case-orchestrator"
      tenantId := defaultTenantId, maxAttempts := budget }

/-- A consumer takes the event and cannot process it. -/
def failedDelivery : List OutboxOp :=
  [.poll { now := 1, service := "case-orchestrator", batchSize := 10 },
    .nack 2 none 0 "connection refused"]

end LoanWorkflow
