import LoanWorkflow.Framework.CheckThenAct
import LoanWorkflow.Integration.DealService

/-! # Replayed ingestions

    Concurrent calls of `IngestDeal` with one idempotency key and the same
    request should be one ingestion: all of them get the same response. The
    cache is read before the transaction, which takes the lock of the deal and
    overwrites the cached response at its end. Two calls that have both missed
    the cache are two ingestions with two responses.

    - `one_response_iff`
-/

namespace LoanWorkflow

open Machine

variable {s s' : DealStore} {d : Delivery} {call : IngestCall} {response : IngestResponse}

/-- Calls of one tenant with the same idempotency key and the same request, none of which looks
    for a cached response after it has expired. -/
structure RepeatedCalls (ι : Type) where
  call : ι → IngestCall
  tenantId : String
  key : String
  request : IngestDealRequest
  call_tenantId : ∀ i, (call i).tenantId = some tenantId
  call_key : ∀ i, (call i).key = key
  key_ne : key ≠ ""
  call_request : ∀ i, (call i).request = request
  /-- Generated ids are unique. -/
  ingestId_injective : Function.Injective fun i => (call i).ingestId
  unexpired : ∀ i j, (call i).lookupAt < (call j).startedAt + 24 * 3600000000000

namespace RepeatedCalls

variable {ι : Type} (lib : DealLibrary) (R : RepeatedCalls ι)

/-- The validation and the transaction of a call. -/
def transact (i : ι) (s : DealStore) : Except ProblemDetail (IngestResponse × DealStore) := do
  let d ← validateRequest lib R.tenantId (R.call i)
  processDelivery lib (R.call i) d s

def service : CheckThenAct.Service ι DealStore IngestResponse ProblemDetail where
  lookup := fun i s => s.cachedResponse? R.tenantId R.key (R.call i).lookupAt
  act := R.transact lib

/-- `IngestDeal` is its two steps, one after the other. -/
theorem ingestDeal_eq (i : ι) (s : DealStore) :
    ingestDeal lib (R.call i) s =
      match (R.service lib).lookup i s with
      | some response => .ok (response, s)
      | none => (R.service lib).act i s := by
  unfold ingestDeal
  rw [R.call_tenantId i]
  dsimp only
  rw [R.call_key i, if_neg R.key_ne]
  rfl

/-! ## The transaction of a repeated call -/

/-- A delivery that has nothing to do: its content is stored, or a newer one. -/
def Settled (d : Delivery) (s : DealStore) : Prop :=
  ∃ row, s.ingestedDeal? d.ingestion.tenantId d.ingestion.deal.dealId = some row ∧
    (row.snapshotHash = d.ingestion.snapshotHash ∨ d.timestamp < row.lastSnapshotTimestamp)

variable {lib R}

/-- A transaction leaves nothing to do for its own delivery. -/
theorem settled_of_processed (h : Processed lib call d s response s') : Settled d s' := by
  have hrow := h.ingestedDeal?
  split at hrow
  · exact ⟨_, hrow, .inl rfl⟩
  · next existing hsome =>
    split at hrow
    · next hhash => exact ⟨_, hrow, .inl hhash⟩
    · split at hrow
      · next hlate => exact ⟨_, hrow, .inr hlate⟩
      · exact ⟨_, hrow, .inl rfl⟩

/-- A delivery that has nothing to do is processed, if the lock is free. -/
theorem processDelivery_of_settled (hsettled : Settled d s) (hlocked : call.locked = true) :
    ∃ response s', processDelivery lib call d s = .ok (response, s') := by
  obtain ⟨row, hrow, hstate⟩ := hsettled
  unfold processDelivery
  rw [if_neg (by simp [hlocked]), hrow]
  dsimp only
  by_cases hhash : row.snapshotHash = d.ingestion.snapshotHash
  · rw [if_pos hhash]
    exact ⟨_, _, rfl⟩
  · rw [if_neg hhash, if_pos (hstate.resolve_left hhash)]
    exact ⟨_, _, rfl⟩

/-- And it leaves the cases alone. -/
theorem toStore_of_settled (hsettled : Settled d s)
    (h : Processed lib call d s response s') : s'.toStore = s.toStore := by
  obtain ⟨row, hrow, hstate⟩ := hsettled
  cases h with
  | first hnone _ =>
    rw [hrow] at hnone
    cases hnone
  | repeated _ _ => exact DealStore.upsertIdempotencyCache_toStore ..
  | late _ _ _ => exact DealStore.upsertIdempotencyCache_toStore ..
  | updated hsome hhash htime _ _ =>
    rw [hrow] at hsome
    cases hsome
    rcases hstate with hsame | hlate
    · exact absurd hsame hhash
    · exact absurd htime (not_le.mpr hlate)

theorem withAction_ingestId (response : IngestResponse) (r : CaseAction) :
    (response.withAction r).ingestId = response.ingestId := by
  unfold IngestResponse.withAction
  split <;> rfl

theorem ingestId_of_processed (h : Processed lib call d s response s') :
    response.ingestId = call.ingestId := by
  cases h with
  | first _ _ => exact withAction_ingestId _ _
  | repeated _ _ => rfl
  | late _ _ _ => rfl
  | updated _ _ _ _ _ => exact withAction_ingestId _ _

/-- The response is cached until it expires. -/
theorem cached_of_processed (h : Processed lib call d s response s') (hkey : call.key ≠ "")
    {now : Instant} (hnow : now < call.startedAt + 24 * 3600000000000) :
    s'.cachedResponse? d.ingestion.tenantId call.key now = some response := by
  cases h with
  | first _ _ => exact DealStore.cachedResponse?_upsertIdempotencyCache _ _ _ _ hkey hnow
  | repeated _ _ => exact DealStore.cachedResponse?_upsertIdempotencyCache _ _ _ _ hkey hnow
  | late _ _ _ => exact DealStore.cachedResponse?_upsertIdempotencyCache _ _ _ _ hkey hnow
  | updated _ _ _ _ _ => exact DealStore.cachedResponse?_upsertIdempotencyCache _ _ _ _ hkey hnow

/-- The delivery of a call, with the clocks of another one. -/
def atClocks (d : Delivery) (call : IngestCall) : Delivery :=
  { d with ingestion := { d.ingestion with startedAt := call.startedAt, now := call.now } }

/-- Validation reads nothing of a call but its request. -/
theorem validateRequest_of_request {tenantId : String} {call' : IngestCall}
    (hrequest : call'.request = call.request) (h : validateRequest lib tenantId call = .ok d) :
    validateRequest lib tenantId call' = .ok (atClocks d call') := by
  unfold validateRequest at h ⊢
  rw [hrequest]
  obtain ⟨timestamp, htime, h⟩ := bind_ok h
  rw [htime]
  show (if _ then _ else _) = _
  dsimp only at h
  split at h
  · cases h
  · next hsource =>
    rw [if_neg hsource]
    split at h
    · cases h
    · next hallowed =>
      split at h
      · cases h
      · next snapshot hsnapshot =>
        split at h
        · cases h
        · next deal hdeal =>
          obtain ⟨u, hfields, h⟩ := bind_ok h
          cases h
          simp [hallowed, hfields, atClocks]

/-! ## Interleavings -/

theorem transact_eq_ok {i : ι} (h : R.transact lib i s = .ok (response, s')) :
    ∃ d, validateRequest lib R.tenantId (R.call i) = .ok d ∧ (R.call i).locked = true ∧
      Processed lib (R.call i) d s response s' := by
  obtain ⟨d, hvalid, h⟩ := bind_ok h
  exact ⟨d, hvalid, processDelivery_cases lib h⟩

/-- After a transaction, the deliveries of all calls have nothing to do. -/
theorem settled_of_transact {i j : ι} (h : R.transact lib i s = .ok (response, s')) :
    ∃ d, validateRequest lib R.tenantId (R.call j) = .ok d ∧ Settled d s' := by
  obtain ⟨d, hvalid, -, hprocessed⟩ := transact_eq_ok h
  have hrequest : (R.call j).request = (R.call i).request := by
    rw [R.call_request i, R.call_request j]
  have hsettled : Settled d s' := settled_of_processed hprocessed
  exact ⟨atClocks d (R.call j), validateRequest_of_request hrequest hvalid, hsettled⟩

/-- The calls obey the laws of a cached service. -/
theorem service_laws (lib : DealLibrary) (R : RepeatedCalls ι) :
    CheckThenAct.Laws (R.service lib) (fun i => (R.call i).locked = true)
      (fun s s' => s'.toStore = s.toStore) where
  fills := by
    intro i s response s' h j
    obtain ⟨d, hvalid, -, hprocessed⟩ := transact_eq_ok h
    have hkey : (R.call i).key ≠ "" := by
      rw [R.call_key i]
      exact R.key_ne
    have hcached := cached_of_processed hprocessed hkey (R.unexpired j i)
    rw [(validateRequest_eq_ok lib hvalid).tenantId_eq, R.call_key i] at hcached
    exact hcached
  differ := by
    intro i j s s' response t t' response' h h' hne heq
    obtain ⟨d, -, -, hprocessed⟩ := transact_eq_ok h
    obtain ⟨d', -, -, hprocessed'⟩ := transact_eq_ok h'
    apply hne
    apply R.ingestId_injective
    show (R.call i).ingestId = (R.call j).ingestId
    rw [← ingestId_of_processed hprocessed, ← ingestId_of_processed hprocessed', heq]
  ready_of_ok := by
    intro i s response s' h
    obtain ⟨d, -, hlocked, -⟩ := transact_eq_ok h
    exact hlocked
  again := by
    intro i j s response s' h hready
    obtain ⟨d, hvalid, hsettled⟩ := settled_of_transact (j := j) h
    have hrun : ∃ response' s'', processDelivery lib (R.call j) d s' = .ok (response', s'') :=
      processDelivery_of_settled hsettled hready
    obtain ⟨response', s'', hok⟩ := hrun
    refine ⟨response', s'', ?_⟩
    show R.transact lib j s' = _
    unfold transact
    rw [hvalid]
    exact hok
  harmless := by
    intro i j s response s' response' s'' h h'
    obtain ⟨d, hvalid, hsettled⟩ := settled_of_transact (j := j) h
    obtain ⟨d', hvalid', -, hprocessed⟩ := transact_eq_ok h'
    rw [hvalid] at hvalid'
    cases hvalid'
    exact toStore_of_settled hsettled hprocessed

variable [DecidableEq ι]

/-- All calls get the same response, and the case actions of at most one of them take effect, if
    and only if no call with a free lock runs its transaction when a response is cached. -/
theorem one_response_iff (lib : DealLibrary) (R : RepeatedCalls ι) {s : DealStore}
    (hunused : ∀ i, s.cachedResponse? R.tenantId R.key (R.call i).lookupAt = none)
    (ops : List (CheckThenAct.Op ι)) :
    Along (CheckThenAct.exec (R.service lib))
        (fun _ _ st => CheckThenAct.Agree st ∧
          CheckThenAct.OneEffect (fun before after => after.toStore = before.toStore) st)
        { store := s } ops ↔
      Guarded (CheckThenAct.exec (R.service lib))
        (CheckThenAct.Unfilled (R.service lib) fun i => (R.call i).locked = true)
        { store := s } ops :=
  CheckThenAct.agree_iff_unfilled (service_laws lib R) hunused ops

def plainCalls : RepeatedCalls (Fin 2) where
  call := fun i =>
    { IngestCall.plain 0 "2024-01-01T00:00:00Z" (plainSnapshot "DOCUMENT_VERIFICATION" "first" []) with
      idempotencyKey := "key", ingestId := ["a", "b"][i] }
  tenantId := "T"
  key := "key"
  request := (IngestCall.plain 0 "2024-01-01T00:00:00Z"
    (plainSnapshot "DOCUMENT_VERIFICATION" "first" [])).request
  call_tenantId := fun _ => rfl
  call_key := by decide +kernel
  key_ne := by decide
  call_request := fun _ => rfl
  ingestId_injective := by decide
  unexpired := by decide

/-- The second call looks for the response after the first one is done. -/
theorem one_response_iff_in_turn :
    Along (CheckThenAct.exec (plainCalls.service .plain))
      (fun _ _ st => CheckThenAct.Agree st ∧
        CheckThenAct.OneEffect (fun before after => after.toStore = before.toStore) st)
      { store := DealStore.plain } [.check 0, .act 0, .check 1] :=
  (one_response_iff .plain plainCalls (fun _ => rfl) _).mpr (by decide +kernel)

/-- Both calls miss the cache: the first one opens the case, and the second one answers that there
    was nothing to do. -/
theorem two_responses :
    (run (CheckThenAct.exec (plainCalls.service .plain)) { store := DealStore.plain }
        [.check 0, .check 1, .act 0, .act 1]).answers.map
          (fun a => (a.1, a.2.ingestId, a.2.outcome, a.2.caseAction)) =
        [(0, "a", .firstIngestion, .created), (1, "b", .idempotentNoOp, .none)] ∧
      ¬ CheckThenAct.Agree (run (CheckThenAct.exec (plainCalls.service .plain))
        { store := DealStore.plain } [.check 0, .check 1, .act 0, .act 1]) := by
  refine ⟨by decide +kernel, ?_⟩
  intro hagree
  have houtcome : ∀ a ∈ (run (CheckThenAct.exec (plainCalls.service .plain))
        { store := DealStore.plain } [.check 0, .check 1, .act 0, .act 1]).answers,
      ∀ b ∈ (run (CheckThenAct.exec (plainCalls.service .plain))
        { store := DealStore.plain } [.check 0, .check 1, .act 0, .act 1]).answers,
      a.2.outcome = b.2.outcome :=
    fun a ha b hb => congrArg _ (hagree a ha b hb)
  exact absurd houtcome (by decide +kernel)

/-- The case actions of at most one call take effect, in every interleaving. -/
theorem one_case_action (lib : DealLibrary) (R : RepeatedCalls ι) (s : DealStore)
    (ops : List (CheckThenAct.Op ι)) :
    Along (CheckThenAct.exec (R.service lib))
      (fun _ _ st =>
        CheckThenAct.OneEffect (fun before after => after.toStore = before.toStore) st)
      { store := s } ops :=
  CheckThenAct.oneEffect (service_laws lib R) s ops

end RepeatedCalls

end LoanWorkflow
