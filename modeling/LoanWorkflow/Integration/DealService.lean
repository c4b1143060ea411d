import LoanWorkflow.Integration.DealCases

/-! # Ingestion of deals

    `IngestDeal` answers a delivered snapshot of a deal. A response that is
    cached under the idempotency key is given again. Otherwise the request is
    validated, and one transaction, alone on its deal, compares the snapshot
    with the stored one, stores it, applies the case action and caches the
    response. The cache is read before that transaction.
-/

namespace LoanWorkflow

/-! ## Requests, responses and rows -/

/-- The correlation id is only written to the history. -/
structure IngestDealRequest where
  snapshot : Option Json
  snapshotTimestamp : String
  sourceSystem : String

/-- `notifyAssignee` is the only entry of its metadata. -/
structure IngestResponse where
  ingestId : String
  dealId : String
  snapshotHash : String
  outcome : DealIngestOutcome
  diff : Option DealDiff := none
  caseId : Option Id := none
  caseAction : DealCaseAction := .none
  processedAt : Instant
  warnings : List String := []
  notifyAssignee : Bool := false
  exceptionDetail : Option IngestExceptionDetail := none

/-- A row of `ingested_deals`, under its tenant and deal. -/
structure IngestedDeal where
  snapshotHash : String
  dealSnapshot : Json
  firstSeenAt : Instant
  lastSeenAt : Instant
  lastSnapshotTimestamp : Instant

/-- A row of `deal_ingest_idempotency_cache`, under its tenant and key. -/
structure CachedResponse where
  response : IngestResponse
  expiresAt : Instant

/-- The database, with the tables of the ingestion. -/
structure DealStore extends Store where
  ingestedDeals : Dict (String × String) IngestedDeal := ∅
  responses : Dict (String × String) CachedResponse := ∅

/-- A call of `IngestDeal`, with all that it reads besides the database. -/
structure IngestCall where
  /-- `TenantFromContext`. -/
  tenantId : Option String
  request : IngestDealRequest
  idempotencyKey : String := ""
  /-- `now()` when the cache is read. -/
  lookupAt : Instant := 0
  /-- `now()` in the transaction. -/
  startedAt : Instant := 0
  /-- Was the advisory lock of the deal free? -/
  locked : Bool := true
  /-- `time.Now()` in the transaction. -/
  now : Instant := 0
  /-- `mustUUID()`. -/
  ingestId : String := ""

def IngestCall.plain (startedAt : Instant) (snapshotTimestamp : String) (snapshot : Json) :
    IngestCall where
  tenantId := some "T"
  request :=
    { snapshot := some snapshot, snapshotTimestamp := snapshotTimestamp
      sourceSystem := "ORIGINATION" }
  startedAt := startedAt

def DealStore.plain : DealStore :=
  { caseTypes := Table.empty.insert
      { code := "DOCUMENT_VERIFICATION", config := { stages := [] } } }

def IngestCall.deal? (lib : DealLibrary) (call : IngestCall) : Option BusinessLendingDeal :=
  call.request.snapshot.bind lib.decodeDeal

/-- The idempotency key without its blanks; an empty one is none. -/
def IngestCall.key (call : IngestCall) : String := trimSpace call.idempotencyKey

/-! ## Validation -/

/-- The problem of a snapshot that is not as it should be. -/
def schemaFailure (detail : String) : ProblemDetail where
  title := "Snapshot Schema Validation Failure"
  status := 422
  detail := detail

def requireText (value : String) (problem : ProblemDetail) : Except ProblemDetail Unit :=
  if trimSpace value = "" then .error problem else .ok ()

def validateBusinessLendingDealRequiredFields (deal : BusinessLendingDeal) :
    Except ProblemDetail Unit := do
  requireText deal.dealId
    { title := "Deal Identifier Missing", status := 422, detail := "snapshot.dealId is required" }
  requireText deal.dealName (schemaFailure "snapshot.dealName is required")
  requireText deal.status (schemaFailure "snapshot.status is required")
  requireText deal.approvedLimit.currency
    (schemaFailure "snapshot.umbrellaLimit.approvedLimit.currency is required")
  deal.borrowingEntities.zipIdx.forM fun (entity, i) => do
    let field := "snapshot.borrowingEntities[" ++ toString i ++ "]"
    requireText entity.borrowingEntityId (schemaFailure (field ++ ".borrowingEntityId is required"))
    entity.facilities.zipIdx.forM fun (facility, j) =>
      requireText facility.facilityId
        (schemaFailure (field ++ ".facilities[" ++ toString j ++ "].facilityId is required"))

/-- `isAllowedSourceSystem`, of an upper-case text without blanks. -/
def isAllowedSourceSystem (sourceSystem : String) : Bool :=
  ["ORIGINATION", "MANUAL_OVERRIDE", "MIGRATION"].contains sourceSystem

/-- A delivered snapshot that has passed validation. -/
structure Delivery where
  ingestion : Ingestion
  timestamp : Instant
  warnings : List String

section service

variable (lib : DealLibrary)

def parseSnapshotTimestamp (raw : String) : Except ProblemDetail Instant :=
  if trimSpace raw = "" then .error (schemaFailure "snapshotTimestamp is required")
  else
    match lib.parseTime (trimSpace raw) with
    | none => .error (schemaFailure "snapshotTimestamp must be a valid ISO 8601 datetime")
    | some (ts, offset) =>
      if offset ≠ 0 then .error (schemaFailure "snapshotTimestamp must be in UTC") else .ok ts

def validateSnapshotWarnings (deal : BusinessLendingDeal) : List String :=
  let approved := deal.approvedLimit.amount
  let totalConsumption := (deal.borrowingEntities.flatMap (·.facilities)).foldl
    (fun total facility => Binary64.round (total + facility.consumptionAmount.amount)) 0
  let trustById := (deal.trustStructures.map (·.trustId)).filter (fun k => trimSpace k != "")
  (if approved < totalConsumption then
    ["umbrella approved limit " ++ lib.formatAmount approved ++
      " is below total facility consumption " ++ lib.formatAmount totalConsumption]
  else []) ++
  deal.borrowingEntities.flatMap fun entity =>
    if lib.toUpper (trimSpace entity.borrowingEntityType) ≠ "TRUST" then []
    else
      (if trustById.contains (trimSpace entity.trustId) then []
      else ["trust borrowingEntity " ++ entity.borrowingEntityId ++ " references unknown trustId " ++
        entity.trustId]) ++
      (if entity.obligors.any (fun o => lib.toUpper (trimSpace o.capacity) == "AS_TRUSTEE") then []
      else ["trust borrowingEntity " ++ entity.borrowingEntityId ++
        " has no obligor with capacity AS_TRUSTEE"])

/-- What `IngestDeal` checks before its transaction. -/
def validateRequest (tenantId : String) (call : IngestCall) : Except ProblemDetail Delivery := do
  let timestamp ← parseSnapshotTimestamp lib call.request.snapshotTimestamp
  let sourceSystem := lib.toUpper (trimSpace call.request.sourceSystem)
  if sourceSystem = "" then throw (schemaFailure "sourceSystem is required")
  if ¬ isAllowedSourceSystem sourceSystem then
    throw (schemaFailure "sourceSystem must be one of ORIGINATION, MANUAL_OVERRIDE, MIGRATION")
  match call.request.snapshot with
  | none => throw (schemaFailure "snapshot is required")
  | some snapshot =>
    match lib.decodeDeal snapshot with
    | none => throw (schemaFailure "snapshot is not valid BusinessLendingDeal JSON")
    | some deal =>
      validateBusinessLendingDealRequiredFields deal
      return {
        ingestion :=
          { tenantId := tenantId, startedAt := call.startedAt, now := call.now, deal := deal
            snapshot := snapshot, snapshotHash := computeSnapshotHash lib snapshot }
        timestamp := timestamp
        warnings := validateSnapshotWarnings lib deal }

end service

/-! ## Tables of the ingestion -/

namespace DealStore

/-- `getIngestedDealRecordForUpdate`. -/
def ingestedDeal? (s : DealStore) (tenantId dealId : String) : Option IngestedDeal :=
  s.ingestedDeals.lookup (tenantId, dealId)

def putIngestedDeal (s : DealStore) (i : Ingestion) (row : IngestedDeal) : DealStore :=
  { s with ingestedDeals := s.ingestedDeals.insert (i.tenantId, i.deal.dealId) row }

/-- `getCachedIdempotentResponse`: the response, until it expires. -/
def cachedResponse? (s : DealStore) (tenantId key : String) (now : Instant) :
    Option IngestResponse :=
  (s.responses.lookup (tenantId, key)).bind fun row =>
    if now < row.expiresAt then some row.response else none

def isCached (s : DealStore) (tenantId : String) (call : IngestCall) : Bool :=
  call.key != "" && (s.cachedResponse? tenantId call.key call.lookupAt).isSome

/-- `upsertIdempotencyCache`, if there is a key. -/
def upsertIdempotencyCache (s : DealStore) (tenantId : String) (call : IngestCall)
    (response : IngestResponse) : DealStore :=
  if call.key = "" then s
  else { s with
    responses := s.responses.insert (tenantId, call.key)
      { response := response, expiresAt := call.startedAt + 24 * 3600000000000 } }

variable (s : DealStore) (i : Ingestion) (row : IngestedDeal) (tenantId : String)
  (call : IngestCall) (response : IngestResponse)

@[simp] theorem upsertIdempotencyCache_toStore :
    (s.upsertIdempotencyCache tenantId call response).toStore = s.toStore := by
  unfold upsertIdempotencyCache
  split <;> rfl

@[simp] theorem upsertIdempotencyCache_ingestedDeals :
    (s.upsertIdempotencyCache tenantId call response).ingestedDeals = s.ingestedDeals := by
  unfold upsertIdempotencyCache
  split <;> rfl

/-- The cached response is there until it expires. -/
theorem cachedResponse?_upsertIdempotencyCache (hkey : call.key ≠ "") {now : Instant}
    (hnow : now < call.startedAt + 24 * 3600000000000) :
    (s.upsertIdempotencyCache tenantId call response).cachedResponse? tenantId call.key now =
      some response := by
  unfold upsertIdempotencyCache cachedResponse?
  rw [if_neg hkey, AList.lookup_insert, Option.bind_some, if_pos hnow]

end DealStore

/-- What a `TIMESTAMPTZ` column holds: microseconds. -/
def timestampColumn (at_ : Instant) : Instant := at_ - at_ % 1000

/-! ## The transaction -/

section transaction

variable (lib : DealLibrary)

/-- The response as it is before the snapshot is compared. -/
def IngestCall.response (call : IngestCall) (d : Delivery) (outcome : DealIngestOutcome) :
    IngestResponse where
  ingestId := call.ingestId
  dealId := d.ingestion.deal.dealId
  snapshotHash := d.ingestion.snapshotHash
  outcome := outcome
  processedAt := call.now
  warnings := d.warnings

/-- The row of a snapshot that is stored now. -/
def Delivery.row (d : Delivery) (firstSeenAt : Instant) : IngestedDeal where
  snapshotHash := d.ingestion.snapshotHash
  dealSnapshot := d.ingestion.snapshot
  firstSeenAt := firstSeenAt
  lastSeenAt := timestampColumn d.ingestion.now
  lastSnapshotTimestamp := timestampColumn d.timestamp

def IngestCall.lateResponse (call : IngestCall) (d : Delivery) : IngestResponse :=
  { call.response d .idempotentNoOp with
    warnings := d.warnings ++
      ["Late delivery rejected: incoming snapshot is older than stored snapshot."] }

def IngestResponse.withAction (response : IngestResponse) (r : CaseAction) : IngestResponse :=
  let response := { response with
    caseAction := r.action
    caseId := r.caseId
    notifyAssignee := r.action == .dealChangeFlagged }
  match r.exceptionDetail with
  | none => response
  | some detail => { response with
      outcome := .exceptionRequiresReview
      exceptionDetail := some detail
      caseAction := .none }

/-- Apply the case action and cache the response. -/
def applyCaseAction (call : IngestCall) (d : Delivery) (response : IngestResponse) (s : DealStore) :
    Except ProblemDetail (IngestResponse × DealStore) := do
  let r ← determineAndApplyCaseAction lib d.ingestion response.outcome response.diff s.toStore
  let response := response.withAction r
  return (response,
    { s with toStore := r.store }.upsertIdempotencyCache d.ingestion.tenantId call response)

/-- The transaction of `IngestDeal`. -/
def processDelivery (call : IngestCall) (d : Delivery) (s : DealStore) :
    Except ProblemDetail (IngestResponse × DealStore) :=
  let i := d.ingestion
  if ¬ call.locked then
    .error { title := "Concurrent Ingestion Conflict", status := 409
             detail := "another ingestion for dealId=" ++ i.deal.dealId ++ " is currently in-flight" }
  else
    match s.ingestedDeal? i.tenantId i.deal.dealId with
    | none =>
      applyCaseAction lib call d (call.response d .firstIngestion)
        (s.putIngestedDeal i (d.row (timestampColumn i.now)))
    | some existing =>
      if existing.snapshotHash = i.snapshotHash then
        -- the same content again: only `last_seen_at` moves
        let response := call.response d .idempotentNoOp
        .ok (response, (s.putIngestedDeal i { existing with
          lastSeenAt := timestampColumn i.now }).upsertIdempotencyCache i.tenantId call response)
      else if d.timestamp < existing.lastSnapshotTimestamp then
        let response := call.lateResponse d
        .ok (response, s.upsertIdempotencyCache i.tenantId call response)
      else do
        let diff ← orProblem "Snapshot Diff Failure"
          (computeDealDiff lib existing.dealSnapshot i.snapshot)
        applyCaseAction lib call d { call.response d .updated with diff := some diff }
          (s.putIngestedDeal i (d.row existing.firstSeenAt))

/-- The response with status 202, or a problem. -/
def ingestDeal (call : IngestCall) (s : DealStore) :
    Except ProblemDetail (IngestResponse × DealStore) :=
  match call.tenantId with
  | none => .error { title := "Tenant Context Missing", status := 400, detail := "tenant not found" }
  | some tenantId =>
    match if call.key = "" then none else s.cachedResponse? tenantId call.key call.lookupAt with
    | some response => .ok (response, s)
    | none => do
      let d ← validateRequest lib tenantId call
      processDelivery lib call d s

/-! ## What a transaction does -/

/-- What the transaction of a delivery can do. -/
inductive Processed (call : IngestCall) (d : Delivery) (s : DealStore) :
    IngestResponse → DealStore → Prop
  | first {r : CaseAction}
      (hnone : s.ingestedDeal? d.ingestion.tenantId d.ingestion.deal.dealId = none)
      (hstep : CaseStep lib d.ingestion .firstIngestion none s.toStore r) :
      Processed call d s ((call.response d .firstIngestion).withAction r)
        ({ s.putIngestedDeal d.ingestion (d.row (timestampColumn d.ingestion.now)) with
          toStore := r.store }.upsertIdempotencyCache d.ingestion.tenantId call
          ((call.response d .firstIngestion).withAction r))
  | repeated {existing : IngestedDeal}
      (hsome : s.ingestedDeal? d.ingestion.tenantId d.ingestion.deal.dealId = some existing)
      (hhash : existing.snapshotHash = d.ingestion.snapshotHash) :
      Processed call d s (call.response d .idempotentNoOp)
        ((s.putIngestedDeal d.ingestion { existing with
          lastSeenAt := timestampColumn d.ingestion.now }).upsertIdempotencyCache
          d.ingestion.tenantId call (call.response d .idempotentNoOp))
  | late {existing : IngestedDeal}
      (hsome : s.ingestedDeal? d.ingestion.tenantId d.ingestion.deal.dealId = some existing)
      (hhash : existing.snapshotHash ≠ d.ingestion.snapshotHash)
      (hlate : d.timestamp < existing.lastSnapshotTimestamp) :
      Processed call d s (call.lateResponse d)
        (s.upsertIdempotencyCache d.ingestion.tenantId call (call.lateResponse d))
  | updated {existing : IngestedDeal} {diff : DealDiff} {r : CaseAction}
      (hsome : s.ingestedDeal? d.ingestion.tenantId d.ingestion.deal.dealId = some existing)
      (hhash : existing.snapshotHash ≠ d.ingestion.snapshotHash)
      (htime : existing.lastSnapshotTimestamp ≤ d.timestamp)
      (hdiff : computeDealDiff lib existing.dealSnapshot d.ingestion.snapshot = .ok diff)
      (hstep : CaseStep lib d.ingestion .updated (some diff) s.toStore r) :
      Processed call d s ({ call.response d .updated with diff := some diff }.withAction r)
        ({ s.putIngestedDeal d.ingestion (d.row existing.firstSeenAt) with
          toStore := r.store }.upsertIdempotencyCache d.ingestion.tenantId call
          ({ call.response d .updated with diff := some diff }.withAction r))

variable {call : IngestCall} {d : Delivery} {s s' : DealStore} {response : IngestResponse}

theorem applyCaseAction_eq_ok {response' : IngestResponse}
    (h : applyCaseAction lib call d response s = .ok (response', s')) :
    ∃ r, CaseStep lib d.ingestion response.outcome response.diff s.toStore r ∧
      response' = response.withAction r ∧
      s' = { s with toStore := r.store }.upsertIdempotencyCache d.ingestion.tenantId call
        (response.withAction r) := by
  obtain ⟨r, haction, h⟩ := bind_ok h
  cases h
  exact ⟨r, determineAndApplyCaseAction_cases lib haction, rfl, rfl⟩

/-- One of these things is what a transaction that commits has done. -/
theorem processDelivery_cases (h : processDelivery lib call d s = .ok (response, s')) :
    call.locked = true ∧ Processed lib call d s response s' := by
  unfold processDelivery at h
  dsimp only at h
  split at h
  · cases h
  · next hlocked =>
    refine ⟨by simpa using hlocked, ?_⟩
    split at h
    · next hnone =>
      obtain ⟨r, hstep, rfl, rfl⟩ := applyCaseAction_eq_ok lib h
      exact .first hnone hstep
    · next existing hsome =>
      split at h
      · next hhash =>
        cases h
        exact .repeated hsome hhash
      · next hhash =>
        split at h
        · next hlate =>
          cases h
          exact .late hsome hhash hlate
        · next htime =>
          obtain ⟨diff, hdiff, h⟩ := bind_ok h
          obtain ⟨r, hstep, rfl, rfl⟩ := applyCaseAction_eq_ok lib h
          exact .updated hsome hhash (not_lt.mp htime) (mapError_eq_ok.mp hdiff) hstep

/-- The row of the deal after the transaction. -/
theorem Processed.ingestedDeal? (h : Processed lib call d s response s') :
    s'.ingestedDeal? d.ingestion.tenantId d.ingestion.deal.dealId =
      match s.ingestedDeal? d.ingestion.tenantId d.ingestion.deal.dealId with
      | none => some (d.row (timestampColumn d.ingestion.now))
      | some existing =>
        if existing.snapshotHash = d.ingestion.snapshotHash then
          some { existing with lastSeenAt := timestampColumn d.ingestion.now }
        else if d.timestamp < existing.lastSnapshotTimestamp then some existing
        else some (d.row existing.firstSeenAt) := by
  cases h with
  | first hnone _ =>
    rw [hnone, DealStore.ingestedDeal?, DealStore.upsertIdempotencyCache_ingestedDeals]
    exact AList.lookup_insert _
  | repeated hsome hhash =>
    rw [hsome, DealStore.ingestedDeal?, DealStore.upsertIdempotencyCache_ingestedDeals]
    dsimp only
    rw [if_pos hhash]
    exact AList.lookup_insert _
  | late hsome hhash hlate =>
    rw [hsome, DealStore.ingestedDeal?, DealStore.upsertIdempotencyCache_ingestedDeals]
    dsimp only
    rw [if_neg hhash, if_pos hlate]
    exact hsome
  | updated hsome hhash htime _ _ =>
    rw [hsome, DealStore.ingestedDeal?, DealStore.upsertIdempotencyCache_ingestedDeals]
    dsimp only
    rw [if_neg hhash, if_neg (not_lt.mpr htime)]
    exact AList.lookup_insert _

/-- A delivery is the request that it was read from. -/
structure Delivery.ReadFrom (d : Delivery) (tenantId : String) (call : IngestCall) : Prop where
  tenantId_eq : d.ingestion.tenantId = tenantId
  snapshot : call.request.snapshot = some d.ingestion.snapshot
  deal : lib.decodeDeal d.ingestion.snapshot = some d.ingestion.deal
  hash : d.ingestion.snapshotHash = computeSnapshotHash lib d.ingestion.snapshot
  timestamp : parseSnapshotTimestamp lib call.request.snapshotTimestamp = .ok d.timestamp
  startedAt : d.ingestion.startedAt = call.startedAt
  now : d.ingestion.now = call.now

theorem validateRequest_eq_ok {tenantId : String}
    (h : validateRequest lib tenantId call = .ok d) : d.ReadFrom lib tenantId call := by
  obtain ⟨timestamp, htime, h⟩ := bind_ok h
  dsimp only at h
  split at h
  · cases h
  · split at h
    · cases h
    · split at h
      · cases h
      · next snapshot hsnapshot =>
        split at h
        · cases h
        · next deal hdeal =>
          obtain ⟨_, -, h⟩ := bind_ok h
          cases h
          exact ⟨rfl, hsnapshot, hdeal, rfl, htime, rfl, rfl⟩

/-- The answer from the cache, or a transaction. -/
theorem ingestDeal_cases (h : ingestDeal lib call s = .ok (response, s')) :
    ∃ tenantId, call.tenantId = some tenantId ∧
      ((s.isCached tenantId call = true ∧ s' = s) ∨
        (s.isCached tenantId call = false ∧
          ∃ d, d.ReadFrom lib tenantId call ∧ Processed lib call d s response s')) := by
  unfold ingestDeal at h
  split at h
  · cases h
  · next tenantId htenant =>
    refine ⟨tenantId, htenant, ?_⟩
    by_cases hkey : call.key = ""
    · rw [if_pos hkey] at h
      obtain ⟨d, hvalid, h⟩ := bind_ok h
      exact .inr ⟨by simp [DealStore.isCached, hkey], d, validateRequest_eq_ok lib hvalid,
        (processDelivery_cases lib h).2⟩
    · rw [if_neg hkey] at h
      split at h
      · next cached hcached =>
        cases h
        exact .inl ⟨by simp [DealStore.isCached, hkey, hcached], rfl⟩
      · next hmissed =>
        obtain ⟨d, hvalid, h⟩ := bind_ok h
        exact .inr ⟨by simp [DealStore.isCached, hmissed], d, validateRequest_eq_ok lib hvalid,
          (processDelivery_cases lib h).2⟩

end transaction

end LoanWorkflow
