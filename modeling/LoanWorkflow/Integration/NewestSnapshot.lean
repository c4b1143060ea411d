import LoanWorkflow.Framework.Machine
import LoanWorkflow.Framework.NewestWins
import LoanWorkflow.Integration.DealService

/-! # The stored snapshot of a deal

    The requests for a deal have snapshot timestamps, and the newest snapshot
    should be the stored one, in whatever order and however often the requests
    are delivered. The stored timestamp decides whether a delivery is late. It
    is not advanced by a delivery with the stored content, so a snapshot in
    between can still replace that content.
-/

namespace LoanWorkflow

open Machine

/-- Requests for one deal, with pairwise distinct snapshot timestamps. -/
structure DealRequests (lib : DealLibrary) (dealId : String) (ι : Type) where
  request : ι → IngestDealRequest
  snapshot : ι → Json
  timestamp : ι → Instant
  request_snapshot : ∀ i, (request i).snapshot = some (snapshot i)
  request_timestamp : ∀ i,
    parseSnapshotTimestamp lib (request i).snapshotTimestamp = .ok (timestamp i)
  dealId_eq : ∀ i deal, lib.decodeDeal (snapshot i) = some deal → deal.dealId = dealId
  timestamp_injective : Function.Injective timestamp

namespace DealRequests

variable {lib : DealLibrary} {dealId : String} {ι : Type} (R : DealRequests lib dealId ι)
variable (tenantId : String)

def content (i : ι) : String := lib.content (R.snapshot i)

/-- A delivery of a request: everything else of the call is arbitrary. -/
def call (op : ι × IngestCall) : IngestCall :=
  { op.2 with tenantId := some tenantId, request := R.request op.1 }

/-- Deliver a request; those that were processed so far are kept along. -/
def deliver (op : ι × IngestCall) (s : DealStore × List ι) :
    Except ProblemDetail (DealStore × List ι) := do
  let (_, store) ← ingestDeal lib (R.call tenantId op) s.1
  return (store, s.2 ++ [op.1])

def stored (lib : DealLibrary) (tenantId dealId : String) (s : DealStore) : Option String :=
  (s.ingestedDeal? tenantId dealId).map fun row => lib.content row.dealSnapshot

/-- The stored snapshot has the content of the newest request that was delivered. -/
def StoresNewest (s : DealStore × List ι) : Prop :=
  ∃ text ∈ stored lib tenantId dealId s.1, NewestWins.Holds R.timestamp R.content text s.2

instance StoresNewest.decidable (s : DealStore × List ι) :
    Decidable (R.StoresNewest tenantId s) :=
  match h : stored lib tenantId dealId s.1 with
  | none => isFalse fun ⟨text, htext, _⟩ => by rw [h] at htext; cases htext
  | some text =>
    decidable_of_iff (NewestWins.Holds R.timestamp R.content text s.2)
      (by unfold StoresNewest; rw [h]; simp)

/-- A delivery brings the stored content, or it is accepted exactly if it is newer than all
    before it; the first one is not answered from the cache. -/
def InOrder (s : DealStore × List ι) (op : ι × IngestCall) : Prop :=
  match s.1.ingestedDeal? tenantId dealId with
  | none => s.1.isCached tenantId (R.call tenantId op) = false
  | some row =>
    R.content op.1 = lib.content row.dealSnapshot ∨
      ((s.1.isCached tenantId (R.call tenantId op) = false ∧
          row.lastSnapshotTimestamp ≤ R.timestamp op.1) ↔
        NewestWins.Newer R.timestamp s.2 op.1)

instance InOrder.decidable (s : DealStore × List ι) (op : ι × IngestCall) :
    Decidable (R.InOrder tenantId s op) :=
  match h : s.1.ingestedDeal? tenantId dealId with
  | none =>
    decidable_of_iff (s.1.isCached tenantId (R.call tenantId op) = false)
      (by unfold InOrder; rw [h])
  | some row =>
    decidable_of_iff (R.content op.1 = lib.content row.dealSnapshot ∨
        ((s.1.isCached tenantId (R.call tenantId op) = false ∧
            row.lastSnapshotTimestamp ≤ R.timestamp op.1) ↔
          NewestWins.Newer R.timestamp s.2 op.1))
      (by unfold InOrder; rw [h])

/-! ## One delivery -/

variable {R tenantId} {op : ι × IngestCall} {s s' : DealStore × List ι}

/-- A delivery that is processed is answered from the cache, or the transaction of its own
    snapshot commits. -/
theorem deliver_cases (h : R.deliver tenantId op s = .ok s') :
    s'.2 = s.2 ++ [op.1] ∧
      ((s.1.isCached tenantId (R.call tenantId op) = true ∧ s'.1 = s.1) ∨
        (s.1.isCached tenantId (R.call tenantId op) = false ∧
          ∃ d response, d.ingestion.tenantId = tenantId ∧ d.ingestion.deal.dealId = dealId ∧
            d.ingestion.snapshot = R.snapshot op.1 ∧
            d.ingestion.snapshotHash = computeSnapshotHash lib (R.snapshot op.1) ∧
            d.timestamp = R.timestamp op.1 ∧
            Processed lib (R.call tenantId op) d s.1 response s'.1)) := by
  obtain ⟨⟨response, store⟩, hingest, h⟩ := bind_ok h
  cases h
  refine ⟨rfl, ?_⟩
  obtain ⟨t, htenant, ⟨hcached, hsame⟩ | ⟨hmissed, d, hread, hprocessed⟩⟩ :=
    ingestDeal_cases lib hingest
  · cases htenant
    exact .inl ⟨hcached, hsame⟩
  · cases htenant
    have hsnapshot : d.ingestion.snapshot = R.snapshot op.1 :=
      Option.some.inj (hread.snapshot.symm.trans (R.request_snapshot op.1))
    have htime : d.timestamp = R.timestamp op.1 :=
      Except.ok.inj (hread.timestamp.symm.trans (R.request_timestamp op.1))
    have hdeal : d.ingestion.deal.dealId = dealId :=
      R.dealId_eq op.1 _ (by rw [← hsnapshot]; exact hread.deal)
    exact .inr ⟨hmissed, d, response, hread.tenantId_eq, hdeal, hsnapshot,
      by rw [hread.hash, hsnapshot], htime, hprocessed⟩

/-- The stored hash is the hash of the stored snapshot. -/
def Hashed (lib : DealLibrary) (tenantId dealId : String) (s : DealStore) : Prop :=
  ∀ row, s.ingestedDeal? tenantId dealId = some row →
    row.snapshotHash = computeSnapshotHash lib row.dealSnapshot

variable (h : R.deliver tenantId op s = .ok s')

include h

theorem Hashed.deliver (hhash : Hashed lib tenantId dealId s.1) :
    Hashed lib tenantId dealId s'.1 := by
  obtain ⟨-, ⟨-, hsame⟩ | ⟨-, d, response, rfl, rfl, hsnapshot, hdhash, -, hprocessed⟩⟩ :=
    deliver_cases h
  · rw [hsame]
    exact hhash
  · intro row hrow
    rw [hprocessed.ingestedDeal?] at hrow
    have hown : ∀ firstSeenAt, (d.row firstSeenAt).snapshotHash =
        computeSnapshotHash lib (d.row firstSeenAt).dealSnapshot := by
      intro firstSeenAt
      show d.ingestion.snapshotHash = computeSnapshotHash lib d.ingestion.snapshot
      rw [hdhash, hsnapshot]
    split at hrow
    · cases hrow
      exact hown _
    · next existing hsome =>
      have hold := hhash existing hsome
      split at hrow
      · cases hrow
        exact hold
      · split at hrow
        · cases hrow
          exact hold
        · cases hrow
          exact hown _

theorem stored_deliver_first (hnone : s.1.ingestedDeal? tenantId dealId = none)
    :
    stored lib tenantId dealId s'.1 =
      if s.1.isCached tenantId (R.call tenantId op) then none else some (R.content op.1) := by
  obtain ⟨-, ⟨hcached, hsame⟩ | ⟨hcached, d, response, rfl, rfl, hsnapshot, -, -, hprocessed⟩⟩ :=
    deliver_cases h
  · rw [hcached, hsame, stored, hnone]
    rfl
  · rw [hcached, stored, hprocessed.ingestedDeal?, hnone]
    show some (lib.content d.ingestion.snapshot) = some (R.content op.1)
    rw [hsnapshot]
    rfl

/-- A later delivery replaces the content if its timestamp is not before the stored one. -/
theorem stored_deliver_next {row : IngestedDeal} (hhash : Hashed lib tenantId dealId s.1)
    (hsome : s.1.ingestedDeal? tenantId dealId = some row) :
    stored lib tenantId dealId s'.1 =
      some (if s.1.isCached tenantId (R.call tenantId op) = false ∧
          row.lastSnapshotTimestamp ≤ R.timestamp op.1
        then R.content op.1 else lib.content row.dealSnapshot) := by
  obtain ⟨-, ⟨hcached, hsame⟩ |
    ⟨hcached, d, response, rfl, rfl, hsnapshot, hdhash, htime, hprocessed⟩⟩ := deliver_cases h
  · rw [hcached, hsame, stored, hsome, if_neg (by simp)]
    rfl
  · rw [stored, hprocessed.ingestedDeal?, hsome]
    dsimp only
    by_cases hequal : row.snapshotHash = d.ingestion.snapshotHash
    · -- the stored content is the content of the delivery, so it does not matter which it is
      have hcontent : lib.content row.dealSnapshot = R.content op.1 := by
        rw [hhash row hsome, hdhash] at hequal
        exact (computeSnapshotHash_eq_iff lib).mp hequal
      rw [if_pos hequal, hcontent, ite_self, ← hcontent]
      rfl
    · rw [if_neg hequal]
      by_cases hlate : d.timestamp < row.lastSnapshotTimestamp
      · rw [if_pos hlate, if_neg (by rw [← htime]; exact fun hle => absurd hlate (not_lt.mpr hle.2))]
        rfl
      · rw [if_neg hlate, if_pos ⟨hcached, by rw [← htime]; exact not_lt.mp hlate⟩]
        show some (lib.content d.ingestion.snapshot) = some (R.content op.1)
        rw [hsnapshot]
        rfl

/-! ## Sequences of deliveries -/

omit h

/-- Either nothing was delivered, or the newest snapshot is stored. -/
def Settled (R : DealRequests lib dealId ι) (tenantId : String) (s : DealStore × List ι) : Prop :=
  Hashed lib tenantId dealId s.1 ∧
    ((s.1.ingestedDeal? tenantId dealId = none ∧ s.2 = []) ∨ R.StoresNewest tenantId s)

/-- A delivery that is in order, and no other, leaves the newest snapshot stored. -/
theorem storesNewest_deliver_iff (hsettled : R.Settled tenantId s)
    (h : R.deliver tenantId op s = .ok s') :
    R.StoresNewest tenantId s' ↔ R.InOrder tenantId s op := by
  obtain ⟨hhash, hstate⟩ := hsettled
  have hdelivered : s'.2 = s.2 ++ [op.1] := (deliver_cases h).1
  unfold StoresNewest InOrder
  cases hrow : s.1.ingestedDeal? tenantId dealId with
  | none =>
    have hempty : s.2 = [] := by
      rcases hstate with ⟨-, hempty⟩ | ⟨text, htext, -⟩
      · exact hempty
      · rw [stored, hrow] at htext
        cases htext
    rw [stored_deliver_first h hrow, hdelivered, hempty]
    cases s.1.isCached tenantId (R.call tenantId op) with
    | true => simp
    | false =>
      refine iff_of_true ⟨R.content op.1, rfl, ?_⟩ rfl
      exact NewestWins.holds_singleton op.1
  | some row =>
    have hholds : NewestWins.Holds R.timestamp R.content (lib.content row.dealSnapshot) s.2 := by
      rcases hstate with ⟨hnone, -⟩ | ⟨text, htext, hholds⟩
      · rw [hrow] at hnone
        cases hnone
      · rw [stored, hrow] at htext
        cases htext
        exact hholds
    rw [stored_deliver_next h hhash hrow, hdelivered]
    simp only [Option.mem_def, Option.some.injEq, exists_eq_left']
    exact NewestWins.holds_step_iff R.timestamp_injective hholds _

/-- The newest snapshot is stored after every delivery, if and only if every delivery is in
    order. -/
theorem storesNewest_iff {store : DealStore} (hnew : store.ingestedDeal? tenantId dealId = none)
    {deliveries : List (ι × IngestCall)}
    (hprocessed : Succeeds (R.deliver tenantId) (store, []) deliveries) :
    Along (R.deliver tenantId) (fun _ _ s => R.StoresNewest tenantId s) (store, [])
        deliveries ↔
      Guarded (R.deliver tenantId) (R.InOrder tenantId) (store, []) deliveries := by
  apply along_iff_guarded_of_succeeds (I := R.Settled tenantId) _ _ _ hprocessed
  · intro s op s' hsettled hok
    exact storesNewest_deliver_iff hsettled hok
  · intro s op s' hsettled hguard hok
    exact ⟨hsettled.1.deliver hok, .inr ((storesNewest_deliver_iff hsettled hok).mpr hguard)⟩
  · refine ⟨?_, .inl ⟨hnew, rfl⟩⟩
    intro row hrow
    rw [hnew] at hrow
    cases hrow

/-- Three requests: the first and the third day have the same content, the second day another. -/
def plainRequests : DealRequests DealLibrary.plain "D-1" (Fin 3) where
  request := fun i =>
    { snapshot := some (plainSnapshot "APPROVED" (["before", "between", "before"][i]) [])
      snapshotTimestamp :=
        ["2024-01-01T00:00:00Z", "2024-01-02T00:00:00Z", "2024-01-03T00:00:00Z"][i]
      sourceSystem := "ORIGINATION" }
  snapshot := fun i => plainSnapshot "APPROVED" (["before", "between", "before"][i]) []
  timestamp := fun i => [1704067200000000000, 1704153600000000000, 1704240000000000000][i]
  request_snapshot := fun _ => rfl
  request_timestamp := by decide +kernel
  dealId_eq := by
    intro i deal h
    cases h
    rfl
  timestamp_injective := by decide

/-- A delivery of a request, without an idempotency key. -/
def plainDelivery (i : Fin 3) : Fin 3 × IngestCall :=
  (i, { tenantId := none, request := plainRequests.request i })

/-- Deliveries in order, one of them twice. -/
theorem storesNewest_iff_repeated :
    Along (plainRequests.deliver "T") (fun _ _ s => plainRequests.StoresNewest "T" s)
      ({}, []) [plainDelivery 0, plainDelivery 1, plainDelivery 0, plainDelivery 2] :=
  (storesNewest_iff rfl (by decide +kernel)).mpr (by decide +kernel)

/-- The third day repeats the content of the first one, and then the second day arrives: it is
    stored, although it is older. -/
theorem older_snapshot_stored : Succeeds (plainRequests.deliver "T") ({}, [])
        [plainDelivery 0, plainDelivery 2, plainDelivery 1] ∧
      ¬ plainRequests.StoresNewest "T" (run (plainRequests.deliver "T") ({}, [])
        [plainDelivery 0, plainDelivery 2, plainDelivery 1]) := by
  decide +kernel

end DealRequests

end LoanWorkflow
