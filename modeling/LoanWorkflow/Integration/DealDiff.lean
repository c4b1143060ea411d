import LoanWorkflow.Integration.Deal

/-! # Differences of two snapshots

    What has changed between the stored snapshot of a deal and the one that
    comes in: status, limit, facilities, parties and collaterals, and whether
    the change is material. Snapshots are compared as documents by the hash of
    their canonical form.
-/

namespace LoanWorkflow

/-! ## Canonical documents -/

/-- Put a field at its place in the order of keys; a field of the same key that comes later has
    won. -/
def insertField (key text : String) : List (String × String) → List (String × String)
  | [] => [(key, text)]
  | (k, t) :: rest =>
    if key = k then (k, t) :: rest
    else if key < k then (key, text) :: (k, t) :: rest
    else (k, t) :: insertField key text rest

mutual

/-- The fields of objects in the order of their keys. -/
def canonicalizeJSON (marshal : Json → String) : Json → String
  | .obj fields =>
    "\x7b" ++ ",".intercalate ((canonicalFields marshal fields).map
      (fun f => marshal (.str f.1) ++ ":" ++ f.2)) ++ "\x7d"
  | .arr xs => "[" ++ ",".intercalate (canonicalItems marshal xs) ++ "]"
  | j => marshal j

def canonicalFields (marshal : Json → String) : List (String × Json) → List (String × String)
  | [] => []
  | f :: rest => insertField f.1 (canonicalizeJSON marshal f.2) (canonicalFields marshal rest)

def canonicalItems (marshal : Json → String) : List Json → List String
  | [] => []
  | x :: xs => canonicalizeJSON marshal x :: canonicalItems marshal xs

end

section diff

variable (lib : DealLibrary)

/-- The content of a document, whatever the order of its fields. -/
def DealLibrary.content (snapshot : Json) : String := canonicalizeJSON lib.marshal snapshot

def computeSnapshotHash (snapshot : Json) : String := lib.sha256 (lib.content snapshot)

theorem computeSnapshotHash_eq_iff {a b : Json} :
    computeSnapshotHash lib a = computeSnapshotHash lib b ↔ lib.content a = lib.content b :=
  lib.sha256_injective.eq_iff

/-! ## Comparisons -/

def moneyEqual (a b : Money) : Bool :=
  trimSpace (lib.toUpper a.currency) == trimSpace (lib.toUpper b.currency) &&
    lib.formatAmount a.amount == lib.formatAmount b.amount

def jsonEqual (a b : Option Json) : Bool :=
  match a, b with
  | none, none => true
  | some a, some b =>
    canonicalizeJSON lib.marshalFloat a == canonicalizeJSON lib.marshalFloat b
  | _, _ => false

def legalPartyEquivalent (a b : LegalParty) : Bool :=
  let acn (p : LegalParty) := trimSpace ((p.regulatory.map (·.acn)).getD "")
  lib.equalFold (trimSpace a.partyType) (trimSpace b.partyType) &&
    trimSpace a.legalName == trimSpace b.legalName && acn a == acn b &&
    match a.name, b.name with
    | none, none => true
    | some x, some y =>
      trimSpace x.givenName == trimSpace y.givenName &&
        trimSpace x.familyName == trimSpace y.familyName
    | _, _ => false

inductive FacilityChange where
  | limitChange
  | pricingChange
  | termChange
  | statusChange
deriving DecidableEq, Repr

structure FacilityModification where
  facilityId : String
  changeTypes : List FacilityChange

def facilityChanges (prev current : Facility) : List FacilityChange :=
  (if moneyEqual lib prev.facilityLimit current.facilityLimit then [] else [.limitChange]) ++
  (if jsonEqual lib prev.pricing current.pricing then [] else [.pricingChange]) ++
  (if jsonEqual lib prev.term current.term then [] else [.termChange]) ++
  (if lib.equalFold (trimSpace prev.status) (trimSpace current.status) then []
    else [.statusChange])

/-- `sort.Strings`. -/
def sortStrings (xs : List String) : List String := xs.insertionSort (fun a b => ¬ b < a)

/-- Added, removed and modified. -/
def compareFacilities (previous next : Dict String Facility) :
    List String × List String × List FacilityModification :=
  let modified := (Dict.inBoth previous next).filterMap fun r =>
    let changes := facilityChanges lib r.2.1 r.2.2
    if changes.isEmpty then none
    else some { facilityId := r.1, changeTypes := changes : FacilityModification }
  (sortStrings (next.keys.filter (fun k => decide (k ∉ previous))),
    sortStrings (previous.keys.filter (fun k => decide (k ∉ next))),
    modified.insertionSort (fun a b => ¬ b.facilityId < a.facilityId))

def partiesById (parties : List LegalParty) : Dict String LegalParty :=
  Dict.indexBy (·.partyId) (parties.filter (fun p => trimSpace p.partyId != ""))

/-- Added and modified. -/
def compareParties (previous next : List LegalParty) : List String × List String :=
  let prevMap := partiesById previous
  let nextMap := partiesById next
  (sortStrings (nextMap.keys.filter (fun k => decide (k ∉ prevMap))),
    sortStrings (((Dict.inBoth prevMap nextMap).filter
      (fun r => !legalPartyEquivalent lib r.2.1 r.2.2)).map (·.1)))

def collateralIds (collaterals : List Collateral) : List String :=
  ((collaterals.map (·.collateralId)).filter (fun k => trimSpace k != "")).dedup

/-- Added and removed. -/
def compareCollaterals (previous next : List Collateral) : List String × List String :=
  let prevSet := collateralIds previous
  let nextSet := collateralIds next
  (sortStrings (nextSet.filter (fun k => !prevSet.contains k)),
    sortStrings (prevSet.filter (fun k => !nextSet.contains k)))

structure DealDiff where
  statusChanged : Bool
  previousStatus : String
  newStatus : String
  umbrellaLimitChanged : Bool
  previousApprovedLimit : Money
  newApprovedLimit : Money
  facilitiesAdded : List String
  facilitiesRemoved : List String
  facilitiesModified : List FacilityModification
  partiesAdded : List String
  partiesModified : List String
  securityChanged : Bool
  collateralsAdded : List String
  collateralsRemoved : List String
  isMaterial : Bool := false

/-- Not every change counts. -/
def determineMateriality (diff : DealDiff) : Bool :=
  diff.statusChanged || diff.umbrellaLimitChanged || !diff.facilitiesAdded.isEmpty ||
    !diff.facilitiesRemoved.isEmpty ||
    diff.facilitiesModified.any (fun f => f.changeTypes.any fun change =>
      change == .limitChange || change == .pricingChange || change == .termChange) ||
    !diff.partiesAdded.isEmpty ||
    diff.securityChanged && (!diff.collateralsAdded.isEmpty || !diff.collateralsRemoved.isEmpty)

def dealDiff (previousDeal newDeal : BusinessLendingDeal) : DealDiff :=
  let facilities := compareFacilities lib (flattenFacilities previousDeal)
    (flattenFacilities newDeal)
  let parties := compareParties lib previousDeal.legalParties newDeal.legalParties
  let collaterals := compareCollaterals previousDeal.collaterals newDeal.collaterals
  let diff : DealDiff :=
    { statusChanged := !lib.equalFold (trimSpace previousDeal.status) (trimSpace newDeal.status)
      previousStatus := previousDeal.status
      newStatus := newDeal.status
      umbrellaLimitChanged := !moneyEqual lib previousDeal.approvedLimit newDeal.approvedLimit
      previousApprovedLimit := previousDeal.approvedLimit
      newApprovedLimit := newDeal.approvedLimit
      facilitiesAdded := facilities.1
      facilitiesRemoved := facilities.2.1
      facilitiesModified := facilities.2.2
      partiesAdded := parties.1
      partiesModified := parties.2
      securityChanged := !collaterals.1.isEmpty || !collaterals.2.isEmpty
      collateralsAdded := collaterals.1
      collateralsRemoved := collaterals.2 }
  { diff with isMaterial := determineMateriality diff }

def computeDealDiff (previousSnapshot newSnapshot : Json) : Except Err DealDiff := do
  let previousDeal ← orFail (lib.decodeDeal previousSnapshot)
    "decode previous snapshot: json: cannot unmarshal"
  let newDeal ← orFail (lib.decodeDeal newSnapshot) "decode new snapshot: json: cannot unmarshal"
  return dealDiff lib previousDeal newDeal

end diff

end LoanWorkflow
