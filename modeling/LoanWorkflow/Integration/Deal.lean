import LoanWorkflow.Framework.Dict
import LoanWorkflow.Model.Context

/-! # Deals and their verification tasks

    A snapshot of a business lending deal, as the upstream system sends it,
    and the checklist that is generated from it: for every party, trust,
    facility, asset and guarantee its own tasks, and three tasks for the deal
    itself. A task is identified by its type and the entity it is about.

    - `Checklist`: what adding tasks one by one keeps
-/

namespace LoanWorkflow

open List

/-! ## Snapshots -/

structure Money where
  amount : ℚ := 0
  currency : String := ""

structure IndividualName where
  givenName : String := ""
  familyName : String := ""

structure PartyRegulatory where
  acn : String := ""

structure LegalParty where
  partyId : String := ""
  partyType : String := ""
  legalName : String := ""
  name : Option IndividualName := none
  regulatory : Option PartyRegulatory := none

structure Trustee where
  partyId : String := ""
  capacityStatement : String := ""

structure TrustStructure where
  trustId : String := ""
  trustName : String := ""
  trustDeedDate : String := ""
  trustees : List Trustee := []

structure BorrowingObligor where
  partyId : String := ""
  capacity : String := ""

structure GuaranteeParty where
  partyId : String := ""
  name : String := ""

structure Guarantee where
  guaranteeType : String := ""
  guarantor : GuaranteeParty := {}
  scope : String := ""
  limitAmount : Option Money := none

/-- A facility; a missing document is `none`. -/
structure Facility where
  facilityId : String := ""
  product : String := ""
  status : String := ""
  purpose : String := ""
  facilityLimit : Money := {}
  consumptionAmount : Money := {}
  pricing : Option Json := none
  term : Option Json := none
  guarantees : List Guarantee := []

structure BorrowingEntity where
  borrowingEntityId : String := ""
  borrowingEntityType : String := ""
  trustId : String := ""
  displayName : String := ""
  obligors : List BorrowingObligor := []
  facilities : List Facility := []

structure AssetAddress where
  line1 : String := ""
  suburb : String := ""
  state : String := ""

structure Asset where
  assetId : String := ""
  assetType : String := ""
  address : Option AssetAddress := none
  titleReference : String := ""
  ppsrRegistrationNumber : String := ""

structure Collateral where
  collateralId : String := ""
  assets : List Asset := []

/-- `BusinessLendingDeal`, with the collaterals of its security. -/
structure BusinessLendingDeal where
  dealId : String := ""
  dealName : String := ""
  status : String := ""
  customerReference : String := ""
  approvedLimit : Money := {}
  legalParties : List LegalParty := []
  trustStructures : List TrustStructure := []
  borrowingEntities : List BorrowingEntity := []
  collaterals : List Collateral := []

/-! ## Library functions -/

/-- The library functions that the ingestion of deals calls. -/
structure DealLibrary extends Library where
  /-- `json.Unmarshal` into `BusinessLendingDeal`. -/
  decodeDeal : Json → Option BusinessLendingDeal
  /-- `json.Marshal` of a string, a number as it is written, a boolean or null. -/
  marshal : Json → String
  /-- The same for a number that was read as a `float64`. -/
  marshalFloat : Json → String
  /-- `sha256.Sum256`, in hexadecimal digits. -/
  sha256 : String → String
  /-- No two documents with the same hash are known. -/
  sha256_injective : Function.Injective sha256
  /-- `strings.EqualFold`. -/
  equalFold : String → String → Bool
  /-- `fmt.Sprintf("%.2f", x)`. -/
  formatAmount : ℚ → String
  /-- `time.Parse` in the layout `time.RFC3339`, with the offset of the zone. -/
  parseTime : String → Option (Instant × Int)
  /-- A date in the layout `2006-01-02`. -/
  formatDate : Instant → String

/-- The elements of a field; a missing one has none. -/
def Json.elements (j : Json) (name : String) : List Json :=
  match j.field? name with
  | some (.arr xs) => xs
  | _ => []

/-- A decoder for deals with parties and trusts. -/
def plainDecodeDeal : Json → Option BusinessLendingDeal
  | .obj fields =>
    let j : Json := .obj fields
    let limit := ((j.field? "umbrellaLimit").bind (·.field? "approvedLimit")).getD .null
    some {
      dealId := j.strField "dealId"
      dealName := j.strField "dealName"
      status := j.strField "status"
      customerReference := j.strField "customerReference"
      approvedLimit :=
        { amount := match limit.field? "amount" with
            | some (.num q) => q
            | _ => 0
          currency := limit.strField "currency" }
      legalParties := (j.elements "legalParties").map fun p =>
        { partyId := p.strField "partyId", partyType := p.strField "partyType"
          legalName := p.strField "legalName" }
      trustStructures := (j.elements "trustStructures").map fun t =>
        { trustId := t.strField "trustId", trustName := t.strField "trustName"
          trustDeedDate := t.strField "trustDeedDate" } }
  | _ => none

def plainMarshal : Json → String
  | .str s => "\"" ++ s ++ "\""
  | .num q => toString q.num ++ "/" ++ toString q.den
  | .bool b => if b then "true" else "false"
  | _ => "null"

/-- A library for deals with parties and trusts, in which a text is its own hash, and with
    three days to parse. -/
def DealLibrary.plain : DealLibrary where
  toLibrary := Library.plain
  decodeDeal := plainDecodeDeal
  marshal := plainMarshal
  marshalFloat := plainMarshal
  sha256 := id
  sha256_injective := Function.injective_id
  equalFold := fun a b => a == b
  formatAmount := fun q => toString q.num ++ "/" ++ toString q.den
  parseTime := fun raw =>
    if raw = "2024-01-01T00:00:00Z" then some (1704067200000000000, 0)
    else if raw = "2024-01-02T00:00:00Z" then some (1704153600000000000, 0)
    else if raw = "2024-01-03T00:00:00Z" then some (1704240000000000000, 0)
    else none
  formatDate := fun at_ => toString at_

/-- A snapshot of a deal with a status, a name and some trusts. -/
def plainSnapshot (status name : String) (trusts : List String) : Json :=
  .obj [("dealId", .str "D-1"), ("dealName", .str name), ("status", .str status),
    ("umbrellaLimit", .obj [("approvedLimit", .obj [("amount", .num 100), ("currency", .str "AUD")])]),
    ("trustStructures",
      .arr (trusts.map fun trust => .obj [("trustId", .str trust), ("trustName", .str trust)]))]

/-! ## Generated tasks -/

inductive DealTaskType where
  | kycAmlScreening
  | kycBeneficialOwnership
  | kycCompanyExtract
  | kycIndividualIdentity
  | trustDeedVerification
  | trustDeedAmendmentCheck
  | trusteeAuthorityConfirmation
  | financialStatementsReview
  | taxReturnsReview
  | managementAccountsReview
  | facilityPurposeEvidence
  | equipmentScheduleVerification
  | valuationReportReview
  | titleSearchConfirmation
  | insuranceEvidence
  | ppsrSearchConfirmation
  | guaranteeDocumentReview
  | solicitorsCertificateObtained
deriving DecidableEq, Repr

def DealTaskType.text : DealTaskType → String
  | .kycAmlScreening => "KYC_AML_SCREENING"
  | .kycBeneficialOwnership => "KYC_BENEFICIAL_OWNERSHIP"
  | .kycCompanyExtract => "KYC_COMPANY_EXTRACT"
  | .kycIndividualIdentity => "KYC_INDIVIDUAL_IDENTITY"
  | .trustDeedVerification => "TRUST_DEED_VERIFICATION"
  | .trustDeedAmendmentCheck => "TRUST_DEED_AMENDMENT_CHECK"
  | .trusteeAuthorityConfirmation => "TRUSTEE_AUTHORITY_CONFIRMATION"
  | .financialStatementsReview => "FINANCIAL_STATEMENTS_REVIEW"
  | .taxReturnsReview => "TAX_RETURNS_REVIEW"
  | .managementAccountsReview => "MANAGEMENT_ACCOUNTS_REVIEW"
  | .facilityPurposeEvidence => "FACILITY_PURPOSE_EVIDENCE"
  | .equipmentScheduleVerification => "EQUIPMENT_SCHEDULE_VERIFICATION"
  | .valuationReportReview => "VALUATION_REPORT_REVIEW"
  | .titleSearchConfirmation => "TITLE_SEARCH_CONFIRMATION"
  | .insuranceEvidence => "INSURANCE_EVIDENCE"
  | .ppsrSearchConfirmation => "PPSR_SEARCH_CONFIRMATION"
  | .guaranteeDocumentReview => "GUARANTEE_DOCUMENT_REVIEW"
  | .solicitorsCertificateObtained => "SOLICITORS_CERTIFICATE_OBTAINED"

/-- The entity that a task is about. -/
structure TaskContextRef where
  entityType : String
  entityId : String
  entityLabel : String

/-- The origin is always `AUTO_GENERATED`. -/
structure GeneratedDealTask where
  taskType : DealTaskType
  title : String
  mandatory : Bool := true
  contextRef : TaskContextRef

def GeneratedDealTask.key (task : GeneratedDealTask) : String :=
  task.taskType.text ++ "::" ++ trimSpace task.contextRef.entityId

/-- `taskBuilder.add`: the keys that were seen are those of the tasks. -/
def addTask (tasks : List GeneratedDealTask) (task : GeneratedDealTask) : List GeneratedDealTask :=
  if tasks.any (fun t => t.key == task.key) then tasks else tasks ++ [task]

def addTasks (tasks new : List GeneratedDealTask) : List GeneratedDealTask := new.foldl addTask tasks

/-! ## Texts -/

def safeOr (value fallback : String) : String :=
  if trimSpace value = "" then fallback else trimSpace value

def displayIndividualName (party : LegalParty) : String :=
  match party.name with
  | none => party.partyId
  | some name =>
    let fullName := trimSpace (trimSpace name.givenName ++ " " ++ trimSpace name.familyName)
    if fullName = "" then party.partyId else fullName

def displayLegalName (party : LegalParty) : String :=
  if trimSpace party.legalName ≠ "" then trimSpace party.legalName
  else if party.name.isSome then displayIndividualName party
  else party.partyId

def partyLabel (party : LegalParty) : String :=
  let label := trimSpace party.legalName
  match label, party.name with
  | "", some name => trimSpace (trimSpace name.givenName ++ " " ++ trimSpace name.familyName)
  | label, _ => label

def propertyAddressParts (asset : Asset) : String × String × String :=
  match asset.address with
  | none => ("property", "unknown suburb", "")
  | some address =>
    (safeOr address.line1 "property", safeOr address.suburb "unknown suburb",
      trimSpace address.state)

/-- `guaranteeContextEntityID`, with the facility as it is given. -/
def guarantorId (guarantee : Guarantee) (facilityId : String) : String :=
  if trimSpace guarantee.guarantor.partyId ≠ "" then trimSpace guarantee.guarantor.partyId
  else if trimSpace guarantee.guarantor.name ≠ "" then trimSpace guarantee.guarantor.name
  else facilityId

/-! ## Orders -/

/-- Sort by an identifier, without its blanks. -/
def sortById {α : Type} (entityId : α → String) (xs : List α) : List α :=
  xs.insertionSort (fun a b => ¬ trimSpace (entityId b) < trimSpace (entityId a))

/-- The facilities of all borrowing entities under their ids. -/
def flattenFacilities (deal : BusinessLendingDeal) : Dict String Facility :=
  Dict.indexBy (·.facilityId)
    ((deal.borrowingEntities.flatMap (·.facilities)).filter
      (fun f => trimSpace f.facilityId != ""))

def sortedFacilities (deal : BusinessLendingDeal) : List Facility :=
  sortById (·.facilityId) ((flattenFacilities deal).entries.map (·.2))

/-- The order of the guarantees of a facility. -/
def sortedGuarantees (facility : Facility) : List Guarantee :=
  facility.guarantees.insertionSort fun a b =>
    let aId := guarantorId a (trimSpace facility.facilityId)
    let bId := guarantorId b (trimSpace facility.facilityId)
    if aId = bId then ¬ trimSpace b.guaranteeType < trimSpace a.guaranteeType else ¬ bId < aId

/-- A filter on ids; without one everything passes. -/
def passes (filter : Option (List String)) (entityId : String) : Bool :=
  match filter with
  | none => true
  | some ids => ids.contains entityId

section generation

variable (lib : DealLibrary)

/-! ## Tasks of the entities -/

def partyTasks (party : LegalParty) : List GeneratedDealTask :=
  let ref : TaskContextRef :=
    { entityType := "PARTY", entityId := party.partyId, entityLabel := partyLabel party }
  let name := displayLegalName party
  let kind := lib.toUpper (trimSpace party.partyType)
  [{ taskType := .kycAmlScreening, contextRef := ref
     title := "AML/CTF Screening — " ++ name ++ " (" ++ party.partyId ++ ")" },
   { taskType := .kycBeneficialOwnership, contextRef := ref
     title := "Beneficial Ownership Declaration — " ++ name }] ++
  if kind = "COMPANY" then
    let acn := safeOr ((party.regulatory.map (·.acn)).getD "") "UNKNOWN"
    [{ taskType := .kycCompanyExtract, contextRef := ref
       title := "ASIC Company Extract (< 3 months) — " ++ name ++ " ACN " ++ acn }]
  else if kind = "INDIVIDUAL" then
    [{ taskType := .kycIndividualIdentity, contextRef := ref
       title := "Identity Verification (Passport or Licence) — " ++ displayIndividualName party }]
  else []

def trustTasks (trust : TrustStructure) : List GeneratedDealTask :=
  let ref : TaskContextRef :=
    { entityType := "TRUST", entityId := trust.trustId, entityLabel := trimSpace trust.trustName }
  let capacity := safeOr ((trust.trustees.head?.map (·.capacityStatement)).getD "") trust.trustName
  [{ taskType := .trustDeedVerification, contextRef := ref
     title := "Trust Deed Verification — " ++ trust.trustName ++ " (deed date: " ++
       safeOr trust.trustDeedDate "unknown" ++ ")" },
   { taskType := .trustDeedAmendmentCheck, contextRef := ref
     title := "Confirm No Undisclosed Amendments — " ++ trust.trustName },
   { taskType := .trusteeAuthorityConfirmation, contextRef := ref
     title := "Trustee Borrowing Authority Confirmed — " ++ capacity }]

def dealLevelTasks (deal : BusinessLendingDeal) : List GeneratedDealTask :=
  let ref : TaskContextRef :=
    { entityType := "UMBRELLA", entityId := deal.dealId, entityLabel := deal.dealName }
  [{ taskType := .financialStatementsReview, contextRef := ref
     title := "Financial Statements (2 years) — " ++ deal.dealName },
   { taskType := .taxReturnsReview, contextRef := ref
     title := "Tax Returns (2 years) — " ++ deal.dealName },
   { taskType := .managementAccountsReview, contextRef := ref, mandatory := false
     title := "Management Accounts (latest period) — " ++ deal.dealName }]

def facilityTasks (facility : Facility) : List GeneratedDealTask :=
  let ref : TaskContextRef :=
    { entityType := "FACILITY", entityId := facility.facilityId, entityLabel := facility.product }
  [{ taskType := .facilityPurposeEvidence, contextRef := ref
     title := "Purpose Evidence — " ++ facility.facilityId ++ " " ++ facility.product ++ " (" ++
       safeOr facility.purpose "purpose not provided" ++ ")" }] ++
  if lib.equalFold (trimSpace facility.product) "EQUIPMENT_FINANCE" then
    [{ taskType := .equipmentScheduleVerification, contextRef := ref
       title := "Equipment/Asset Schedule — " ++ facility.facilityId ++ " " ++
         safeOr facility.purpose "asset schedule" }]
  else []

def assetTasks (collateralId : String) (asset : Asset) : List GeneratedDealTask :=
  let ref : TaskContextRef :=
    { entityType := "COLLATERAL", entityId := asset.assetId, entityLabel := collateralId }
  let kind := lib.toUpper (trimSpace asset.assetType)
  if kind = "PROPERTY" then
    let (line1, suburb, state) := propertyAddressParts asset
    [{ taskType := .valuationReportReview, contextRef := ref
       title := "Valuation Report — " ++ line1 ++ ", " ++ suburb ++ " " ++ state },
     { taskType := .titleSearchConfirmation, contextRef := ref
       title := "Title Search — " ++ safeOr asset.titleReference "title reference pending" },
     { taskType := .insuranceEvidence, contextRef := ref
       title := "Building & Contents Insurance — " ++ line1 ++ ", " ++ suburb }]
  else if kind = "GSA" then
    [{ taskType := .ppsrSearchConfirmation, contextRef := ref
       title := "PPSR Search — " ++ safeOr asset.ppsrRegistrationNumber "to be registered" }]
  else []

def collateralTasks (collateral : Collateral) : List GeneratedDealTask :=
  (sortById (·.assetId) collateral.assets).flatMap (assetTasks lib collateral.collateralId)

/-- The tasks of the guarantees of a facility. -/
def guaranteeTasks (facility : Facility) : List GeneratedDealTask :=
  (sortedGuarantees facility).flatMap fun guarantee =>
    let guarantor := guarantorId guarantee facility.facilityId
    let ref : TaskContextRef :=
      { entityType := "GUARANTOR", entityId := guarantor, entityLabel := guarantor }
    [{ taskType := .guaranteeDocumentReview, contextRef := ref
       title := "Guarantee Document Review — " ++ safeOr guarantee.guaranteeType "GUARANTEE" ++
         " by " ++ guarantor },
     { taskType := .solicitorsCertificateObtained, contextRef := ref
       title := "Solicitor's Certificate (Independent Legal Advice) — " ++ guarantor }]

/-! ## The checklist of a deal -/

def generatePartyTasks (deal : BusinessLendingDeal) (filter : Option (List String)) :
    List GeneratedDealTask :=
  ((sortById (·.partyId) deal.legalParties).filter (fun p => passes filter p.partyId)).flatMap
    (partyTasks lib)

def generateFacilityTasks (deal : BusinessLendingDeal) (filter : Option (List String)) :
    List GeneratedDealTask :=
  ((sortedFacilities deal).filter (fun f => passes filter f.facilityId)).flatMap (facilityTasks lib)

def generateCollateralTasks (deal : BusinessLendingDeal) (filter : Option (List String)) :
    List GeneratedDealTask :=
  ((sortById (·.collateralId) deal.collaterals).filter
    (fun c => passes filter c.collateralId)).flatMap (collateralTasks lib)

def generateGuaranteeTasks (deal : BusinessLendingDeal) (filter : Option (List String)) :
    List GeneratedDealTask :=
  ((sortedFacilities deal).filter (fun f => passes filter f.facilityId)).flatMap guaranteeTasks

def generateTasksForDeal (deal : BusinessLendingDeal) : List GeneratedDealTask :=
  let tasks := addTasks [] (generatePartyTasks lib deal none)
  let tasks := addTasks tasks ((sortById (·.trustId) deal.trustStructures).flatMap trustTasks)
  let tasks := addTasks tasks (dealLevelTasks deal)
  let tasks := addTasks tasks (generateFacilityTasks lib deal none)
  let tasks := addTasks tasks (generateCollateralTasks lib deal none)
  addTasks tasks (generateGuaranteeTasks deal none)

/-- The tasks of the parties, facilities and collaterals
    that a diff reports as added. -/
def generateTasksForMaterialAdditions (deal : BusinessLendingDeal)
    (partiesAdded facilitiesAdded collateralsAdded : List String) : List GeneratedDealTask :=
  let tasks := addTasks [] (generatePartyTasks lib deal (some partiesAdded))
  let tasks := addTasks tasks (generateFacilityTasks lib deal (some facilitiesAdded))
  let tasks := addTasks tasks (generateGuaranteeTasks deal (some facilitiesAdded))
  addTasks tasks (generateCollateralTasks lib deal (some collateralsAdded))

end generation

/-! ## Checklists -/

def Checklist (tasks : List GeneratedDealTask) : Prop := (tasks.map GeneratedDealTask.key).Nodup

/-- Adding tasks to none lists all of their keys, each once. -/
theorem checklist_addTasks (new : List GeneratedDealTask) : Checklist (addTasks [] new) ∧
    ∀ key, key ∈ (addTasks [] new).map (·.key) ↔ key ∈ new.map (·.key) := by
  induction new using reverseRecOn with
  | nil => exact ⟨nodup_nil, fun _ => Iff.rfl⟩
  | append_singleton new task ih =>
    obtain ⟨hlist, hkeys⟩ := ih
    have hstep : addTasks [] (new ++ [task]) = addTask (addTasks [] new) task := foldl_append
    rw [hstep, addTask]
    split
    · exact ⟨hlist, by grind⟩
    · refine ⟨?_, by grind⟩
      rw [Checklist, map_append, nodup_append]
      exact ⟨hlist, by simp, by grind⟩

end LoanWorkflow
