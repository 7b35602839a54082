/-
Usage reports: `app/services/usage.py`.

A report counts, for one tenant and one workflow, what happened in a period: once in total and
once for each day.  The `created_at` columns of three of the tables are read by nobody else, and
stand beside the tables here.  A date is a number of days since 1970-01-01.

Submitted actions are counted one by one.  Of proofs, reviews and receipts an Action Intent counts
at most once in a report, at the first of them in the period.  The report adds nothing up: totals
and days are counted side by side.
-/
import ControlPlane.Lib.Firsts
import ControlPlane.Services.Database
import Mathlib.Data.List.Sort

namespace ControlPlane.Usage

/-- The tables, with the `created_at` of every proof, evidence object and receipt. -/
structure UsageDb where
  db : Db
  proofCreatedAt : String → Time
  evidenceCreatedAt : String → Time
  receiptCreatedAt : String → Time

/-- `UsageReportingValidationError`. -/
structure UsageReportingValidationError where
  message : String
deriving DecidableEq, Repr

/-- `UsageSummaryTotals`. -/
structure UsageSummaryTotals where
  submittedActions : Nat := 0
  billableProvedAndAllowedActions : Nat := 0
  blockedOrRefusedActions : Nat := 0
  blockedPolicyActions : Nat := 0
  structurallyRefusedActions : Nat := 0
  heldForReviewActions : Nat := 0
  reviewedActions : Nat := 0
  receiptLinkedActions : Nat := 0
deriving DecidableEq, Repr

/-- `UsageDailyBucket`. -/
structure UsageDailyBucket where
  usageDate : Nat
  submittedActions : Nat := 0
  billableProvedAndAllowedActions : Nat := 0
  blockedOrRefusedActions : Nat := 0
  heldForReviewActions : Nat := 0
  reviewedActions : Nat := 0
  receiptLinkedActions : Nat := 0
deriving DecidableEq, Repr

/-- `UsageDefinitions`. -/
structure UsageDefinitions where
  pricingStatus : String
  billableActionDefinition : String
  blockedActionDefinition : String
  reviewedActionDefinition : String
  receiptLinkedDefinition : String
deriving DecidableEq, Repr

/-- What the report says its counts mean. -/
def usageDefinitions : UsageDefinitions where
  pricingStatus := "metering_only_no_invoicing"
  billableActionDefinition :=
    "Distinct Action Intents with a first successful proof issuance in the "
      ++ "reporting period. This is the current future usage-pricing candidate, "
      ++ "not a live invoice."
  blockedActionDefinition :=
    "Distinct Action Intents created in the reporting period with a final "
      ++ "intake result of deny or structurally_non_executable. These counts show "
      ++ "prevention value and are not usage-billed."
  reviewedActionDefinition :=
    "Distinct Action Intents with a first approval decision or evidence "
      ++ "submission in the reporting period."
  receiptLinkedDefinition :=
    "Distinct Action Intents with a first linked receipt record in the "
      ++ "reporting period."

/-- `TenantUsageReport`. -/
structure TenantUsageReport where
  generatedAt : Time
  tenantId : String
  workflowKey : Option String
  periodStart : Int
  periodEnd : Int
  totals : UsageSummaryTotals
  dailyBuckets : List UsageDailyBucket
  definitions : UsageDefinitions
deriving DecidableEq, Repr

/-! ### Counting -/

/-- Totals and buckets while a report is built. -/
structure Counts where
  totals : UsageSummaryTotals := {}
  buckets : List UsageDailyBucket := []
deriving DecidableEq

/-- `value.date()`. -/
def dateOf (t : Time) : Nat := t / Time.second / 86400

/-- The bucket of a date, as `_bucket_for` finds or makes it, changed. -/
def changeBucket (date : Nat) (f : UsageDailyBucket → UsageDailyBucket) :
    List UsageDailyBucket → List UsageDailyBucket
  | [] => [f { usageDate := date }]
  | bucket :: rest =>
      if bucket.usageDate = date then f bucket :: rest else bucket :: changeBucket date f rest

/-- One more in a total, and in the bucket of a day. -/
def Counts.count (counts : Counts) (t : Time) (total : UsageSummaryTotals → UsageSummaryTotals)
    (bucket : UsageDailyBucket → UsageDailyBucket) : Counts :=
  ⟨total counts.totals, changeBucket (dateOf t) bucket counts.buckets⟩

section

variable (udb : UsageDb) (tenantId : String) (workflowKey : Option String)

/-- `workflow_key == :workflow_key`, when a workflow is asked for. -/
def inWorkflow (intent : ActionIntentRecord) : Bool :=
  match workflowKey with
  | none => true
  | some key => intent.workflowKey = key

/-- `>= period_start` and `< period_end`. -/
def inPeriod (periodStart periodEnd : Int) (t : Time) : Bool :=
  periodStart ≤ t && (t : Int) < periodEnd

/-- `ORDER BY action_intent_record_id, event_time`. -/
def orderEvents (events : List (String × Time)) : List (String × Time) :=
  events.insertionSort fun a b => a.1 < b.1 ∨ a.1 = b.1 ∧ a.2 ≤ b.2

/-! ### Actions that were submitted -/

/-- The intents that were created in the period, in order. -/
def submittedActions (periodStart periodEnd : Int) : List ActionIntentRecord :=
  (udb.db.intents.rows.filter fun intent =>
    intent.tenantId = tenantId && inPeriod periodStart periodEnd intent.createdAt
      && inWorkflow workflowKey intent).insertionSort fun a b => a.createdAt ≤ b.createdAt

/-- One turn of the loop of `_populate_action_totals`. -/
def countAction (counts : Counts) (intent : ActionIntentRecord) : Counts :=
  let counts := counts.count intent.createdAt
    (fun totals => { totals with submittedActions := totals.submittedActions + 1 })
    (fun bucket => { bucket with submittedActions := bucket.submittedActions + 1 })
  match intent.decisionState with
  | .deny => counts.count intent.createdAt
      (fun totals => { totals with
        blockedOrRefusedActions := totals.blockedOrRefusedActions + 1
        blockedPolicyActions := totals.blockedPolicyActions + 1 })
      (fun bucket => { bucket with blockedOrRefusedActions := bucket.blockedOrRefusedActions + 1 })
  | .structurallyNonExecutable => counts.count intent.createdAt
      (fun totals => { totals with
        blockedOrRefusedActions := totals.blockedOrRefusedActions + 1
        structurallyRefusedActions := totals.structurallyRefusedActions + 1 })
      (fun bucket => { bucket with blockedOrRefusedActions := bucket.blockedOrRefusedActions + 1 })
  | .approvalRequired | .needsEvidence => counts.count intent.createdAt
      (fun totals => { totals with heldForReviewActions := totals.heldForReviewActions + 1 })
      (fun bucket => { bucket with heldForReviewActions := bucket.heldForReviewActions + 1 })
  | .allow => counts

/-- `_populate_action_totals`. -/
def populateActionTotals (periodStart periodEnd : Int) (counts : Counts) : Counts :=
  (submittedActions udb tenantId workflowKey periodStart periodEnd).foldl countAction counts

/-! ### Actions with a first event in the period -/

/-- The events of a period, by intent. -/
def within (periodStart periodEnd : Int) (events : List (String × Time)) : List (String × Time) :=
  events.filter fun event => inPeriod periodStart periodEnd event.2

/-- One more in a total and a bucket for the first event of every intent. -/
def countFirsts (events : List (String × Time)) (total : UsageSummaryTotals → UsageSummaryTotals)
    (bucket : UsageDailyBucket → UsageDailyBucket) (counts : Counts) : Counts :=
  (Firsts.firsts events).foldl (fun counts first => counts.count first.2 total bucket) counts

/-- The intent that a row is joined with, if it is of the workflow. -/
def joined (actionIntentRecordId : String) : Option ActionIntentRecord :=
  (udb.db.intents.get? actionIntentRecordId).filter (inWorkflow workflowKey)

/-- A proof that is issued, for an intent that is not refused, and the time it counts at. -/
def meteredProof (proof : IssuedProof) : Option (String × Time) :=
  match joined udb workflowKey proof.actionIntentRecordId with
  | none => none
  | some intent =>
      if proof.tenantId = tenantId ∧ proof.status = .issued ∧ intent.decisionState ≠ .deny
          ∧ intent.decisionState ≠ .structurallyNonExecutable then
        some (proof.actionIntentRecordId,
          proof.issuedAt.getD (udb.proofCreatedAt proof.issuedProofId))
      else none

/-- The proofs that count, each with the intent it is for and its time. -/
def billableEvents : List (String × Time) :=
  udb.db.proofs.rows.filterMap (meteredProof udb tenantId workflowKey)

/-- `_populate_billable_totals`. -/
def populateBillableTotals (periodStart periodEnd : Int) (counts : Counts) : Counts :=
  countFirsts (orderEvents (within periodStart periodEnd
      (billableEvents udb tenantId workflowKey)))
    (fun totals => { totals with
      billableProvedAndAllowedActions := totals.billableProvedAndAllowedActions + 1 })
    (fun bucket => { bucket with
      billableProvedAndAllowedActions := bucket.billableProvedAndAllowedActions + 1 }) counts

/-- The decisions on the requests for approval. -/
def decisionEvents : List (String × Time) :=
  udb.db.approvals.rows.flatMap fun request =>
    if request.tenantId = tenantId
        ∧ (joined udb workflowKey request.actionIntentRecordId).isSome then
      request.decisions.map fun decision => (request.actionIntentRecordId, decision.createdAt)
    else []

/-- The submissions of evidence. -/
def evidenceEvents : List (String × Time) :=
  udb.db.evidence.rows.filterMap fun object =>
    if object.tenantId = tenantId
        ∧ (joined udb workflowKey object.actionIntentRecordId).isSome then
      some (object.actionIntentRecordId, udb.evidenceCreatedAt object.evidenceObjectId)
    else none

/-- `_populate_reviewed_totals`: decisions and evidence together. -/
def populateReviewedTotals (periodStart periodEnd : Int) (counts : Counts) : Counts :=
  countFirsts (orderEvents (within periodStart periodEnd
        (decisionEvents udb tenantId workflowKey))
      ++ orderEvents (within periodStart periodEnd (evidenceEvents udb tenantId workflowKey)))
    (fun totals => { totals with reviewedActions := totals.reviewedActions + 1 })
    (fun bucket => { bucket with reviewedActions := bucket.reviewedActions + 1 }) counts

/-- The receipts. -/
def receiptEvents : List (String × Time) :=
  udb.db.receipts.rows.filterMap fun receipt =>
    if receipt.tenantId = tenantId
        ∧ (joined udb workflowKey receipt.actionIntentRecordId).isSome then
      some (receipt.actionIntentRecordId, udb.receiptCreatedAt receipt.receiptId)
    else none

/-- `_populate_receipt_totals`. -/
def populateReceiptTotals (periodStart periodEnd : Int) (counts : Counts) : Counts :=
  countFirsts (orderEvents (within periodStart periodEnd
      (receiptEvents udb tenantId workflowKey)))
    (fun totals => { totals with receiptLinkedActions := totals.receiptLinkedActions + 1 })
    (fun bucket => { bucket with receiptLinkedActions := bucket.receiptLinkedActions + 1 }) counts

/-! ### Reports -/

/-- `_resolve_period`. -/
def resolvePeriod (now : Time) (periodStart periodEnd : Option Int) :
    Except UsageReportingValidationError (Int × Int) :=
  match periodStart, periodEnd with
  | none, none =>
      let days := now / Time.second / 86400
      let (_, _, day) := Time.civil days
      .ok (((days - (day - 1)) * 86400 * Time.second : Nat), now)
  | some periodStart, some periodEnd =>
      if periodEnd ≤ periodStart then .error ⟨"period_end must be later than period_start"⟩
      else .ok (periodStart, periodEnd)
  | _, _ => .error ⟨"period_start and period_end must be provided together"⟩

/-- What is counted in a period. -/
def countsOf (periodStart periodEnd : Int) : Counts :=
  populateReceiptTotals udb tenantId workflowKey periodStart periodEnd
    (populateReviewedTotals udb tenantId workflowKey periodStart periodEnd
      (populateBillableTotals udb tenantId workflowKey periodStart periodEnd
        (populateActionTotals udb tenantId workflowKey periodStart periodEnd {})))

/-- `build_usage_report`, where the clock shows `now` and then `generatedAt`. -/
def buildUsageReport (now generatedAt : Time) (periodStart periodEnd : Option Int) :
    Except UsageReportingValidationError TenantUsageReport := do
  let (startAt, endAt) ← resolvePeriod now periodStart periodEnd
  let counts := countsOf udb tenantId workflowKey startAt endAt
  return {
    generatedAt := generatedAt
    tenantId := tenantId
    workflowKey := workflowKey
    periodStart := startAt
    periodEnd := endAt
    totals := counts.totals
    dailyBuckets := counts.buckets.insertionSort fun a b => a.usageDate ≤ b.usageDate
    definitions := usageDefinitions }

end

/-! ### Rows in any order -/

/-- The rows that the queries of a report return. -/
structure QueryRows where
  submitted : List ActionIntentRecord
  billable : List (String × Time)
  decisions : List (String × Time)
  evidence : List (String × Time)
  receipts : List (String × Time)

/-- The rows in the order that the queries ask for. -/
def queryRows (udb : UsageDb) (tenantId : String) (workflowKey : Option String)
    (periodStart periodEnd : Int) : QueryRows where
  submitted := submittedActions udb tenantId workflowKey periodStart periodEnd
  billable := orderEvents (within periodStart periodEnd (billableEvents udb tenantId workflowKey))
  decisions := orderEvents (within periodStart periodEnd (decisionEvents udb tenantId workflowKey))
  evidence := orderEvents (within periodStart periodEnd (evidenceEvents udb tenantId workflowKey))
  receipts := orderEvents (within periodStart periodEnd (receiptEvents udb tenantId workflowKey))

/-- The same rows, in whatever order. -/
structure QueryRows.Same (a b : QueryRows) : Prop where
  submitted : a.submitted.Perm b.submitted
  billable : a.billable.Perm b.billable
  decisions : a.decisions.Perm b.decisions
  evidence : a.evidence.Perm b.evidence
  receipts : a.receipts.Perm b.receipts

/-- What is counted in the rows. -/
def QueryRows.counts (rows : QueryRows) : Counts :=
  countFirsts rows.receipts
    (fun totals => { totals with receiptLinkedActions := totals.receiptLinkedActions + 1 })
    (fun bucket => { bucket with receiptLinkedActions := bucket.receiptLinkedActions + 1 })
  <| countFirsts (rows.decisions ++ rows.evidence)
    (fun totals => { totals with reviewedActions := totals.reviewedActions + 1 })
    (fun bucket => { bucket with reviewedActions := bucket.reviewedActions + 1 })
  <| countFirsts rows.billable
    (fun totals => { totals with
      billableProvedAndAllowedActions := totals.billableProvedAndAllowedActions + 1 })
    (fun bucket => { bucket with
      billableProvedAndAllowedActions := bucket.billableProvedAndAllowedActions + 1 })
  <| rows.submitted.foldl countAction {}

/-- `build_usage_report`, where the queries return these rows for a period. -/
def buildUsageReportFrom (answers : Int → Int → QueryRows) (tenantId : String)
    (workflowKey : Option String) (now generatedAt : Time) (periodStart periodEnd : Option Int) :
    Except UsageReportingValidationError TenantUsageReport := do
  let (startAt, endAt) ← resolvePeriod now periodStart periodEnd
  let counts := (answers startAt endAt).counts
  return {
    generatedAt := generatedAt
    tenantId := tenantId
    workflowKey := workflowKey
    periodStart := startAt
    periodEnd := endAt
    totals := counts.totals
    dailyBuckets := counts.buckets.insertionSort fun a b => a.usageDate ≤ b.usageDate
    definitions := usageDefinitions }

end ControlPlane.Usage
