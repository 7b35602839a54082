/-
Receipt ingestion: `app/services/receipts.py`.

A receipt is validated, reconciled with the intent, the proof and the escrow record it
names, and stored, whatever came of that.  Everything is flushed in one transaction, so the
flushes and the commit are one window.

The schema validator is a library of its own: what it finds wrong with a finance receipt is
a parameter, and so is how `str` and `json.dumps` write the values for which that matters to
nobody here.  So is what the database driver refuses to write.  The search index and the linked
workflow ids are left out.
-/
import ControlPlane.Lib.IsoTime
import ControlPlane.Lib.JsonText
import ControlPlane.Lib.Sha256
import ControlPlane.Services.Database

namespace ControlPlane

/-- The type as it stands in its column. -/
def ReconciliationType.value : ReconciliationType → String
  | intentToReceipt => "intent_to_receipt"
  | proofToReceipt => "proof_to_receipt"
  | escrowToReceipt => "escrow_to_receipt"

/-- The status as it stands in its column. -/
def ReconciliationStatus.value : ReconciliationStatus → String
  | matched => "matched"
  | manualReviewRequired => "manual_review_required"
  | mismatch => "mismatch"

namespace Receipts

/-! ### Contracts -/

/-- What a caller hands in. -/
structure ReceiptRequest where
  tenantId : String
  actionIntentRecordId : String
  contractFamily : String
  contractVersionRef : String
  kernelReceipt : Members
  receivedBy : Principal
  issuedProofId : Option String
  escrowRecordId : Option String

/-- What the service takes from libraries. -/
structure Libraries where
  /-- The errors of the finance schema, sorted by path and formatted. -/
  financeErrors : Members → List String
  /-- `repr` of a float. -/
  floatText : Rat → List Char
  /-- `str(value)`, of a value that is no string. -/
  valueText : Json → String
  /-- The error of a value that a column does not take, such as a list for text. -/
  bindError : ReceiptRequest → Option String := fun _ => none

/-- `ContractValidationResult`. -/
structure ContractValidationResult where
  supported : Bool
  valid : Bool
  errors : List String

/-- `ReceiptContractRegistry.validate_receipt`. -/
def validateReceipt (libraries : Libraries) (contractFamily versionRef : String)
    (payload : Members) : ContractValidationResult :=
  if contractFamily ≠ "receipt" then
    ⟨false, false, ["unsupported contract family '" ++ contractFamily ++ "'"]⟩
  else if versionRef ≠ "open_execution_kernel.receipt.finance.v1alpha1" then
    ⟨false, false, ["unsupported contract version '" ++ versionRef ++ "'"]⟩
  else
    match libraries.financeErrors payload with
    | [] => ⟨true, true, []⟩
    | errors => ⟨true, false, errors⟩

/-- `_validation_status`. -/
def validationStatus (validation : ContractValidationResult) : ContractValidationStatus :=
  if !validation.supported then .unsupported
  else if !validation.valid then .invalid
  else .valid

/-! ### Reading a receipt -/

/-- `_digest`. -/
def digest (libraries : Libraries) (payload : Members) : String :=
  sha256Hex (utf8 (JsonText.dumps libraries.floatText (.obj payload)))

/-- `str(payload[key])`. -/
def memberText (libraries : Libraries) (payload : Members) (key : String) :
    Except ServiceError String :=
  match payload.get? key with
  | none => .error (.missingKey key)
  | some (.str text) => .ok text
  | some value => .ok (libraries.valueText value)

/-- `_parse_timestamp(payload["occurred_at"])`: the instant, in microseconds since 1970. -/
def parseTimestamp (payload : Members) : Except ServiceError Int :=
  match payload.get? "occurred_at" with
  | none => .error (.missingKey "occurred_at")
  | some (.str text) =>
      match IsoTime.fromIsoformat (IsoTime.expandZulu text) with
      | none => .error (.value ("Invalid isoformat string: '" ++ IsoTime.expandZulu text ++ "'"))
      | some time =>
          let instant := time.instant?.getD time.wallClock
          if instant < IsoTime.daysFromCivil 1 1 1 * 86400000000
              ∨ (IsoTime.daysFromCivil 9999 12 31 + 1) * 86400000000 ≤ instant then
            .error (.value "date value out of range")
          else .ok instant
  | some _ => .error (.missingAttribute "replace")

/-! ### Checks -/

/-- What a comparison of two fields came to. -/
inductive CheckStatus where
  | skipped
  | missing
  | notProvided
  | matched
  | mismatch
deriving DecidableEq

/-- The status as it stands in the details of a reconciliation. -/
def CheckStatus.value : CheckStatus → String
  | skipped => "skipped"
  | missing => "missing"
  | notProvided => "not_provided"
  | matched => "matched"
  | mismatch => "mismatch"

/-- One comparison. -/
structure Check where
  field : String
  status : CheckStatus
  expected : Json
  actual : Json

/-- The comparison as it is stored. -/
def Check.toJson (check : Check) : Json :=
  .obj [("field", .str check.field), ("status", .str check.status.value),
    ("expected", check.expected), ("actual", check.actual)]

/-- `_check`. -/
def check (field : String) (expected actual : Json) (required : Bool) : Check :=
  if expected = .null ∧ actual = .null then ⟨field, .skipped, expected, actual⟩
  else if actual = .null then
    ⟨field, if required then .missing else .notProvided, expected, actual⟩
  else if plain expected = plain actual then ⟨field, .matched, expected, actual⟩
  else ⟨field, .mismatch, expected, actual⟩

/-- `_reconciliation_status`. -/
def reconciliationStatus (checks : List Check) : ReconciliationStatus :=
  let statuses := checks.map (·.status)
  if statuses.contains .mismatch || statuses.contains .missing then .mismatch
  else if statuses.all (fun s => s = .matched || s = .skipped) && statuses.contains .matched then
    .matched
  else .manualReviewRequired

/-- `_reconciliation_summary_text`. -/
def reconciliationSummaryText (type : ReconciliationType) (status : ReconciliationStatus)
    (checks : List Check) : String :=
  match status with
  | .matched => type.value ++ " matched expected finance trace bindings"
  | .mismatch =>
      let failing := checks.filter fun c => c.status = .mismatch || c.status = .missing
      type.value ++ " requires review because fields did not match: "
        ++ ", ".intercalate (failing.map (·.field))
  | .manualReviewRequired =>
      type.value ++ " requires manual review because key comparison data is incomplete"

/-- The checks of the intent. -/
def intentChecks (intent : ActionIntentRecord) (payload : Members) : List Check :=
  [check "intent_id" intent.externalActionIntentId (memberOf payload "intent_id") true,
    check "action_intent_digest" (.str intent.actionIntentDigest)
      (memberOf payload "action_intent_digest") true,
    check "action_type" (memberOf intent.financeIndex "action_type")
      (memberOf payload "action_type") true,
    check "amount_minor" (memberOf intent.financeIndex "amount_minor")
      (memberOf payload "amount_minor") true,
    check "currency" (memberOf intent.financeIndex "currency") (memberOf payload "currency") true]

/-- The checks of a proof. -/
def proofChecks (proof : IssuedProof) (payload : Members) : List Check :=
  [check "proof_nonce" (.str proof.nonce) (memberOf payload "proof_nonce") false,
    check "audience" (.str proof.audience) (memberOf payload "audience") false,
    check "scope" (.arr (proof.scope.map .str)) (memberOf payload "scope") false,
    check "action_intent_digest" (.str proof.actionIntentDigest)
      (memberOf payload "action_intent_digest") true]

/-- The checks of an escrow record. -/
def escrowChecks (escrow : EscrowRecord) (payload : Members) : List Check :=
  [check "provider_execution_ref" (textOrNull escrow.providerExecutionRef)
      (memberOf payload "provider_execution_ref") false,
    check "action_intent_digest" (.str escrow.actionIntentDigest)
      (memberOf payload "action_intent_digest") true,
    check "scope" (.arr (escrow.scope.map .str)) (memberOf payload "scope") false]

/-! ### Reconciliation -/

/-- The ids an ingestion draws. -/
structure ReceiptDraw where
  receiptId : String
  reconciliationRecordIds : String × String × String

/-- `_create_reconciliation_record`, for the checks of its type. -/
def createReconciliationRecord (intent : ActionIntentRecord) (receiptId recordId : String)
    (proof : Option IssuedProof) (escrow : Option EscrowRecord) (type : ReconciliationType)
    (checks : List Check) : ReconciliationRecord :=
  let status := reconciliationStatus checks
  { reconciliationRecordId := recordId
    tenantId := intent.tenantId
    actionIntentRecordId := intent.actionIntentRecordId
    receiptId := receiptId
    issuedProofId := proof.map (·.issuedProofId)
    escrowRecordId := escrow.map (·.escrowRecordId)
    reconciliationType := type
    status := status
    hookName := "receipt_ingestion"
    summary := reconciliationSummaryText type status checks
    checks := checks.map (·.toJson) }

/-- `_run_reconciliation_hooks`. -/
def runReconciliationHooks (intent : ActionIntentRecord) (draw : ReceiptDraw)
    (payload : Members) (proof : Option IssuedProof) (escrow : Option EscrowRecord) :
    List ReconciliationRecord :=
  let create := fun recordId =>
    createReconciliationRecord intent draw.receiptId recordId proof escrow
  let ids := draw.reconciliationRecordIds
  create ids.1 .intentToReceipt (intentChecks intent payload)
    :: (proof.map fun p => create ids.2.1 .proofToReceipt (proofChecks p payload)).toList
    ++ (escrow.map fun e => create ids.2.2 .escrowToReceipt (escrowChecks e payload)).toList

/-- There are reconciliations, and all of them matched. -/
def allMatched (records : List ReconciliationRecord) : Bool :=
  !records.isEmpty && records.all fun r => r.status = .matched

/-- `_reconciliation_summary`. -/
def reconciliationSummary (records : List ReconciliationRecord) : Json :=
  .obj [("hook_name", .str "receipt_ingestion"),
    ("overall_status", .str (if allMatched records then "matched" else "manual_review_required")),
    ("record_count", .num records.length),
    ("records", .arr (records.map fun r =>
      .obj [("reconciliation_record_id", .str r.reconciliationRecordId),
        ("reconciliation_type", .str r.reconciliationType.value),
        ("status", .str r.status.value), ("summary", .str r.summary)]))]

/-! ### Ingestion -/

/-- `_get_action_intent`. -/
def getActionIntent (tenantId actionIntentRecordId : String) : Call ActionIntentRecord := do
  let intent ← Prog.read fun db => db.intents.get? actionIntentRecordId
  let refusal : ServiceError := .receiptIngestion
    ("action intent record '" ++ actionIntentRecordId ++ "' was not found for tenant")
  match intent with
  | none => Prog.raise refusal
  | some intent => if intent.tenantId = tenantId then return intent else Prog.raise refusal

/-- `_get_issued_proof`. -/
def getIssuedProof (tenantId actionIntentRecordId : String) (issuedProofId : Option String) :
    Call (Option IssuedProof) :=
  match issuedProofId with
  | none => return none
  | some id => do
      let proof ← Prog.read fun db => db.proofs.get? id
      match proof with
      | none => Prog.raise (.receiptIngestion ("issued proof '" ++ id ++ "' was not found"))
      | some proof =>
          if proof.tenantId = tenantId ∧ proof.actionIntentRecordId = actionIntentRecordId then
            return some proof
          else Prog.raise (.receiptIngestion
            "issued proof does not belong to the provided tenant and Action Intent")

/-- `_get_escrow_record`. -/
def getEscrowRecord (tenantId actionIntentRecordId : String) (escrowRecordId : Option String) :
    Call (Option EscrowRecord) :=
  match escrowRecordId with
  | none => return none
  | some id => do
      let escrow ← Prog.read fun db => db.escrows.get? id
      match escrow with
      | none => Prog.raise (.receiptIngestion ("escrow record '" ++ id ++ "' was not found"))
      | some escrow =>
          if escrow.tenantId = tenantId ∧ escrow.actionIntentRecordId = actionIntentRecordId then
            return some escrow
          else Prog.raise (.receiptIngestion
            "escrow record does not belong to the provided tenant and Action Intent")

/-- The receipt that a tenant has with this digest. -/
def findByDigest (db : Db) (tenantId digest : String) : Option ReceiptRecord :=
  db.receipts.rows.find? fun r => r.tenantId = tenantId && r.kernelReceiptDigest = digest

/-- The record of a new receipt, as the commit leaves it. -/
def receiptRecord (libraries : Libraries) (request : ReceiptRequest) (draw : ReceiptDraw)
    (proof : Option IssuedProof) (escrow : Option EscrowRecord)
    (records : List ReconciliationRecord) : Except ServiceError ReceiptRecord := do
  let payload := request.kernelReceipt
  let validation :=
    validateReceipt libraries request.contractFamily request.contractVersionRef payload
  let receiptTimestamp ← parseTimestamp payload
  let externalReceiptId ← memberText libraries payload "receipt_id"
  let receiptType ← memberText libraries payload "receipt_type"
  let outcome ← memberText libraries payload "outcome"
  return {
    receiptId := draw.receiptId
    tenantId := request.tenantId
    actionIntentRecordId := request.actionIntentRecordId
    issuedProofId := proof.map (·.issuedProofId)
    escrowRecordId := escrow.map (·.escrowRecordId)
    contractFamily := request.contractFamily
    contractVersionRef := request.contractVersionRef
    contractValidationStatus := validationStatus validation
    contractValidationErrors := validation.errors
    externalReceiptId := externalReceiptId
    receiptType := receiptType
    outcome := outcome
    receiptTimestamp := receiptTimestamp
    kernelReceiptDigest := digest libraries payload
    receiptPayload := payload
    providerExecutionRef := memberOf payload "provider_execution_ref"
    settlementReference := memberOf payload "settlement_reference"
    receivedBy := request.receivedBy
    receiptState := if allMatched records then .reconciled else .indexed
    reconciliationSummary := reconciliationSummary records }

/-- The execution state that an outcome stands for. -/
def observed (outcome : String) : ExecutionState :=
  if outcome = "succeeded" then .resultObserved
  else if outcome = "failed" then .failureObserved
  else .dispatchConfirmed

/-- `_apply_lifecycle_effects`: the columns of the intent that the session has read. -/
def applyLifecycleEffects (read : ActionIntentRecord) (receipt : ReceiptRecord)
    (row : ActionIntentRecord) : ActionIntentRecord :=
  { row with
    latestReceiptId := netChange read.latestReceiptId (some receipt.receiptId) row.latestReceiptId
    receiptState := netChange read.receiptState receipt.receiptState row.receiptState
    executionState :=
      netChange read.executionState (observed receipt.outcome) row.executionState }

/-- What the flush raises for values that the columns do not take. -/
def bindReceipt (libraries : Libraries) (request : ReceiptRequest) : Except ServiceError Unit :=
  match libraries.bindError request with
  | none => .ok ()
  | some message => .error (.outside message)

/-- The audit event of a new receipt. -/
def ingestedEvent (receipt : ReceiptRecord) : AuditEvent where
  tenantId := receipt.tenantId
  actionIntentRecordId := some receipt.actionIntentRecordId
  receiptId := some receipt.receiptId
  issuedProofId := receipt.issuedProofId
  escrowRecordId := receipt.escrowRecordId
  eventCategory := "receipt"
  eventType := "receipt.ingested"
  subjectType := "receipt_record"
  subjectId := receipt.receiptId
  actor := receipt.receivedBy
  eventPayload :=
    [("contract_family", .str receipt.contractFamily),
      ("contract_version_ref", .str receipt.contractVersionRef),
      ("contract_validation_status", .str receipt.contractValidationStatus.value),
      ("external_receipt_id", .str receipt.externalReceiptId),
      ("receipt_type", .str receipt.receiptType), ("outcome", .str receipt.outcome)]

/-- The audit event of a reconciliation record. -/
def reconciliationEvent (actor : Principal) (record : ReconciliationRecord) : AuditEvent where
  tenantId := record.tenantId
  actionIntentRecordId := some record.actionIntentRecordId
  receiptId := some record.receiptId
  issuedProofId := record.issuedProofId
  escrowRecordId := record.escrowRecordId
  eventCategory := "reconciliation"
  eventType := "reconciliation." ++ record.reconciliationType.value ++ "." ++ record.status.value
  subjectType := "reconciliation_record"
  subjectId := record.reconciliationRecordId
  actor := actor
  eventPayload :=
    [("hook_name", .str record.hookName), ("summary", .str record.summary),
      ("checks", .arr record.checks)]

/-- The flushes and the commit of a new receipt, under the constraints of the tables. -/
def insertReceipt (read : ActionIntentRecord) (receipt : ReceiptRecord)
    (records : List ReconciliationRecord) (db : Db) : Except ServiceError (Unit × Db) :=
  if (findByDigest db receipt.tenantId receipt.kernelReceiptDigest).isSome then
    .error (.integrity "uq_receipt_records_tenant_digest")
  else
    match db.receipts.insert? receipt, db.intents.get? read.actionIntentRecordId with
    | none, _ => .error (.integrity "receipt_records_pkey")
    | some _, none => .error (.integrity "receipt_records_action_intent_record_id_fkey")
    | some receipts, some row =>
        .ok ((), { db with
          receipts := receipts
          reconciliations := db.reconciliations ++ records
          auditEvents := db.auditEvents ++ ingestedEvent receipt
            :: records.map (reconciliationEvent receipt.receivedBy)
          intents := db.intents.put (applyLifecycleEffects read receipt row) })

/-- `ReceiptIngestionResult`. -/
structure ReceiptIngestionResult where
  receipt : ReceiptRecord
  idempotentReplay : Bool

/-- `ingest_receipt`: a receipt whose digest the tenant has is answered with the stored one. -/
def ingestReceipt (libraries : Libraries) (request : ReceiptRequest) (draw : ReceiptDraw) :
    Call ReceiptIngestionResult := do
  let intent ← getActionIntent request.tenantId request.actionIntentRecordId
  let existing ← Prog.read fun db =>
    findByDigest db request.tenantId (digest libraries request.kernelReceipt)
  match existing with
  | some existing => return ⟨existing, true⟩
  | none => do
      let proof ← getIssuedProof request.tenantId request.actionIntentRecordId
        request.issuedProofId
      let escrow ← getEscrowRecord request.tenantId request.actionIntentRecordId
        request.escrowRecordId
      let records := runReconciliationHooks intent draw request.kernelReceipt proof escrow
      let receipt ← Prog.ofExcept (receiptRecord libraries request draw proof escrow records)
      Prog.ofExcept (bindReceipt libraries request)
      Prog.transaction (insertReceipt intent receipt records)
      return ⟨receipt, false⟩

end Receipts

end ControlPlane
