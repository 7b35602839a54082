/-
Intake of Action Intents: `app/services/action_intents.py`.

The record is flushed before its approval request is opened and committed after.  In between it
stands in `flushedIntents`: no query of another session sees it, but the unique constraints count
it, and a flush that collides with it waits until its transaction has ended.

The schema validator is a library of its own, so what it finds wrong is a parameter.  The policy
engine may be any function of what intake hands to it.
-/
import ControlPlane.Lib.JsonText
import ControlPlane.Lib.Looking
import ControlPlane.Lib.Sha256
import ControlPlane.Services.Approvals
import ControlPlane.Services.Evidence
import ControlPlane.Services.Policies

namespace ControlPlane

namespace ActionIntents

/-! ### Contracts -/

/-- What the service takes from libraries. -/
structure Libraries where
  /-- The errors of the finance schema, sorted by path and formatted. -/
  financeErrors : Members → List String
  /-- `repr` of a float. -/
  floatText : Rat → List Char
  /-- What the database driver writes of a value that is no text into a column of texts, if it takes
  it. -/
  driverText : Json → Option String

/-- The text that a column holds of a value. -/
def Libraries.columnText (libraries : Libraries) : Json → Option String
  | .str text => some text
  | value => libraries.driverText value

/-- `ContractValidationResult`. -/
structure ContractValidationResult where
  supported : Bool
  valid : Bool
  errors : List String

/-- `KernelContractRegistry.validate_action_intent`. -/
def validateActionIntent (libraries : Libraries) (contractFamily versionRef : String)
    (payload : Members) : ContractValidationResult :=
  if contractFamily ≠ "action_intent" then
    ⟨false, false, ["unsupported contract family '" ++ contractFamily ++ "'"]⟩
  else if versionRef ≠ "open_execution_kernel.action_intent.finance.v1alpha1" then
    ⟨false, false, ["unsupported contract version '" ++ versionRef ++ "'"]⟩
  else
    match libraries.financeErrors payload with
    | [] => ⟨true, true, []⟩
    | errors => ⟨true, false, errors⟩

/-- `_validation_status`. -/
def validationStatus (validation : ContractValidationResult) : ContractValidationStatus :=
  if !validation.supported then .unsupported
  else if !validation.valid then .invalid
  else .valid

/-! ### The payload -/

/-- The parts of an intake request that the service reads. -/
structure IntakePayload where
  tenantId : String
  submissionId : String
  idempotencyKey : String
  requestedBy : Principal
  contractFamily : String
  versionRef : String
  kernelActionIntent : Members
  /-- `workflow_binding.workflow_profile`. -/
  workflowProfile : Option String
  /-- `finance_routing_context.action_class`. -/
  actionClass : Option String
  evaluationContext : Members
  externalReference : Option String := none

/-- Whether Python takes a value for true. -/
def truthy : Json → Bool
  | .null => false
  | .bool b => b
  | .num q => q ≠ 0
  | .str text => text ≠ ""
  | .arr items => !items.isEmpty
  | .obj members => !members.isEmpty

/-- `a or b`. -/
def orValue (a b : Json) : Json := if truthy a then a else b

/-- The `workflow_key` of an intake: the intent's, or the profile's. -/
def workflowKeyOf (payload : IntakePayload) : Json :=
  orValue (memberOf payload.kernelActionIntent "workflow_key")
    (orValue (textOrNull payload.workflowProfile) (.str "unknown"))

/-- The `finance_action_class` of an intake: the intent's action type, or the class. -/
def financeActionClassOf (payload : IntakePayload) : Json :=
  orValue (memberOf payload.kernelActionIntent "action_type") (textOrNull payload.actionClass)

/-- What policies can ask about an intake. -/
structure IntakeContext where
  tenantId : String
  submissionId : String
  requestedBy : Principal
  workflowKey : Json
  workflowMismatch : Bool
  routingMismatch : Bool
  financeActionClass : Json

/-- A hint that contradicts the Action Intent. -/
def mismatch (hint : Option String) (value : Json) : Bool :=
  truthy (textOrNull hint) && truthy value && textOrNull hint ≠ value

/-- `_build_intake_context`. -/
def buildIntakeContext (payload : IntakePayload) (requestedBy : Principal) : IntakeContext where
  tenantId := payload.tenantId
  submissionId := payload.submissionId
  requestedBy := requestedBy
  workflowKey := workflowKeyOf payload
  workflowMismatch :=
    mismatch payload.workflowProfile (memberOf payload.kernelActionIntent "workflow_key")
  routingMismatch :=
    mismatch payload.actionClass (memberOf payload.kernelActionIntent "action_type")
  financeActionClass := financeActionClassOf payload

/-- `_build_finance_index`. -/
def buildFinanceIndex (actionIntent evaluationContext : Members) : Members :=
  (["workflow_key", "action_type", "amount_minor", "currency", "source_account_ref",
      "destination_account_ref", "destination_country"].map fun key =>
    (key, memberOf actionIntent key)) ++ [("risk_tier", memberOf evaluationContext "risk_tier")]

/-- `_digest`. -/
def digest (libraries : Libraries) (payload : Members) : String :=
  sha256Hex (utf8 (JsonText.dumps libraries.floatText (.obj payload)))

/-! ### Policies -/

/-- `get_active_policy`: the active policy of the highest version. -/
def getActivePolicy (db : Db) (tenantId workflowKey : String) : Option Policy :=
  let active := (Policies.policiesOf db tenantId workflowKey).filter fun p => p.status = .active
  active.find? fun p => active.all fun q => q.version ≤ p.version

/-- What the policy engine decides. -/
structure PolicyDecision where
  state : DecisionState
  reason : String
  matchedRuleId : Option String
  policy : Option Policy
  approvalRequirement : Option ApprovalRequirement
  evidenceRequirement : Option EvidenceRequirement

/-- What evaluating rules can raise. -/
inductive EvaluationError where
  | policyState (message : String)
  | value (message : String)
  | type (message : String)
  | missingKey (key : String)
  | missingAttribute (message : String)

/-- The exception that an error of the policy engine leaves the intake as. -/
def EvaluationError.raised : EvaluationError → ServiceError
  | policyState message => .policyState message
  | value message => .value message
  | type message => .type message
  | missingKey key => .missingKey key
  | missingAttribute message => .missingAttribute message

/-- The action intent, the intake context, the evaluation context, the policy and the verdict on
the contract. -/
abbrev PolicyEngine := Members → IntakeContext → Members → Option Policy →
  ContractValidationResult → Except EvaluationError PolicyDecision

end ActionIntents

/-! ### The tables during intake -/

/-- A record that a transaction has flushed and not committed. -/
structure FlushedIntent where
  /-- The call whose transaction it is. -/
  owner : Nat
  record : ActionIntentRecord

/-- The tables, and the records that are flushed. -/
structure IntakeDb where
  db : Db
  flushedIntents : List FlushedIntent

/-- The committed records. -/
def IntakeDb.records (idb : IntakeDb) : List ActionIntentRecord := idb.db.intents.rows

/-- A call of the intake service. -/
abbrev IntakeProg (α : Type) := Prog IntakeDb ServiceError α

namespace ActionIntents

/-- A call on the tables. -/
def onTables {α : Type} (p : Call α) : IntakeProg α :=
  p.within IntakeDb.db fun idb db => { idb with db := db }

/-! ### Replays -/

/-- A record, and whether it was there before. -/
structure IntakeResult where
  record : ActionIntentRecord
  idempotentReplay : Bool

/-- `session.refresh(record)`. -/
def refresh (actionIntentRecordId : String) : IntakeProg ActionIntentRecord := do
  match ← Prog.read fun idb => idb.db.intents.get? actionIntentRecordId with
  | none => Prog.raise (.runtime "Could not refresh instance")
  | some record => return record

/-- The record of a tenant with this idempotency key. -/
def findExisting (idb : IntakeDb) (tenantId idempotencyKey : String) : Option ActionIntentRecord :=
  idb.records.find? fun r => r.tenantId = tenantId && r.idempotencyKey = idempotencyKey

/-- The commit of what the synchronisation of a record has found. -/
def writeStates (record : ActionIntentRecord) (approvals : Approvals.ApprovalSync)
    (evidence : Evidence.EvidenceSync) (idb : IntakeDb) : IntakeDb :=
  { idb with
    db := Evidence.writeSync (Approvals.writeSync idb.db record approvals) record evidence }

/-- `_synchronize_record`.  Setting a column makes the session dirty even where nothing changes,
so it always commits. -/
def synchronizeRecord (record : ActionIntentRecord) : IntakeProg ActionIntentRecord := do
  let approvals ← onTables (Approvals.synchronizeActionIntentState [] record)
  let evidence ← onTables (Evidence.synchronizeActionIntentState [] record)
  Prog.update fun idb => ((), writeStates record approvals evidence idb)
  refresh record.actionIntentRecordId

/-! ### Flushing a record -/

/-- Two rows that cannot both be there. -/
def collides (a b : ActionIntentRecord) : Bool :=
  a.actionIntentRecordId = b.actionIntentRecordId || (a.tenantId = b.tenantId
    && (a.idempotencyKey = b.idempotencyKey || a.submissionId = b.submissionId))

/-- The flush does not have to wait for another transaction. -/
def flushReady (call : Nat) (record : ActionIntentRecord) (idb : IntakeDb) : Bool :=
  idb.flushedIntents.all fun f => f.owner = call || !collides f.record record

/-- The flush of a record, which is stamped then. -/
def flushIntent (call : Nat) (draft : ActionIntentRecord) (idb : IntakeDb) :
    Except ServiceError (ActionIntentRecord × IntakeDb) :=
  let record := { draft with createdAt := idb.db.now }
  if (idb.db.intents.get? record.actionIntentRecordId).isSome then
    .error (.integrity "action_intent_records_pkey")
  else if (findExisting idb record.tenantId record.idempotencyKey).isSome then
    .error (.integrity "uq_action_intent_records_tenant_idempotency_key")
  else if idb.records.any fun r =>
      r.tenantId = record.tenantId && r.submissionId = record.submissionId then
    .error (.integrity "uq_action_intent_records_tenant_submission_id")
  else .ok (record, { idb with flushedIntents := idb.flushedIntents ++ [⟨call, record⟩] })

/-! ### Approvals and evidence of a new record -/

/-- The approvals of a record as intake leaves them in its session. -/
structure Initialized where
  approvalState : ApprovalState
  /-- The request that was opened, and the assignments that the commit adds to it. -/
  opened : Option ApprovalRequest
  /-- Requests that were there before. -/
  requests : List Approvals.Loaded

/-- `synchronize_action_intent_state` of a session that has flushed a request, whose assignments
it has not flushed yet. -/
def synchronizeOpened (record : ActionIntentRecord) (opened : ApprovalRequest) :
    Call Initialized := do
  let rows ← Prog.read fun db => Approvals.requestsOf db record.actionIntentRecordId
  let requests ← Approvals.refreshAll
    (rows.map (Approvals.load []) ++ [⟨opened, { opened with assignments := [] }⟩])
  return {
    approvalState :=
      Approvals.approvalStateOf record.approvalRequirement (requests.map (·.current.status))
    opened := requests.getLast?.map fun l => { l.current with assignments := opened.assignments }
    requests := requests.dropLast }

/-- `initialize_for_action_intent` of the approvals. -/
def initializeApprovals (record : ActionIntentRecord) (approvalRequestId : String) :
    Call Initialized :=
  match record.approvalRequirement with
  | none => return ⟨.notRequired, none, []⟩
  | some requirement => do
      let existing ← Prog.read fun db => Approvals.requestsOf db record.actionIntentRecordId
      if existing = [] then
        synchronizeOpened record (Approvals.openRequest record requirement approvalRequestId)
      else do
        let sync ← Approvals.synchronizeActionIntentState [] record
        return ⟨sync.approvalState, none, sync.requests⟩

/-- `initialize_for_action_intent` of the evidence. -/
def initializeEvidence (record : ActionIntentRecord) : EvidenceState :=
  if record.evidenceRequirement.isSome then .pending else .notRequired

/-- The transaction of this call has ended. -/
def release (call : Nat) (idb : IntakeDb) : IntakeDb :=
  { idb with flushedIntents := idb.flushedIntents.filter fun f => f.owner ≠ call }

/-- The requests with the one that was opened, under the constraints of its tables. -/
def addRequest (approvals : Table String ApprovalRequest (·.approvalRequestId))
    (opened : Option ApprovalRequest) :
    Except ServiceError (Table String ApprovalRequest (·.approvalRequestId)) :=
  match opened with
  | none => .ok approvals
  | some request =>
      match approvals.insert? request with
      | none => .error (.integrity "approval_requests_pkey")
      | some approvals =>
          if (request.assignments.map (·.principal)).Nodup then .ok approvals
          else .error (.integrity "uq_approver_assignments_request_principal")

/-- The row that a commit inserts. -/
def committedRecord (record : ActionIntentRecord) (initialized : Initialized) :
    ActionIntentRecord :=
  { record with
    approvalState := initialized.approvalState
    evidenceState := initializeEvidence record }

/-- The commit of a record and its approvals. -/
def commitIntake (call : Nat) (record : ActionIntentRecord) (initialized : Initialized)
    (idb : IntakeDb) : Except ServiceError Unit × IntakeDb :=
  let written := initialized.requests.foldl Approvals.writeRequest idb.db
  match addRequest written.approvals initialized.opened with
  | .error e => (.error e, release call idb)
  | .ok approvals =>
      match written.intents.insert? (committedRecord record initialized) with
      | none => (.error (.integrity "action_intent_records_pkey"), release call idb)
      | some intents =>
          (.ok (), release call
            { idb with db := { written with intents := intents, approvals := approvals } })

/-! ### Intake -/

/-- What a caller submits, and the ids the call draws. -/
structure IntakeRequest where
  payload : IntakePayload
  /-- The principal of the session, which is whom the record is bound to. -/
  authSession : Option Principal
  actionIntentRecordId : String
  approvalRequestId : String

/-- `payload["requested_by"]`. -/
def IntakeRequest.requestedBy (request : IntakeRequest) : Principal :=
  request.authSession.getD request.payload.requestedBy

/-- The record as it is added to the session. -/
def newRecord (libraries : Libraries) (request : IntakeRequest) (workflowKey : String)
    (validation : ContractValidationResult) (decision : PolicyDecision) : ActionIntentRecord where
  actionIntentRecordId := request.actionIntentRecordId
  tenantId := request.payload.tenantId
  policyId := decision.policy.map (·.policyId)
  policyVersion := decision.policy.map (·.version)
  submissionId := request.payload.submissionId
  idempotencyKey := request.payload.idempotencyKey
  requestedBy := request.requestedBy
  workflowKey := workflowKey
  externalActionIntentId := memberOf request.payload.kernelActionIntent "intent_id"
  contractVersionRef := request.payload.versionRef
  contractValidationStatus := validationStatus validation
  actionIntentDigest := digest libraries request.payload.kernelActionIntent
  financeIndex :=
    buildFinanceIndex request.payload.kernelActionIntent request.payload.evaluationContext
  approvalState := if decision.approvalRequirement.isSome then .notStarted else .notRequired
  evidenceState := if decision.evidenceRequirement.isSome then .pending else .notRequired
  executionState := .notRequested
  approvalRequirement := decision.approvalRequirement
  evidenceRequirement := decision.evidenceRequirement
  decisionState := decision.state
  decisionReason := decision.reason
  matchedRuleId := decision.matchedRuleId
  externalReference := request.payload.externalReference
  createdAt := 0

/-- What is left of an intake that has flushed its record. -/
def finishIntake (call : Nat) (request : IntakeRequest) (record : ActionIntentRecord) :
    IntakeProg IntakeResult := do
  let initialized ← onTables (initializeApprovals record request.approvalRequestId)
  let committed ← Prog.update (commitIntake call record initialized)
  Prog.ofExcept committed
  let record ← refresh record.actionIntentRecordId
  return ⟨record, false⟩

/-- What is left of an intake that has its record. -/
def storeRecord (call : Nat) (request : IntakeRequest) (draft : ActionIntentRecord) :
    IntakeProg IntakeResult := do
  let record ← Prog.transactionWhen (flushReady call draft) (flushIntent call draft)
  finishIntake call request record

section

variable (libraries : Libraries) (engine : PolicyEngine)

/-- What is left of an intake that has found no record.  The workflow key is compared with a column
of texts, and stored in one. -/
def createRecord (call : Nat) (request : IntakeRequest) : IntakeProg IntakeResult :=
  let payload := request.payload
  let validation := validateActionIntent libraries payload.contractFamily payload.versionRef
    payload.kernelActionIntent
  match libraries.columnText (workflowKeyOf payload) with
  | none => Prog.raise (.outside "the driver takes no such workflow key")
  | some workflowKey => do
      let policy ← Prog.read fun idb => getActivePolicy idb.db payload.tenantId workflowKey
      match engine payload.kernelActionIntent (buildIntakeContext payload request.requestedBy)
          payload.evaluationContext policy validation with
      | .error e => Prog.raise e.raised
      | .ok decision =>
          storeRecord call request (newRecord libraries request workflowKey validation decision)

/-- `intake`: an intent that was submitted before is answered with its record. -/
def intake (call : Nat) (request : IntakeRequest) : IntakeProg IntakeResult := do
  let tenant ← onTables (Policies.getTenant request.payload.tenantId)
  if tenant.status ≠ .active then Prog.raise (.value "tenant is not active")
  else do
    let existing ← Prog.read fun idb =>
      findExisting idb request.payload.tenantId request.payload.idempotencyKey
    match existing with
    | some record => do
        let record ← synchronizeRecord record
        return ⟨record, true⟩
    | none => createRecord libraries engine call request

end

end ActionIntents

end ControlPlane
